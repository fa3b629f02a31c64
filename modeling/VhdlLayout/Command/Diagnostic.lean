import VhdlLayout.Equivalence.Check
import VhdlLayout.Files
import VhdlLayout.Json
import VhdlLayout.Text.LineBreaks

/-!
# Diagnostics

What is reported about two files that are compared: that one cannot be read, that
one holds malformed text, or that one does not denote the same program as the
other. Every diagnostic has a code. It is written as a few lines of text
(`Diagnostic.report`) or as JSON (`Diagnostic.json`), with the members of each
object in the order of their names. How JSON is written is left open
(`Diagnostic.lines`).
-/

namespace VhdlLayout

/-- How diagnostics are written. -/
inductive ReportStyle where
  | plain
  /-- With colours, as terminals show them. -/
  | coloured
  /-- As one JSON object a line. -/
  | json
deriving DecidableEq, Repr

/-- Something to report about files. -/
inductive Diagnostic where
  /-- The file at `path` cannot be read. -/
  | unreadable (path : String) (error : FileError)
  /-- The file holds malformed text. -/
  | lexical (file : String) (error : LexicalError)
  /-- The texts of two files part; the report points into `file`. -/
  | divergent (file : String) (divergence : Divergence)
deriving DecidableEq, Repr

/-- How bad something is. -/
inductive Severity where
  | warning
  | error
deriving DecidableEq, Repr

/-- The severity in words. -/
def Severity.name : Severity → String
  | .warning => "warning"
  | .error => "error"

/-- The severity in words at the start of a line. -/
def Severity.heading : Severity → String
  | .warning => "Warning"
  | .error => "Error"

/-- The span drawn out to at least one byte. -/
def Span.widened (s : Span) : Span := ⟨s.start, max s.stop (s.start + 1)⟩

namespace Span

/-- The span as JSON. -/
def json (s : Span) : Json := .object [("end", .number s.stop), ("start", .number s.start)]

/-- The span as JSON, with a remark on it. -/
def jsonWithLabel (s : Span) (label : String) : Json :=
  .object [("end", .number s.stop), ("label", .string label), ("start", .number s.start)]

end Span

/-- The token as JSON. -/
def Sighting.json (s : Sighting) : Json :=
  .object [("column", .number s.position.column), ("kind", .string s.kind.name),
    ("line", .number s.position.line), ("span", s.span.json), ("text", .string s.text)]

namespace Divergence

/-- The divergence as JSON. -/
def json : Divergence → Json
  | .mismatch original formatted =>
    .object [("Mismatch",
      .object [("formatted", formatted.json), ("original", original.json)])]
  | .leftover side token =>
    .object [("Leftover", .object [("side", .string side.name), ("token", token.json)])]

/-- A remark on the token that the report points at. -/
def label : Divergence → String
  | .mismatch _ _ => "differs from the original"
  | .leftover side _ => "no counterpart in the " ++ side.other.name ++ " text"

/-- A further remark. -/
def note? : Divergence → Option String
  | .mismatch original _ => some ("the original has " ++ original.describe)
  | .leftover _ _ => none

end Divergence

namespace Diagnostic

/-- The code of the kind of diagnostic. -/
def code : Diagnostic → String
  | .unreadable .. => "V0002"
  | .lexical .. => "L0001"
  | .divergent .. => "V0001"

/-- How bad it is. Malformed text alone does no harm. -/
def severity : Diagnostic → Severity
  | .lexical .. => .warning
  | .unreadable .. | .divergent .. => .error

/-- The diagnostic in words. -/
def message : Diagnostic → String
  | .unreadable path error => "Failed to read '" ++ path ++ "': " ++ error.message
  | .lexical _ error => error.fault.message
  | .divergent _ divergence => divergence.message

/-- The file that the diagnostic points into. -/
def file? : Diagnostic → Option String
  | .unreadable .. => none
  | .lexical file _ | .divergent file _ => some file

/-- The part of the file that the diagnostic points at, with a remark on it. -/
def mark? : Diagnostic → Option (Span × String)
  | .unreadable .. => none
  | .lexical _ error => some (error.span.widened, error.fault.message)
  | .divergent _ divergence => some (divergence.token.span.widened, divergence.label)

/-- What only some diagnostics have, as members of a JSON object. -/
def details : Diagnostic → List (String × Json)
  | .divergent _ divergence => [("detail", divergence.json)]
  | .unreadable .. | .lexical .. => []

/-- The diagnostic as JSON. No diagnostic knows how to mend what it is about. -/
def json (d : Diagnostic) : Json :=
  .object <| ("code", .string d.code) :: d.details ++
    [("file", .string (d.file?.getD "")), ("fix", .null), ("message", .string d.message),
      ("severity", .string d.severity.name),
      ("spans", .array (d.mark?.toList.map fun m => m.1.jsonWithLabel m.2))]

/-- The text in the colour of the severity, as terminals show it. -/
def colour (severity : Severity) (text : String) : String :=
  match severity with
  | .warning => "\x1b[33m" ++ text ++ "\x1b[0m"
  | .error => "\x1b[31m" ++ text ++ "\x1b[0m"

/-- The code and the severity at the start of a line. -/
def label (d : Diagnostic) : String := "[" ++ d.code ++ "] " ++ d.severity.heading ++ ":"

/-- The code and the severity at the start of a line in some style. -/
def heading (d : Diagnostic) (style : ReportStyle) : String :=
  if style = .coloured then colour d.severity d.label else d.label

/-- The diagnostic in words, as it is written in some style other than JSON. A further remark is cut
at the end of its first line. -/
def report (d : Diagnostic) (style : ReportStyle) : List String :=
  match d with
  | .unreadable .. => ["error: " ++ d.message]
  | .lexical file _ => [file ++ ":", d.heading style ++ " Lexical error"]
  | .divergent file divergence =>
    [file ++ ":", d.heading style ++ " " ++ d.message] ++
      divergence.note?.toList.map fun note => "Note: " ++ (textLines note).headD ""

/-- The diagnostic as it is written in some style, line by line. -/
def lines (writeJson : Json → String) (d : Diagnostic) : ReportStyle → List String
  | .json => [writeJson d.json]
  | style => (d.report style).flatMap textLines

end Diagnostic

end VhdlLayout
