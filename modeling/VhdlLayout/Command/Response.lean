import VhdlLayout.Command.Arguments
import VhdlLayout.Options.Reading

/-!
# Responses

What the program does on a command: what it writes as its output, what it writes
as diagnostics, and the status that it ends with. Files come in as what reading
them has given. How JSON is written, and how options are read and written, is
left open (`Command.respondBy`); the program has one way for each
(`Command.respond`).

Two files are compared if both can be read; the original is read first, and the
first failure is the only diagnostic. Malformed text in either file is reported,
in the original first, but has no influence on the comparison.
-/

namespace VhdlLayout

/-- What comes of reading a file. -/
abbrev ReadFile := String → Except FileError String

/-- What has been found out about two files. -/
structure Verification where
  diagnostics : List Diagnostic
  /-- The files denote the same program. -/
  isEquivalent : Bool
deriving DecidableEq, Repr

namespace Verification

/-- Nothing but that a file cannot be read. -/
def unreadable (path : String) (error : FileError) : Verification :=
  ⟨[.unreadable path error], false⟩

/-- The report on a divergence, which points into the file on its side. -/
def reportOn (original formatted : String) (d : Divergence) : Diagnostic :=
  match d.side with
  | .original => .divergent original d
  | .formatted => .divergent formatted d

/-- What is malformed in the text of a file. -/
def warnings (file text : String) : List Diagnostic := (lexicalErrors text).map (.lexical file)

/-- What is found out about the texts of the files `original` and `formatted`. -/
def ofTexts (original formatted originalText formattedText : String) : Verification :=
  match divergence? originalText formattedText with
  | none => ⟨warnings original originalText ++ warnings formatted formattedText, true⟩
  | some d =>
    ⟨warnings original originalText ++ warnings formatted formattedText ++
      [reportOn original formatted d], false⟩

/-- What is found out about two files. -/
def ofFiles (read : ReadFile) (original formatted : String) : Verification :=
  match read original, read formatted with
  | .ok originalText, .ok formattedText => ofTexts original formatted originalText formattedText
  | .error e, _ => unreadable original e
  | _, .error e => unreadable formatted e

end Verification

/-- What the program does on a command. -/
structure Response where
  /-- Zero if all went well. -/
  status : Nat
  output : String
  /-- The lines that are written as diagnostics. -/
  diagnostics : List String
deriving DecidableEq, Repr

namespace Response

/-- A command that has given its output. -/
def success (output : String) : Response := ⟨0, output, []⟩

/-- A command that cannot be understood. -/
def usage : Response :=
  ⟨2, "", ["usage: vhdlfmt verify [--json] [--no-color] ORIGINAL FORMATTED",
    "       vhdlfmt config [PATH]", "       vhdlfmt --version"]⟩

/-- What is written if two files denote the same program. -/
def equivalent (writeJson : Json → String) (original formatted : String) : ReportStyle → String
  | .json => writeJson (.object [("equivalent", .bool true)]) ++ "\n"
  | _ => formatted ++ " is equivalent to " ++ original ++ "\n"

/-- The response to the command `verify`. -/
def ofVerification (writeJson : Json → String) (original formatted : String) (style : ReportStyle)
    (v : Verification) : Response where
  status := if v.isEquivalent then 0 else 1
  output := if v.isEquivalent then equivalent writeJson original formatted style else ""
  diagnostics := v.diagnostics.flatMap (·.lines writeJson style)

/-- A command that has not found out what it should. -/
def failure (reason : String) : Response := ⟨1, "", ["error: " ++ reason]⟩

/-- The response to the command `config`. -/
def ofOptions (codec : Options.Codec) : Except OptionsError Options → Response
  | .ok o =>
    match codec.text o with
    | .ok text => success text
    | .error e => failure e.message
  | .error e => failure e.message

end Response

namespace Command

/-- The options that the command `config` shows. -/
def optionsBy (codec : Options.Codec) (read : ReadFile) :
    Option String → Except OptionsError Options
  | none => .ok Options.default
  | some path => codec.readFile path (read path)

/-- The response to the command. -/
def respondBy (writeJson : Json → String) (codec : Options.Codec) (read : ReadFile) :
    Command → Response
  | .verify original formatted style =>
    .ofVerification writeJson original formatted style
      (Verification.ofFiles read original formatted)
  | .config path => .ofOptions codec (optionsBy codec read path)
  | .version => .success "vhdlfmt 0.1.0\n"

/-- The options that the command `config` of the program shows. -/
def options (read : ReadFile) (path : Option String) : Except OptionsError Options :=
  optionsBy Options.toml read path

/-- The response of the program to the command. -/
def respond (read : ReadFile) (command : Command) : Response :=
  command.respondBy Json.text Options.toml read

end Command

end VhdlLayout
