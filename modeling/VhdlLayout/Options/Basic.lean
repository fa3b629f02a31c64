/-!
# Options

What a user may choose about the layout of a program: how wide its lines may be,
how it is indented, how its lines end, in which case its words are written, and
whether columns are aligned.
-/

namespace VhdlLayout

/-- The case in which letters are written. -/
inductive Casing where
  | lower
  | upper
  | preserve
deriving DecidableEq, Repr

/-- A text in the chosen case. Only the letters of the basic Latin alphabet change, so the text
stays as long as it is. -/
def Casing.apply : Casing → String → String
  | .lower, text => text.toLower
  | .upper, text => text.toUpper
  | .preserve, text => text

/-- The characters that lines are indented with. -/
inductive IndentStyle where
  | spaces
  /-- A tab for every full unit of indentation, and spaces for the rest. -/
  | tabs
deriving DecidableEq, Repr

/-- The characters that end a line. -/
inductive LineEnding where
  | lf
  | crlf
deriving DecidableEq, Repr

/-- The characters themselves. -/
def LineEnding.text : LineEnding → String
  | .lf => "\n"
  | .crlf => "\r\n"

/-- What a user may choose about the layout of a program. -/
structure Options where
  /-- How many columns a line may take before it is broken. -/
  lineWidth : Nat := 120
  /-- How many columns a unit of indentation takes. -/
  indentSize : Nat := 2
  indentStyle : IndentStyle := .spaces
  lineEnding : LineEnding := .lf
  /-- The case of reserved words. -/
  keywordCase : Casing := .lower
  /-- The case of constants and literals, which documents are built with. -/
  constantCase : Casing := .preserve
  /-- The case of identifiers, which documents are built with. -/
  identifierCase : Casing := .preserve
  /-- Columns are aligned within their scopes. -/
  align : Bool := true
deriving DecidableEq, Repr

namespace Options

/-- The options of a user who has chosen nothing. -/
def default : Options := {}

/-- The columns that a tab stands for. -/
def tabWidth (o : Options) : Nat := max o.indentSize 1

/-- The characters that indent a line by so many columns. -/
def indentation (o : Options) (columns : Nat) : String :=
  match o.indentStyle with
  | .spaces => String.ofList (List.replicate columns ' ')
  | .tabs => String.ofList
      (List.replicate (columns / o.tabWidth) '\t' ++ List.replicate (columns % o.tabWidth) ' ')

end Options

end VhdlLayout
