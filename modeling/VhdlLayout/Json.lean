/-!
# JSON

Values that can be written as JSON. The members of an object are in the order in
which they are written, which is that of their names for all that the program
reports.

The program writes values on one line and without blanks (`Json.text`). In texts,
quotes and backslashes are preceded by a backslash and controls are written as
escapes; all other characters stand for themselves.
-/

namespace VhdlLayout

/-- A value that can be written as JSON. -/
inductive Json where
  | null
  | bool (value : Bool)
  | number (value : Nat)
  | string (text : String)
  | array (items : List Json)
  | object (members : List (String × Json))

namespace Json

/-- The digit of a number below sixteen. -/
def hexDigit (n : Nat) : Char := (Nat.toDigits 16 (n % 16)).headD '0'

/-- The character as it is written between quotes. -/
def escape (c : Char) : String :=
  match c with
  | '"' => "\\\""
  | '\\' => "\\\\"
  | '\x08' => "\\b"
  | '\t' => "\\t"
  | '\n' => "\\n"
  | '\x0c' => "\\f"
  | '\r' => "\\r"
  | c =>
    if c < ' ' then "\\u00" ++ String.ofList [hexDigit (c.toNat / 16), hexDigit c.toNat]
    else c.toString

/-- The text between quotes. -/
def quote (text : String) : String :=
  "\"" ++ String.join (text.toList.map escape) ++ "\""

mutual

/-- The value as it is written. -/
def text : Json → String
  | .null => "null"
  | .bool b => toString b
  | .number n => toString n
  | .string s => quote s
  | .array items => "[" ++ ",".intercalate (texts items) ++ "]"
  | .object members => "\x7b" ++ ",".intercalate (memberTexts members) ++ "\x7d"

/-- The values as they are written. -/
def texts : List Json → List String
  | [] => []
  | j :: js => text j :: texts js

/-- The members as they are written. -/
def memberTexts : List (String × Json) → List String
  | [] => []
  | (name, j) :: members => (quote name ++ ":" ++ text j) :: memberTexts members

end

end Json

end VhdlLayout
