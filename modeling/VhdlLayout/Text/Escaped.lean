import VhdlLayout.Unicode.Extending
import VhdlLayout.Unicode.Printable

/-!
# Escaped text

How messages show a character or a text between quotation marks. The mark
itself and the backslash are preceded by a backslash, the common controls have
their one-letter escapes, and whatever cannot be seen by itself is shown by its
code point in hexadecimal digits between braces.
-/

namespace VhdlLayout.Escaped

/-- The character between quotation marks of the kind `mark`. -/
def char (mark c : Char) : String :=
  if c = '\x00' then "\\0"
  else if c = '\t' then "\\t"
  else if c = '\r' then "\\r"
  else if c = '\n' then "\\n"
  else if c = mark ∨ c = '\\' then "\\" ++ c.toString
  else if Unicode.isExtending c || !Unicode.isPrintable c then
    "\\u\x7b" ++ String.ofList (Nat.toDigits 16 c.toNat) ++ "\x7d"
  else c.toString

/-- A character between apostrophes. -/
def quoteChar (c : Char) : String := "'" ++ char '\'' c ++ "'"

/-- A text between double quotation marks. -/
def quoteText (text : String) : String :=
  "\"" ++ String.join (text.toList.map (char '"')) ++ "\""

end VhdlLayout.Escaped
