import VhdlLayout.Toml.Space

/-!
# Quoted text

Text is written between double quotes, where a backslash announces an escape, or
between single quotes, where every character stands for itself. Three quotes at
either end allow for several lines: a line end right after the first three is
dropped, any other one is read as a line feed, and one or two quotes in a row may
stand anywhere, also right before the last three.
-/

namespace VhdlLayout.Toml

/-- The value of a hexadecimal digit. -/
def hexDigit? (c : Char) : Option Nat :=
  if c.isDigit then some (c.toNat - '0'.toNat)
  else if 'a' ≤ c ∧ c ≤ 'f' then some (c.toNat - 'a'.toNat + 10)
  else if 'A' ≤ c ∧ c ≤ 'F' then some (c.toNat - 'A'.toNat + 10)
  else none

/-- The number that hexadecimal digits stand for. -/
def hexNumber? (cs : List Char) : Option Nat := do
  pure ((← cs.mapM hexDigit?).foldl (16 * · + ·) 0)

/-- The character of a code point. -/
def charOfCode? (n : Nat) : Option Char :=
  if n.isValidChar then some (Char.ofNat n) else none

namespace Rule

/-- Takes the given number of hexadecimal digits and gives the character of that code. -/
def codePoint (digits : Nat) : Rule Char := fun cs => do
  let n ← hexNumber? (cs.take digits)
  if digits ≤ cs.length then pure ((← charOfCode? n), cs.drop digits) else none

/-- Takes the character after a backslash, and what belongs to it. -/
def escaped : Rule Char := do
  match ← satisfying fun _ => true with
  | 'b' => pure '\x08'
  | 't' => pure '\t'
  | 'n' => pure '\n'
  | 'f' => pure '\x0c'
  | 'r' => pure '\r'
  | '"' => pure '"'
  | '\\' => pure '\\'
  | 'u' => codePoint 4
  | 'U' => codePoint 8
  | _ => failure

/-- Takes a character between double quotes. -/
def basicChar : Rule Char :=
  satisfying (fun c => isTextual c && c != '"' && c != '\\') <|> char '\\' *> escaped

/-- Takes a character between single quotes. -/
def literalChar : Rule Char := satisfying fun c => isTextual c && c != '\''

/-- Takes a text on one line. -/
def line (mark : Char) (content : Rule Char) : Rule (List Char) :=
  char mark *> many content <* char mark

/-- Takes a backslash that ends a line, with all blanks and line ends after it. -/
def continuation : Rule Unit := do
  char '\\'
  blanks
  newline
  skip (many (skip (satisfying isBlank) <|> newline))

/-- Takes the quotes that come next if there are so many of them. -/
def marks (mark : Char) (least greatest : Nat) : Rule (List Char) :=
  guarded (spanning (· == mark)) fun run => least ≤ run.length && run.length ≤ greatest

/-- Takes a text that may go over several lines. -/
def block (mark : Char) (content : Rule (List Char)) : Rule (List Char) := do
  exactly (String.ofList [mark, mark, mark])
  skip (optional newline)
  let inner ← many (content <|> (do newline; pure ['\n']) <|> marks mark 1 2)
  let last ← marks mark 3 5
  pure (inner.flatten ++ last.drop 3)

/-- Takes a text on one line. -/
def quotedLine : Rule String :=
  String.ofList <$> (line '"' basicChar <|> line '\'' literalChar)

/-- Takes a text over several lines. -/
def quotedBlock : Rule String :=
  String.ofList <$> (
    block '"' ((do continuation; pure []) <|> (do pure [← basicChar])) <|>
    block '\'' (do pure [← literalChar]))

/-- Takes a text. -/
def quoted : Rule String := quotedBlock <|> quotedLine

end Rule

end VhdlLayout.Toml
