import VhdlLayout.Text.Span
import VhdlLayout.Toml.Basic

/-!
# Excerpts

The line of a text that a complaint is about, with a row of carets below the
part that is meant. There are as many carets as that part has bytes, but at least
one, and no more than the line has bytes beyond the column at which they start.
-/

namespace VhdlLayout.Toml

/-- A line with a part of it marked. -/
structure Excerpt where
  /-- The number of the line, counted from one. -/
  line : Nat
  /-- How many characters stand before the marked part. -/
  column : Nat
  content : String
  /-- How many carets mark the part. -/
  carets : Nat
deriving DecidableEq, Repr

/-- What follows the last line feed. -/
def lastLine (cs : List Char) : List Char := (cs.reverse.takeWhile (· != '\n')).reverse

/-- What comes before the first line feed. -/
def firstLine (cs : List Char) : List Char := cs.takeWhile (· != '\n')

namespace Excerpt

/-- How many carets mark a part of a line. -/
def caretsFor (part content : List Char) (column : Nat) : Nat :=
  max 1 (min (byteLength part) (byteLength content - column))

/-- The excerpt for a part of a text that stands between the texts `before` and `after`. -/
def ofParts (before part after : List Char) : Excerpt where
  line := before.count '\n' + 1
  column := (lastLine before).length
  content := String.ofList (lastLine before ++ firstLine (part ++ after))
  carets := caretsFor part (lastLine before ++ firstLine (part ++ after)) (lastLine before).length

/-- The excerpt for a part of the characters of a text. -/
def ofChars (cs : List Char) (e : Extent) : Excerpt :=
  ofParts (cs.take (cs.length - e.start))
    ((cs.drop (cs.length - e.start)).take (e.start - e.stop)) (cs.drop (cs.length - e.stop))

/-- The excerpt for a part of a text. -/
def ofExtent (text : String) (e : Extent) : Excerpt := ofChars text.toList e

/-- Repeats a character. -/
def row (count : Nat) (c : Char) : String := String.ofList (List.replicate count c)

/-- The margin beside the number of the line. -/
def margin (e : Excerpt) : String := row ((toString e.line).length + 1) ' ' ++ "|"

/-- The excerpt as it is shown, with a line end after each of its lines. -/
def text (e : Excerpt) : String :=
  "TOML parse error at line " ++ toString e.line ++ ", column " ++ toString (e.column + 1) ++
  "\n" ++ e.margin ++ "\n" ++
  toString e.line ++ " | " ++ e.content ++ "\n" ++
  e.margin ++ " " ++ row e.column ' ' ++ row e.carets '^' ++ "\n"

end Excerpt

end VhdlLayout.Toml
