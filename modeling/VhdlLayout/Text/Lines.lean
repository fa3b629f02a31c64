import VhdlLayout.Text.Sorted

/-!
# Lines of a text

A text's lines are found again from byte offsets: a table of the offsets at
which lines start, made once for a text (`Lines.ofSource`), gives the line of an
offset and its column within that line (`Lines.position`). A line feed belongs
to the line that it ends.
-/

namespace VhdlLayout

/-- A place in a text: its line and the byte within that line, both counted from one. -/
structure Position where
  line : Nat
  column : Nat
deriving DecidableEq, Repr

/-- The offset at which each line of a text starts. -/
structure Lines where
  starts : Array Nat
deriving DecidableEq, Repr

namespace Lines

/-- The starts of the lines after the first, for a text that itself starts at `offset`. -/
def startsFrom (offset : Nat) : List Char → List Nat
  | [] => []
  | c :: cs =>
    if c = '\n' then (offset + 1) :: startsFrom (offset + 1) cs
    else startsFrom (offset + c.utf8Size) cs

/-- The lines of a source text. The first starts at offset zero, also in an empty text. -/
def ofSource (source : String) : Lines := ⟨(0 :: startsFrom 0 source.toList).toArray⟩

/-- The place of a byte offset. Offsets past the end are counted from the last line's start. -/
def position (lines : Lines) (offset : Nat) : Position :=
  let index := countAtMost lines.starts offset - 1
  ⟨index + 1, offset - lines.starts.getD index 0 + 1⟩

end Lines

end VhdlLayout
