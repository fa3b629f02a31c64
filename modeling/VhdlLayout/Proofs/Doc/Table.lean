import Mathlib
import VhdlLayout.Proofs.Doc.Columns
import VhdlLayout.Proofs.Doc.Sequence

/-!
# Tables

A table is a scope whose rows stand on lines of their own. The cells of a row are texts of
columns, numbered from the left, with a separator between each two. Rows need not be
equally long: one may end before the others, go on behind them, or have no cells at all.

When the columns are made equally wide, spaces are put behind the cells. These merge with
the separators, and the line ends around an empty row merge with each other. But the padded
document is still read leaf by leaf (`Doc.IsReading.paddedTo`), so nothing of this is seen
in its layout:

* `Table.columnWidth_body`: a column is as wide as the widest cell at its place in any row;
* `Cell.writes_paddedTo_leaf`: a cell is laid out with spaces up to the width of its column;
* `Table.print_doc`: a table is laid out row by row, with its cells in columns.
-/

namespace VhdlLayout

/-! ## Cells -/

/-- A cell of a table: a text or a reserved word. -/
inductive Cell where
  | text (content : String)
  | keyword (content : String)
deriving DecidableEq, Repr

namespace Cell

/-- How many characters the cell has. -/
def width : Cell → Nat
  | .text content | .keyword content => content.length

/-- The cell as a leaf that belongs to a column. -/
def leaf (level : Nat) : Cell → Doc
  | .text content => .text content (some level)
  | .keyword content => .keyword content (some level)

/-- What is written for the cell, if it is not padded. -/
def written (o : Options) : Cell → String
  | .text content => content
  | .keyword content => o.keywordCase.apply content

theorem cells_leaf (cell : Cell) (level : Nat) : (cell.leaf level).cells = [(level, cell.width)] := by
  cases cell <;> rfl

theorem isNormal_leaf (cell : Cell) (level : Nat) : (cell.leaf level).IsNormal := by
  cases cell <;> trivial

theorem length_written (cell : Cell) (o : Options) : (cell.written o).length = cell.width := by
  cases cell with
  | text content => rfl
  | keyword content => exact Casing.length_apply _ _

theorem writes_leaf (cell : Cell) (o : Options) (level : Nat) :
    ((cell.leaf level).layout o).Writes (cell.written o) := by
  cases cell with
  | text content => exact Doc.writes_text o content _
  | keyword content =>
    intro mode column
    rw [leaf, Doc.layout_keyword, written]

/-- The leaf of a cell is padded to the width of its column. -/
theorem writes_paddedTo_leaf (cell : Cell) (o : Options) (level : Nat) (widest : Nat → Nat) :
    (((cell.leaf level).paddedTo widest).layout o).Writes
      (String.rightpad (widest level) ' ' (cell.written o)) := by
  have hpadded : (cell.leaf level).paddedTo widest =
      if cell.width < widest level
      then .concat (cell.leaf level) (.padding (widest level - cell.width))
      else cell.leaf level := by
    cases cell <;> rfl
  rw [hpadded, String.rightpad, length_written]
  split
  · next hlt =>
    rw [(Doc.isReading_layout o).concat]
    exact (cell.writes_leaf o level).andThen (Doc.writes_text o _ none)
  · next hle =>
    have hnone : String.replicate (widest level - cell.width) ' ' = "" := by
      rw [Nat.sub_eq_zero_of_le (Nat.le_of_not_lt hle)]
      rfl
    rw [hnone, String.append_empty]
    exact cell.writes_leaf o level

end Cell

/-! ## Tables -/

/-- The rows of a table, and what stands between each two cells of a row. -/
structure Table where
  separator : String
  rows : List (List Cell)
deriving DecidableEq, Repr

namespace Table

variable (t : Table) (o : Options)

/-- The cells of a row, each in the column of its place. -/
def rowDoc (row : List Cell) : Doc :=
  .join (.text t.separator none) (row.mapIdx fun level cell => cell.leaf level)

/-- The rows, each on a line of its own. -/
def body : Doc := .join .hardLine (t.rows.map t.rowDoc)

/-- The table as a scope. -/
def doc : Doc := .align t.body

/-- The widths of the cells at one place in the rows, where there are any. -/
def column (level : Nat) : List Nat := t.rows.filterMap fun row => row[level]?.map Cell.width

/-- The width of the widest cell at one place in the rows. -/
def columnWidth (level : Nat) : Nat := (t.column level).max?.getD 0

/-- A row as it is written: its cells, padded to the widths of their columns, with the separator
between each two. -/
def line (row : List Cell) : String :=
  t.separator.intercalate
    (row.mapIdx fun level cell => String.rightpad (t.columnWidth level) ' ' (cell.written o))

theorem isNormal_rowDoc (row : List Cell) : (t.rowDoc row).IsNormal := by
  have hsep : (Doc.text t.separator none).IsNormal := trivial
  refine Doc.isNormal_join hsep fun d hd => ?_
  obtain ⟨level, _, rfl⟩ := List.mem_mapIdx.1 hd
  exact Cell.isNormal_leaf _ _

theorem isNormal_body : t.body.IsNormal := by
  have hsep : Doc.hardLine.IsNormal := trivial
  exact Doc.isNormal_join hsep (List.forall_mem_map.2 fun row _ => t.isNormal_rowDoc row)

theorem mem_cells_rowDoc {row : List Cell} {level width : Nat} :
    (level, width) ∈ (t.rowDoc row).cells ↔ row[level]?.map Cell.width = some width := by
  rw [rowDoc, Doc.cells_join rfl, List.mem_flatMap, Option.map_eq_some_iff]
  constructor
  · rintro ⟨d, hd, hmem⟩
    -- A leaf has one cell, and its level is the place of the leaf in the row.
    obtain ⟨i, hi, rfl⟩ := List.mem_mapIdx.1 hd
    rw [Cell.cells_leaf, List.mem_singleton, Prod.mk.injEq] at hmem
    obtain ⟨rfl, rfl⟩ := hmem
    exact ⟨row[level], List.getElem?_eq_getElem hi, rfl⟩
  · rintro ⟨cell, hcell, rfl⟩
    obtain ⟨hlevel, rfl⟩ := List.getElem?_eq_some_iff.1 hcell
    refine ⟨_, List.mem_mapIdx.2 ⟨level, hlevel, rfl⟩, ?_⟩
    rw [Cell.cells_leaf]
    exact List.mem_singleton_self _

theorem mem_column_body {level width : Nat} :
    width ∈ t.body.column level ↔ width ∈ t.column level := by
  rw [Doc.mem_column, body, Doc.cells_join rfl, List.mem_flatMap, column, List.mem_filterMap]
  simp only [List.mem_map, exists_exists_and_eq_and, mem_cells_rowDoc]

/-- The columns of the scope are those of the table. -/
theorem columnWidth_body (level : Nat) : t.body.columnWidth level = t.columnWidth level := by
  rw [Doc.columnWidth, columnWidth]
  congr 1
  -- Which text is the widest depends on what texts there are, not on their order.
  ext width
  simp only [List.max?_eq_some_iff, mem_column_body]

variable {t} in
theorem width_le_columnWidth {row : List Cell} (hrow : row ∈ t.rows) {level : Nat} {cell : Cell}
    (hcell : row[level]? = some cell) : cell.width ≤ t.columnWidth level := by
  have hmem : cell.width ∈ t.column level :=
    List.mem_filterMap.2 ⟨row, hrow, by rw [hcell]; rfl⟩
  rw [← mem_column_body, Doc.mem_column] at hmem
  rw [← columnWidth_body]
  exact (Doc.isGreatest_columnWidth hmem).2 hmem

/-! ## Lines -/

/-- A row is laid out as its line. -/
theorem writes_rowDoc (row : List Cell) :
    (((t.rowDoc row).paddedTo t.columnWidth).layout o).Writes (t.line o row) := by
  -- Told together with its place, a cell knows its column.
  rw [rowDoc, line, List.mapIdx_eq_zipIdx_map, List.mapIdx_eq_zipIdx_map]
  have padded := (Doc.isReading_layout o).paddedTo t.columnWidth
  refine padded.writes_join (Doc.writes_empty o) ?_ fun cell _ => ?_
  · exact Doc.writes_text o t.separator none
  · exact cell.1.writes_paddedTo_leaf o cell.2 t.columnWidth

theorem writes_body :
    ((t.body.paddedTo t.columnWidth).layout o).Writes
      (o.lineEnding.text.intercalate (t.rows.map (t.line o))) := by
  have padded := (Doc.isReading_layout o).paddedTo t.columnWidth
  refine padded.writes_join (Doc.writes_empty o) ?_ fun row _ => t.writes_rowDoc o row
  exact Doc.writes_hardLine o

variable {o}

/-- *Tables come out in columns.* With alignment a table is laid out row by row. Each row is its
cells, reserved words in the chosen case, with the separator between each two, and with as many
spaces behind each that it takes as many characters as the widest cell at its place in any row. -/
theorem print_doc (h : o.align = true) :
    t.doc.print o = o.lineEnding.text.intercalate (t.rows.map (t.line o)) ∧
    ∀ row ∈ t.rows, ∀ level cell, row[level]? = some cell →
      (String.rightpad (t.columnWidth level) ' ' (cell.written o)).length = t.columnWidth level := by
  refine ⟨?_, fun row hrow level cell hcell => ?_⟩
  · have columns : t.body.columnWidth = t.columnWidth := funext t.columnWidth_body
    have resolved : t.doc.layout o = (t.body.paddedTo t.columnWidth).layout o := by
      rw [doc, Doc.layout_align, Doc.scopeContent, if_pos h,
        Doc.resolved_eq_paddedTo t.isNormal_body, columns]
    rw [Doc.print_eq_rendering, ← t.writes_body o .broken 0, ← resolved, Doc.layout]
  · have widest := width_le_columnWidth hrow hcell
    rw [String.rightpad, String.length_append, String.length_replicate, Cell.length_written]
    omega

/-- A table with a row that is too short, one without cells, and an empty cell. -/
theorem print_doc_ports :
    let o : Options := { lineEnding := .crlf, keywordCase := .upper }
    let t : Table := ⟨" : ", [[.text "clk", .keyword "in", .text "bit"], [],
      [.text "q", .keyword "out"], [.text ""]]⟩
    o.align = true ∧ t.doc.print o = "clk : IN  : bit\r\n\r\nq   : OUT\r\n   " := by
  intro o t
  refine ⟨rfl, ?_⟩
  rw [(print_doc t (rfl : o.align = true)).1]
  cbv

end Table

end VhdlLayout
