import Mathlib
import VhdlLayout.Proofs.Doc.Columns
import VhdlLayout.Proofs.Doc.OneLine
import VhdlLayout.Proofs.Doc.Sequence

/-!
# Documents without columns

Whether columns are aligned is up to the options. If they are not, a document is laid
out as if no text in it belonged to a column at all. Such a document is made by a pass
that puts plain texts in the place of those of columns, also within scopes
(`Doc.withoutColumns`).

The pass changes more than the texts themselves, for a plain text is merged with its
neighbours, and these may stand far away in the tree. But whatever is read off a
document leaf by leaf does not see this (`Doc.IsReading.withoutColumns_cat`). Where the
document fits is such a reading, and so is its layout; and as no cells are left, nothing
is padded in the scopes, whether columns are aligned or not:

* `Doc.resolve_withoutColumns`: every scope stays as it is when it is resolved;
* `Doc.layout_withoutColumns`: the document is laid out as the one that it has been
  made from is without alignment.
-/

namespace VhdlLayout.Doc

variable {M : Type*} {op : M → M → M} {reading : Doc → M}

/-- What becomes of a node if no text is to belong to a column. -/
def loosen : Doc → Rewrite
  | .text content (some _) => .replace (.text content none)
  | .keyword content (some _) => .replace (.keyword content none)
  | _ => .descend

/-- The document with plain texts in the place of all texts of columns. -/
def withoutColumns (d : Doc) : Doc := (rewrite (fun (_ : Unit) e => ((), loosen e)) () d).2.getD d

theorem withoutColumns_eq_rewriteTree (d : Doc) : d.withoutColumns =
    (rewriteTree (fun (_ : Unit) e => ((), loosen e)) d ()).2.getD d := by
  rw [withoutColumns, rewrite_eq_rewriteTree]

/-! ## The pass, node by node -/

theorem withoutColumns_text (content : String) (level : Option Nat) :
    (Doc.text content level).withoutColumns = .text content none := by
  rw [withoutColumns_eq_rewriteTree]
  cases level <;> rfl

theorem withoutColumns_keyword (content : String) (level : Option Nat) :
    (Doc.keyword content level).withoutColumns = .keyword content none := by
  rw [withoutColumns_eq_rewriteTree]
  cases level <;> rfl

theorem withoutColumns_of_leaf {d : Doc} (h : d.children = []) (hcell : d.cell? = none) :
    d.withoutColumns = d := by
  rw [withoutColumns_eq_rewriteTree]
  cases d with
  | text content level | keyword content level =>
    cases level with
    | none => rfl
    | some level => cases hcell
  | empty | softLine | hardLine | hardLines => rfl
  | _ => cases h

theorem withoutColumns_nest (child : Doc) :
    (Doc.nest child).withoutColumns = .nest child.withoutColumns := by
  rw [withoutColumns_eq_rewriteTree, withoutColumns_eq_rewriteTree, ← getD_rebuildOne .nest]
  rfl

theorem withoutColumns_hang (child : Doc) :
    (Doc.hang child).withoutColumns = .hang child.withoutColumns := by
  rw [withoutColumns_eq_rewriteTree, withoutColumns_eq_rewriteTree, ← getD_rebuildOne .hang]
  rfl

theorem withoutColumns_align (child : Doc) :
    (Doc.align child).withoutColumns = .align child.withoutColumns := by
  rw [withoutColumns_eq_rewriteTree, withoutColumns_eq_rewriteTree, ← getD_rebuildOne .align]
  rfl

theorem withoutColumns_union (flat broken : Doc) :
    (Doc.union flat broken).withoutColumns =
      .union flat.withoutColumns broken.withoutColumns := by
  rw [withoutColumns_eq_rewriteTree, withoutColumns_eq_rewriteTree, withoutColumns_eq_rewriteTree,
    ← getD_rebuildTwo .union]
  rfl

/-- Texts that become plain may be merged with any others around; this is not seen in what is read
off the document. -/
theorem IsReading.withoutColumns_cat (h : IsReading op reading) (left right : Doc) :
    reading (Doc.cat left right).withoutColumns =
      op (reading left.withoutColumns) (reading right.withoutColumns) := by
  rw [withoutColumns_eq_rewriteTree, withoutColumns_eq_rewriteTree, withoutColumns_eq_rewriteTree,
    ← h.rebuildTwo]
  rfl

/-! ## What is left -/

theorem cells_withoutColumns (d : Doc) : d.withoutColumns.cells = [] := by
  induction d with
  | cat left right ihl ihr =>
    rw [isReading_cells.withoutColumns_cat, ihl, ihr, List.append_nil]
  | union flat broken ihf ihb => rw [withoutColumns_union, cells, ihf, ihb, List.append_nil]
  | nest child ih => rw [withoutColumns_nest, cells, ih]
  | hang child ih => rw [withoutColumns_hang, cells, ih]
  | align child => rw [withoutColumns_align, cells]
  | text => rw [withoutColumns_text]; rfl
  | keyword => rw [withoutColumns_keyword]; rfl
  | _ => rw [withoutColumns_of_leaf rfl rfl]; rfl

/-- Nothing is padded in a scope without columns. -/
theorem resolve_withoutColumns (d : Doc) : d.withoutColumns.resolve = none := by
  rw [resolve_eq_none_iff, cells_withoutColumns]
  exact List.forall_mem_nil _

theorem scopeContent_withoutColumns (aligned : Bool) (d : Doc) :
    d.withoutColumns.scopeContent aligned = d.withoutColumns := by
  rw [scopeContent, resolved, resolve_withoutColumns, Option.getD_none, ite_self]

theorem flatWidth?_withoutColumns (d : Doc) : d.withoutColumns.flatWidth? = d.flatWidth? := by
  induction d with
  | cat left right ihl ihr =>
    rw [isReading_flatWidth?.withoutColumns_cat, ihl, ihr, flatWidth?]
  | union flat broken ihf => rw [withoutColumns_union, flatWidth?, ihf, flatWidth?]
  | nest child ih => rw [withoutColumns_nest, flatWidth?, ih, flatWidth?]
  | hang child ih => rw [withoutColumns_hang, flatWidth?, ih, flatWidth?]
  | align child ih => rw [withoutColumns_align, flatWidth?, ih, flatWidth?]
  | text => rw [withoutColumns_text]; rfl
  | keyword => rw [withoutColumns_keyword]; rfl
  | _ => rw [withoutColumns_of_leaf rfl rfl]

/-- The document fits where it fitted before. -/
theorem fits_withoutColumns (columns : Int) (d : Doc) :
    d.withoutColumns.fits columns = d.fits columns := by
  rw [Bool.eq_iff_iff, fits_iff, fits_iff, flatWidth?_withoutColumns]

/-! ## Layout -/

/-- Without columns a document is laid out, aligned or not, as it is with them but not aligned. -/
theorem layout_withoutColumns (o : Options) (aligned : Bool) (d : Doc) :
    d.withoutColumns.layout { o with align := aligned } = d.layout { o with align := false } := by
  induction d with
  | cat left right ihl ihr =>
    rw [(isReading_layout _).withoutColumns_cat, ihl, ihr, ← (isReading_layout _).cat]
  | nest child ih => rw [withoutColumns_nest, layout_nest, ih, layout_nest]
  | hang child ih => rw [withoutColumns_hang, layout_hang, ih, layout_hang]
  | align child ih =>
    -- There is nothing to pad on the one side, and nothing is padded on the other.
    rw [withoutColumns_align, layout_align, scopeContent_withoutColumns, ih, layout_align]
    rfl
  | union flat broken ihf ihb =>
    rw [withoutColumns_union, layout_union, ihf, ihb, layout_union]
    simp only [fits_withoutColumns]
    rfl
  | text content level => rw [withoutColumns_text, layout_text, layout_text]
  | keyword content level => rw [withoutColumns_keyword, layout_keyword, layout_keyword]
  | empty => rw [withoutColumns_of_leaf rfl rfl, layout_empty, layout_empty]
  | softLine =>
    rw [withoutColumns_of_leaf rfl rfl, layout_softLine, layout_softLine]
    rfl
  | hardLine | hardLines =>
    rw [withoutColumns_of_leaf rfl rfl, layout_of_hardRun? rfl, layout_of_hardRun? rfl]
    rfl

/-- *Without alignment columns have no part in the layout.* -/
theorem print_withoutColumns (d : Doc) (o : Options) (aligned : Bool) :
    d.withoutColumns.print { o with align := aligned } = d.print { o with align := false } ∧
    (∀ indent mode column,
      d.withoutColumns.rendering { o with align := aligned } indent mode column =
        d.rendering { o with align := false } indent mode column) ∧
    (∀ columns, d.withoutColumns.fits columns = d.fits columns) ∧
    d.withoutColumns.resolve = none := by
  have laidOut (indent : Column) (mode : Mode) (column : Column) :
      d.withoutColumns.rendering { o with align := aligned } indent mode column =
        d.rendering { o with align := false } indent mode column :=
    congrFun (congrFun (congrFun (d.layout_withoutColumns o aligned) indent) mode) column
  refine ⟨?_, laidOut, fun columns => d.fits_withoutColumns columns, d.resolve_withoutColumns⟩
  rw [print_eq_rendering, print_eq_rendering, laidOut]

end VhdlLayout.Doc
