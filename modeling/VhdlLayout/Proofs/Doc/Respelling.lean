import Mathlib
import VhdlLayout.Proofs.Casing
import VhdlLayout.Proofs.Doc.Reading
import VhdlLayout.Proofs.Doc.Rendering

/-!
# Options that layout does not look at

Some options say how something is spelled that is laid out, and not where: in which
case a reserved word is written, by which characters a line ends and begins. Whether
a document fits a line and where its columns stand is not up to them.

Let two lists of options differ in nothing else, so that what is laid out under the
one is related to what is laid out under the other (`Options.Respells`). Then every
document is laid out under both in the same columns, and the texts are related
(`Doc.rendering_respelled`). The two layouts go side by side: both take the same
documents of unions and pad the same columns.
-/

namespace VhdlLayout

/-- Under `o'` whatever is laid out is spelled as `R` relates it to how it is spelled under `o`, if
the characters of its leaves are of the kind, and takes as many columns. -/
structure Options.Respells (o o' : Options) (kind : Char → Prop) (R : String → String → Prop) :
    Prop where
  lineWidth : o'.lineWidth = o.lineWidth
  indentSize : o'.indentSize = o.indentSize
  align : o'.align = o.align
  space : kind ' '
  append {s s' t t' : String} : R s s' → R t t' → R (s ++ t) (s' ++ t')
  text {content : String} : (∀ c ∈ content.toList, kind c) → R content content
  keyword {content : String} : (∀ c ∈ content.toList, kind c) →
    R (o.keywordCase.apply content) (o'.keywordCase.apply content)
  lineBreak (indent : Column) : R (o.lineBreak indent) (o'.lineBreak indent)

variable {o o' : Options} {kind : Char → Prop} {R : String → String → Prop}

namespace Options.Respells

theorem room (h : o.Respells o' kind R) (column : Column) : o'.room column = o.room column := by
  rw [Options.room, Options.room, h.lineWidth]

theorem empty (h : o.Respells o' kind R) : R "" "" := h.text (by simp)

theorem lineBreaks (h : o.Respells o' kind R) (indent : Column) (count : Nat) :
    R (String.join (List.replicate count (o.lineBreak indent)))
      (String.join (List.replicate count (o'.lineBreak indent))) := by
  induction count with
  | zero => exact h.empty
  | succ count ih =>
    rw [List.replicate_succ, String.join_cons, List.replicate_succ, String.join_cons]
    exact h.append (h.lineBreak indent) ih

end Options.Respells

/-- *Spelling has no part in layout.* Under both options a document is laid out in the same columns,
and the texts are related. -/
theorem Doc.rendering_respelled {d : Doc} (h : o.Respells o' kind R) (hd : d.AllChars kind)
    (indent : Column) (mode : Mode) (column : Column) :
    R (d.rendering o indent mode column).1 (d.rendering o' indent mode column).1 ∧
      (d.rendering o' indent mode column).2 = (d.rendering o indent mode column).2 := by
  fun_induction Doc.rendering o indent mode column d with
  | case1 =>
    rw [Doc.rendering]
    exact ⟨h.empty, rfl⟩
  | case2 =>
    rw [Doc.rendering]
    exact ⟨h.text hd, rfl⟩
  | case3 _ _ _ content =>
    rw [Doc.rendering, o.keywordCase.length_apply, o'.keywordCase.length_apply]
    exact ⟨h.keyword hd, rfl⟩
  | case4 =>
    rw [Doc.rendering]
    exact ⟨h.text (by simpa using h.space), rfl⟩
  | case5 indent | case6 indent =>
    rw [Doc.rendering]
    exact ⟨h.lineBreak indent, rfl⟩
  | case7 indent _ _ count =>
    rw [Doc.rendering]
    exact ⟨h.lineBreaks indent count, rfl⟩
  | case8 indent mode column left right l r ihl ihr =>
    obtain ⟨hl, hcolumn⟩ := ihl hd.1
    obtain ⟨hr, hcolumn'⟩ := ihr hd.2
    rw [Doc.rendering, hcolumn]
    exact ⟨h.append hl hr, hcolumn'⟩
  | case9 _ _ _ child ih =>
    rw [Doc.rendering, h.indentSize]
    exact ih hd
  | case10 _ _ _ child ih =>
    rw [Doc.rendering]
    exact ih hd
  | case11 _ _ _ child ih =>
    rw [Doc.rendering, h.align]
    exact ih ((allChars_scopeContent h.space o.align child).2 hd)
  | case12 _ _ _ flat broken hfits ih =>
    rw [Doc.rendering, h.room, if_pos hfits]
    exact ih hd.1
  | case13 _ _ _ flat broken hfits ih =>
    rw [Doc.rendering, h.room, if_neg hfits]
    exact ih hd.2

theorem Doc.print_respelled {d : Doc} (h : o.Respells o' kind R) (hd : d.AllChars kind) :
    R (d.print o) (d.print o') := by
  rw [print_eq_rendering, print_eq_rendering]
  exact (rendering_respelled h hd 0 .broken 0).1

end VhdlLayout
