import Mathlib.Tactic.Common
import VhdlLayout.Doc.Columns

/-!
# Normal form

A document is in normal form if nothing in it could be told by fewer nodes: no
concatenation has the empty document in it, no two leaves stand side by side
that could be one (`Doc.Mergeable`), and a single line end has its own form
(`Doc.IsNormal`).

Which leaves can be merged depends on their `Doc.Grain` alone, and a merged leaf
has the grain of the two that it is made of (`Doc.grain?_of_merge?`). So when two
documents are put together, the merged leaf fits between its neighbours just as
the two did, and no further leaf meets one of its own grain:

* `Doc.isNormal_concat`: concatenation keeps normal form;
* `Doc.concat_eq_foldr_heads`: both spines could as well be put together again
  by concatenation, piece by piece, nothing else would merge.
-/

namespace VhdlLayout.Doc

variable {a b d e leaf left right : Doc}

/-! ## Leaves that merge -/

/-- The sort of a leaf that can be merged with others of its sort. -/
inductive Grain where
  /-- Plain text. -/
  | text
  /-- Plain reserved words. -/
  | keyword
  /-- Hard line ends, as many as may be. -/
  | breaks
deriving DecidableEq, Repr

/-- The sort of the leaf, if it can be merged at all. What belongs to a column cannot. -/
def grain? : Doc → Option Grain
  | .text _ none => some .text
  | .keyword _ none => some .keyword
  | .hardLine | .hardLines _ => some .breaks
  | _ => none

/-- The two are plain texts, plain reserved words, or runs of hard line ends. -/
def Mergeable (a b : Doc) : Prop := ∃ g, a.grain? = some g ∧ b.grain? = some g

/-- No concatenation in the document has an empty side, or sides of which the one ends with a leaf
that could be merged with the first leaf of the other; and no single line end is told as a run. -/
def IsNormal : Doc → Prop
  | .cat left right => left.IsNormal ∧ right.IsNormal ∧ left.isEmpty = false ∧
      right.isEmpty = false ∧ ¬ Mergeable left.last right.first
  | .union flat broken => flat.IsNormal ∧ broken.IsNormal
  | .nest child | .hang child | .align child => child.IsNormal
  | .hardLines count => count ≠ 1
  | _ => True

theorem grain?_hardBreaks (count : Nat) : (hardBreaks count).grain? = some .breaks := by
  rw [hardBreaks]
  split <;> rfl

theorem isNormal_hardBreaks (count : Nat) : (hardBreaks count).IsNormal := by
  rw [hardBreaks]
  split
  · trivial
  · next h => exact h

theorem grain?_of_hardRun? {count : Nat} (h : d.hardRun? = some count) :
    d.grain? = some .breaks := by
  cases d with
  | hardLine | hardLines => rfl
  | _ => cases h

/-- A merged leaf is of the grain of both leaves that it is made of. -/
theorem grain?_of_merge? (h : merge? a b = some leaf) :
    ∃ g, a.grain? = some g ∧ b.grain? = some g ∧ leaf.grain? = some g := by
  revert h
  fun_cases merge? a b <;> intro h
  · cases h
    exact ⟨.text, rfl, rfl, rfl⟩
  · cases h
    exact ⟨.keyword, rfl, rfl, rfl⟩
  · next m n hm hn _ _ =>
    cases h
    exact ⟨.breaks, grain?_of_hardRun? hm, grain?_of_hardRun? hn, grain?_hardBreaks _⟩
  · cases h

/-- What two leaves can be that merge, and what they merge into. -/
theorem eq_of_merge? (h : merge? a b = some leaf) :
    (∃ s t, a = .text s none ∧ b = .text t none ∧ leaf = .text (s ++ t) none) ∨
      (∃ s t, a = .keyword s none ∧ b = .keyword t none ∧ leaf = .keyword (s ++ t) none) ∨
      (a.grain? = some .breaks ∧ b.grain? = some .breaks ∧ leaf.grain? = some .breaks) := by
  revert h
  fun_cases merge? a b <;> intro h
  · cases h
    exact .inl ⟨_, _, rfl, rfl, rfl⟩
  · cases h
    exact .inr (.inl ⟨_, _, rfl, rfl, rfl⟩)
  · next m n hm hn _ _ =>
    cases h
    exact .inr (.inr ⟨grain?_of_hardRun? hm, grain?_of_hardRun? hn, grain?_hardBreaks _⟩)
  · cases h

theorem eq_of_breaks (h : d.grain? = some .breaks) :
    d = .hardLine ∨ ∃ count, d = .hardLines count := by
  revert h
  fun_cases grain? d <;> intro h <;> cases h
  · exact .inl rfl
  · exact .inr ⟨_, rfl⟩

theorem exists_hardRun?_of_breaks (h : d.grain? = some .breaks) :
    ∃ count, d.hardRun? = some count := by
  rcases eq_of_breaks h with rfl | ⟨count, rfl⟩
  · exact ⟨1, rfl⟩
  · exact ⟨count, rfl⟩

theorem eq_of_grain? {g : Grain} (h : d.grain? = some g) :
    (g = .text ∧ ∃ s, d = .text s none) ∨ (g = .keyword ∧ ∃ s, d = .keyword s none) ∨
      (g = .breaks ∧ ∃ count, d.hardRun? = some count) := by
  revert h
  fun_cases grain? d <;> intro h <;> cases h
  · exact .inl ⟨rfl, _, rfl⟩
  · exact .inr (.inl ⟨rfl, _, rfl⟩)
  · exact .inr (.inr ⟨rfl, 1, rfl⟩)
  · exact .inr (.inr ⟨rfl, _, rfl⟩)

/-- Leaves that are of one grain do merge. -/
theorem not_mergeable_of_merge? (h : merge? a b = none) : ¬ Mergeable a b := by
  rintro ⟨g, ha, hb⟩
  -- Only leaves of the same sort share a grain.
  rcases eq_of_grain? ha with ⟨rfl, s, rfl⟩ | ⟨rfl, s, rfl⟩ | ⟨rfl, m, hm⟩ <;>
    rcases eq_of_grain? hb with ⟨hg, t, rfl⟩ | ⟨hg, t, rfl⟩ | ⟨hg, n, hn⟩ <;> cases hg
  · cases h
  · cases h
  · unfold merge? at h
    split at h
    · cases h
    · cases h
    · rw [hm, hn] at h
      cases h

theorem isNormal_of_merge? (h : merge? a b = some leaf) : leaf.IsNormal := by
  revert h
  fun_cases merge? a b <;> intro h
  · cases h
    trivial
  · cases h
    trivial
  · cases h
    exact isNormal_hardBreaks _
  · cases h

/-! ## Spines -/

theorem isEmpty_of_grain? {g : Grain} (h : d.grain? = some g) : d.isEmpty = false := by
  cases d with
  | empty => cases h
  | _ => rfl

theorem first_of_grain? {g : Grain} (h : d.grain? = some g) : d.first = d := by
  cases d with
  | cat => cases h
  | _ => rfl

theorem last_of_grain? {g : Grain} (h : d.grain? = some g) : d.last = d := by
  cases d with
  | cat => cases h
  | _ => rfl

theorem isEmpty_of_grain?_last {g : Grain} (h : d.last.grain? = some g) : d.isEmpty = false := by
  cases d with
  | cat => rfl
  | _ => exact isEmpty_of_grain? h

theorem isEmpty_of_grain?_first {g : Grain} (h : d.first.grain? = some g) : d.isEmpty = false := by
  cases d with
  | cat => rfl
  | _ => exact isEmpty_of_grain? h

theorem isEmpty_replaceFirst (h : e.isEmpty = false) : (d.replaceFirst e).isEmpty = false := by
  cases d with
  | cat => rfl
  | _ => exact h

theorem isEmpty_replaceLast (h : e.isEmpty = false) : (d.replaceLast e).isEmpty = false := by
  cases d with
  | cat => rfl
  | _ => exact h

theorem first_replaceFirst (d e : Doc) : (d.replaceFirst e).first = e.first := by
  induction d with
  | cat left right ih _ => exact ih
  | _ => rfl

/-- The document ends with the same grain after its first leaf has been replaced by one of the grain
that was there. -/
theorem grain?_last_replaceFirst (h : e.last.grain? = d.first.grain?) :
    (d.replaceFirst e).last.grain? = d.last.grain? := by
  cases d with
  | cat => rfl
  | _ => exact h

theorem grain?_first_replaceLast (h : e.first.grain? = d.last.grain?) :
    (d.replaceLast e).first.grain? = d.first.grain? := by
  cases d with
  | cat => rfl
  | _ => exact h

theorem Mergeable.congr {a' b' : Doc} (ha : a'.grain? = a.grain?) (hb : b'.grain? = b.grain?)
    (h : Mergeable a' b') : Mergeable a b := by
  obtain ⟨g, hag, hbg⟩ := h
  exact ⟨g, ha ▸ hag, hb ▸ hbg⟩

/-- What is put in the place of the first leaf leaves the document normal if it ends with the grain
that was there. -/
theorem isNormal_replaceFirst (hd : d.IsNormal) (he : e.IsNormal) (hne : e.isEmpty = false)
    (hg : e.last.grain? = d.first.grain?) : (d.replaceFirst e).IsNormal := by
  induction d with
  | cat left right ih _ =>
    obtain ⟨hl, hr, _, hre, hm⟩ := hd
    exact ⟨ih hl hg, hr, isEmpty_replaceFirst hne, hre,
      fun h => hm (h.congr (grain?_last_replaceFirst hg) rfl)⟩
  | _ => exact he

/-- What is put in the place of the last leaf leaves the document normal if it begins with the grain
that was there. -/
theorem isNormal_replaceLast (hd : d.IsNormal) (he : e.IsNormal) (hne : e.isEmpty = false)
    (hg : e.first.grain? = d.last.grain?) : (d.replaceLast e).IsNormal := by
  induction d with
  | cat left right _ ih =>
    obtain ⟨hl, hr, hle, _, hm⟩ := hd
    exact ⟨hl, ih hr hg, hle, isEmpty_replaceLast hne,
      fun h => hm (h.congr rfl (grain?_first_replaceLast hg))⟩
  | _ => exact he

/-! ## Concatenation -/

/-- Concatenation keeps normal form. -/
theorem isNormal_concat (ha : a.IsNormal) (hb : b.IsNormal) : (concat a b).IsNormal := by
  fun_cases concat a b
  · exact hb
  · exact ha
  · next leaf hleaf =>
    obtain ⟨g, hag, hbg, hg⟩ := grain?_of_merge? hleaf
    have hne := isEmpty_of_grain? hg
    -- The leaf fits on both sides, for it has the grain of what stood there.
    refine isNormal_replaceLast ha (isNormal_replaceFirst hb (isNormal_of_merge? hleaf) hne ?_)
      (isEmpty_replaceFirst hne) ?_
    · rw [last_of_grain? hg, hg, hbg]
    · rw [first_replaceFirst, first_of_grain? hg, hg, hag]
  · next hae hbe hnone =>
    exact ⟨ha, hb, Bool.eq_false_iff.2 hae, Bool.eq_false_iff.2 hbe, not_mergeable_of_merge? hnone⟩

/-- Two documents that are not empty and do not merge are put side by side. -/
theorem concat_eq_cat (ha : a.isEmpty = false) (hb : b.isEmpty = false)
    (h : ¬ Mergeable a.last b.first) : concat a b = .cat a b := by
  rw [concat, ha, hb]
  cases hm : merge? a.last b.first with
  | none => rfl
  | some leaf =>
    obtain ⟨g, hag, hbg, _⟩ := grain?_of_merge? hm
    exact absurd ⟨g, hag, hbg⟩ h

/-- Two documents that merge are put together around the merged leaf. -/
theorem concat_of_merge? (h : merge? a.last b.first = some leaf) :
    concat a b = a.replaceLast (b.replaceFirst leaf) := by
  obtain ⟨g, hag, hbg, _⟩ := grain?_of_merge? h
  rw [concat, isEmpty_of_grain?_last hag, isEmpty_of_grain?_first hbg, h]
  rfl

/-- The documents before the last leaf along the right spine, the outermost first. -/
def heads : Doc → List Doc
  | .cat left right => left :: right.heads
  | _ => []

/-- The documents behind the first leaf along the left spine, the outermost first. -/
def tails : Doc → List Doc
  | .cat left right => right :: left.tails
  | _ => []

/-- To put the left spine together again around a leaf, piece by piece, is to replace the leaf. -/
theorem foldr_tails_concat (hd : d.IsNormal) (hne : e.isEmpty = false)
    (hg : e.last.grain? = d.first.grain?) :
    d.tails.foldr (fun tail out => concat out tail) e = d.replaceFirst e := by
  induction d with
  | cat left right ih _ =>
    obtain ⟨hl, _, _, hre, hm⟩ := hd
    rw [tails, List.foldr_cons, ih hl hg, replaceFirst]
    exact concat_eq_cat (isEmpty_replaceFirst hne) hre
      fun h => hm (h.congr (grain?_last_replaceFirst hg) rfl)
  | _ => rfl

/-- To put the right spine together again around a leaf, piece by piece, is to replace the leaf. -/
theorem foldr_heads_concat (hd : d.IsNormal) (hne : e.isEmpty = false)
    (hg : e.first.grain? = d.last.grain?) : d.heads.foldr concat e = d.replaceLast e := by
  induction d with
  | cat left right _ ih =>
    obtain ⟨_, hr, hle, _, hm⟩ := hd
    rw [heads, List.foldr_cons, ih hr hg, replaceLast]
    exact concat_eq_cat hle (isEmpty_replaceLast hne)
      fun h => hm (h.congr rfl (grain?_first_replaceLast hg))
  | _ => rfl

/-- Where two documents merge, both their spines are put together again around the merged leaf, first
the one on the right. -/
theorem concat_eq_foldr_heads (ha : a.IsNormal) (hb : b.IsNormal)
    (h : merge? a.last b.first = some leaf) :
    concat a b =
      a.heads.foldr concat (b.tails.foldr (fun tail out => concat out tail) leaf) := by
  obtain ⟨g, hag, hbg, hg⟩ := grain?_of_merge? h
  have hne := isEmpty_of_grain? hg
  have hfirst : leaf.last.grain? = b.first.grain? := by rw [last_of_grain? hg, hg, hbg]
  have hlast : (b.replaceFirst leaf).first.grain? = a.last.grain? := by
    rw [first_replaceFirst, first_of_grain? hg, hg, hag]
  rw [foldr_tails_concat hb hne hfirst, foldr_heads_concat ha (isEmpty_replaceFirst hne) hlast,
    concat_of_merge? h]

theorem isNormal_concatAll {ds : List Doc} (h : ∀ d ∈ ds, d.IsNormal) :
    (concatAll ds).IsNormal :=
  List.foldlRecOn ds concat trivial fun _ hout d hd => isNormal_concat hout (h d hd)

theorem isNormal_join {sep : Doc} (hsep : sep.IsNormal) {ds : List Doc}
    (h : ∀ d ∈ ds, d.IsNormal) : (join sep ds).IsNormal := by
  cases ds with
  | nil => trivial
  | cons d ds =>
    exact List.foldlRecOn ds _ (h d List.mem_cons_self) fun _ hout e he =>
      isNormal_concat (isNormal_concat hout hsep) (h e (List.mem_cons_of_mem d he))

end VhdlLayout.Doc
