import Mathlib
import VhdlLayout.Doc.Fits
import VhdlLayout.Proofs.Doc.Built

/-!
# Passes as recursions

The passes over a document keep the nodes that are still to come in lists. What
they come to is told here by recursion over the document:

* `Doc.flatWidth?`: how many columns a document takes on one line, if it can stand
  on one. It fits if there are as many (`Doc.fits_iff`);
* `Doc.widths`: the widths of the columns, widened by every text in them
  (`Doc.measure_eq_widths`);
* `Doc.padded`: the document with its columns made equally wide, built anew from
  the bottom (`Doc.resolved_eq_padded`).

The last needs normal form: a pass keeps the concatenations that nothing changes
in, but in normal form they are what concatenation makes of them.
-/

namespace VhdlLayout

namespace Visitor

variable {σ β : Type} {v : Visitor σ β} {s s' : σ} {d e : Doc}

theorem run_cons_of_descend (h : v.see s d = (s', .descend)) (ds : List Doc) :
    v.run s (d :: ds) = v.run s' (d.children ++ ds) := by
  rw [run]
  split <;> rename_i h' <;> cases h.symm.trans h'
  rfl

theorem run_cons_of_skip (h : v.see s d = (s', .skip)) (ds : List Doc) :
    v.run s (d :: ds) = v.run s' ds := by
  rw [run]
  split <;> rename_i h' <;> cases h.symm.trans h'
  rfl

theorem run_cons_of_into (h : v.see s d = (s', .into e)) (ds : List Doc) :
    v.run s (d :: ds) = v.run s' (e :: ds) := by
  rw [run]
  split <;> rename_i h' <;> cases h.symm.trans h'
  rfl

theorem run_cons_of_stop {b : β} (h : v.see s d = (s', .stop b)) (ds : List Doc) :
    v.run s (d :: ds) = (s', some b) := by
  rw [run]
  split <;> rename_i h' <;> cases h.symm.trans h'
  rfl

end Visitor

namespace Doc

variable {d : Doc}

/-! ## Fitting on a line -/

/-- How many columns the document takes on one line, unless a line ends in it in any case. -/
def flatWidth? : Doc → Option Nat
  | .hardLine | .hardLines _ => none
  | .cat left right => do return (← left.flatWidth?) + (← right.flatWidth?)
  | .nest child | .hang child | .align child => child.flatWidth?
  | .union flat _ => flat.flatWidth?
  | d => some d.width

theorem flatWidth?_cat_eq_some {left right : Doc} {n : Nat} :
    (Doc.cat left right).flatWidth? = some n ↔
      ∃ l r, left.flatWidth? = some l ∧ right.flatWidth? = some r ∧ l + r = n := by
  rw [flatWidth?]
  cases left.flatWidth? <;> cases right.flatWidth? <;> simp

/-- A node that is no union and ends no line is gone into if there is room for it. -/
theorem fitter_see (remaining : Int) (hflat : d.flatBranch? = none)
    (hbreak : d.isHardBreak = false) :
    fitter.see remaining d =
      (remaining - d.width, if remaining - d.width < 0 then .stop () else .descend) := by
  simp only [fitter, hflat, hbreak, Bool.false_eq_true, if_false]
  split <;> rfl

theorem fitter_run_leaf (hflat : d.flatBranch? = none) (hbreak : d.isHardBreak = false)
    (hchildren : d.children = []) (remaining : Int) (ds : List Doc) :
    (fitter.run remaining (d :: ds)).2 = none ↔
      (d.width : Int) ≤ remaining ∧ (fitter.run (remaining - d.width) ds).2 = none := by
  have hsee := fitter_see remaining hflat hbreak
  by_cases hroom : remaining - d.width < 0
  · rw [if_pos hroom] at hsee
    rw [Visitor.run_cons_of_stop hsee]
    have : ¬ (d.width : Int) ≤ remaining := by omega
    simp [this]
  · rw [if_neg hroom] at hsee
    rw [Visitor.run_cons_of_descend hsee, hchildren, List.nil_append]
    have : (d.width : Int) ≤ remaining := by omega
    simp [this]

/-- A node that takes no room itself is gone into. -/
theorem fitter_run_inner {remaining : Int} (h : 0 ≤ remaining) (hflat : d.flatBranch? = none)
    (hbreak : d.isHardBreak = false) (hwidth : d.width = 0) (ds : List Doc) :
    fitter.run remaining (d :: ds) = fitter.run remaining (d.children ++ ds) := by
  have hsee := fitter_see remaining hflat hbreak
  rw [hwidth, Nat.cast_zero, sub_zero, if_neg (not_lt.2 h)] at hsee
  exact Visitor.run_cons_of_descend hsee ds

/-- A walk that has room gets behind a document if there is room for it. -/
theorem fitter_run_cons (d : Doc) {remaining : Int} (h : 0 ≤ remaining) (ds : List Doc) :
    (fitter.run remaining (d :: ds)).2 = none ↔
      ∃ n, d.flatWidth? = some n ∧ (n : Int) ≤ remaining ∧
        (fitter.run (remaining - n) ds).2 = none := by
  induction d generalizing remaining ds with
  | hardLine | hardLines =>
    rw [Visitor.run_cons_of_stop rfl]
    simp [flatWidth?]
  | union flat broken ih _ =>
    rw [Visitor.run_cons_of_into rfl]
    exact ih h ds
  | nest child ih | hang child ih | align child ih =>
    rw [fitter_run_inner h rfl rfl rfl]
    exact ih h ds
  | cat left right ihl ihr =>
    rw [fitter_run_inner h rfl rfl rfl]
    -- The right document has the room that the left one leaves.
    constructor
    · intro hrun
      obtain ⟨l, hl, hle, hrun⟩ := (ihl h _).1 hrun
      obtain ⟨r, hr, hre, hrun⟩ := (ihr (sub_nonneg.2 hle) ds).1 hrun
      refine ⟨l + r, flatWidth?_cat_eq_some.2 ⟨l, r, hl, hr, rfl⟩, ?_, ?_⟩
      · rw [Nat.cast_add]
        omega
      · rwa [Nat.cast_add, ← sub_sub]
    · rintro ⟨n, hn, hle, hrun⟩
      obtain ⟨l, r, hl, hr, rfl⟩ := flatWidth?_cat_eq_some.1 hn
      rw [Nat.cast_add] at hle hrun
      rw [← sub_sub] at hrun
      have hroom : (l : Int) ≤ remaining := by omega
      refine (ihl h _).2 ⟨l, hl, hroom, (ihr (sub_nonneg.2 hroom) ds).2 ⟨r, hr, ?_, hrun⟩⟩
      omega
  | _ =>
    rw [fitter_run_leaf rfl rfl rfl]
    simp [flatWidth?]

/-- A document fits if it can stand on one line and takes no more columns there. -/
theorem fits_iff {columns : Int} :
    d.fits columns = true ↔ ∃ n, d.flatWidth? = some n ∧ (n : Int) ≤ columns := by
  rw [fits, Bool.and_eq_true, decide_eq_true_iff, Option.isNone_iff_eq_none, Visitor.visit]
  constructor
  · rintro ⟨h, hrun⟩
    obtain ⟨n, hn, hle, _⟩ := (fitter_run_cons d h []).1 hrun
    exact ⟨n, hn, hle⟩
  · rintro ⟨n, hn, hle⟩
    have h : 0 ≤ columns := by omega
    exact ⟨h, (fitter_run_cons d h []).2 ⟨n, hn, hle, by rw [Visitor.run]⟩⟩

/-! ## The widths of columns -/

/-- The widths of the columns of a scope, after all its texts. -/
def widths (ws : Widths) : Doc → Widths
  | .cat left right => right.widths (left.widths ws)
  | .union flat broken => broken.widths (flat.widths ws)
  | .nest child | .hang child => child.widths ws
  | .align _ => ws
  | d =>
    match d.cell? with
    | some (level, width) => ws.widen level width
    | none => ws

theorem measurer_run_cons (d : Doc) (ws : Widths) (ds : List Doc) :
    measurer.run ws (d :: ds) = measurer.run (d.widths ws) ds := by
  induction d generalizing ws ds with
  | cat left right ihl ihr | union left right ihl ihr =>
    rw [Visitor.run_cons_of_descend rfl]
    exact (ihl ws (right :: ds)).trans (ihr _ ds)
  | nest child ih | hang child ih =>
    rw [Visitor.run_cons_of_descend rfl]
    exact ih ws ds
  | align => exact Visitor.run_cons_of_skip rfl ds
  | text _ level | keyword _ level =>
    cases level <;> exact Visitor.run_cons_of_descend rfl ds
  | _ => exact Visitor.run_cons_of_descend rfl ds

theorem measure_eq_widths (d : Doc) : d.measure = d.widths [] := by
  rw [measure, Visitor.visit, measurer_run_cons, Visitor.run]

/-! ## Columns made equally wide -/

/-- The document with its columns padded to the given widths, but for the scopes within. -/
def padded (ws : Widths) : Doc → Doc
  | .cat left right => concat (left.padded ws) (right.padded ws)
  | .union flat broken => .union (flat.padded ws) (broken.padded ws)
  | .nest child => .nest (child.padded ws)
  | .hang child => .hang (child.padded ws)
  | .align child => .align child
  | d =>
    match d.cell? with
    | some (level, width) =>
      if lack ws level width = 0 then d else concat d (padding (lack ws level width))
    | none => d

theorem getD_rebuildTwo (make : Doc → Doc → Doc) (left right : Doc) (a b : Change) :
    (rebuildTwo make left right a b).getD (make left right) =
      make (a.getD left) (b.getD right) := by
  cases a <;> cases b <;> rfl

theorem getD_rebuildOne (make : Doc → Doc) (child : Doc) (change : Change) :
    (rebuildOne make change).getD (make child) = make (change.getD child) := by
  cases change <;> rfl

/-- A concatenation in normal form is what concatenation makes of its sides. -/
theorem concat_of_isNormal {left right : Doc} (h : (Doc.cat left right).IsNormal) :
    concat left right = .cat left right := concat_eq_cat h.2.2.1 h.2.2.2.1 h.2.2.2.2

/-- The pass that pads comes to the recursion. -/
theorem getD_rewriteTree_pad (ws : Widths) (hd : d.IsNormal) :
    (rewriteTree (fun (_ : Unit) e => ((), pad ws e)) d ()).2.getD d = d.padded ws := by
  induction d with
  | cat left right ihl ihr =>
    rw [padded, ← ihl hd.1, ← ihr hd.2.1, ← getD_rebuildTwo concat, concat_of_isNormal hd]
    rfl
  | union flat broken ihf ihb =>
    rw [padded, ← ihf hd.1, ← ihb hd.2, ← getD_rebuildTwo .union]
    rfl
  | nest child ih =>
    rw [padded, ← ih hd, ← getD_rebuildOne .nest]
    rfl
  | hang child ih =>
    rw [padded, ← ih hd, ← getD_rebuildOne .hang]
    rfl
  | text content level | keyword content level =>
    cases level with
    | none => rfl
    | some level =>
      simp only [rewriteTree, pad, isScope, cell?, padded, Bool.false_eq_true, if_false]
      by_cases hlack : lack ws level content.length = 0
      · rw [if_pos hlack, if_pos hlack]
        rfl
      · rw [if_neg hlack, if_neg hlack]
        rfl
  | _ => rfl

/-- Without columns nothing is padded. -/
theorem padded_nil (hd : d.IsNormal) : d.padded [] = d := by
  induction d with
  | cat left right ihl ihr => rw [padded, ihl hd.1, ihr hd.2.1, concat_of_isNormal hd]
  | union flat broken ihf ihb => rw [padded, ihf hd.1, ihb hd.2]
  | nest child ih | hang child ih => rw [padded, ih hd]
  | text _ level | keyword _ level => cases level <;> simp [padded, cell?, lack, Widths.width?]
  | _ => rfl

theorem resolved_eq_padded (hd : d.IsNormal) : d.resolved = d.padded d.measure := by
  rw [resolved, resolve, padAll]
  split
  · next h => rw [List.isEmpty_iff.1 h, padded_nil hd, Option.getD_none]
  · rw [rewrite_eq_rewriteTree, getD_rewriteTree_pad _ hd]

theorem isNormal_padded (ws : Widths) (hd : d.IsNormal) : (d.padded ws).IsNormal := by
  rw [← getD_rewriteTree_pad ws hd]
  exact isNormal_getD hd (isNormal_of_mem_rewriteTree (keepsNormal_pad ws) hd ())

end Doc

end VhdlLayout
