import Mathlib
import VhdlLayout.Doc.Equality

/-!
# What a comparison decides

Documents are compared turn by turn, with a list of pairs that are still to be compared.
That this decides whether they are equal is shown for the single turn first:

* `Handles.doc_eq_iff_of_turn`: a pair is equal if and only if all pairs are that take
  its place. Handles of the same node are equal without more ado, and where the heads
  are equal no child is left over (`Handles.unzip_zip_children`);
* `Handles.alike_iff_of_next?`: so a turn neither makes nor loses a difference;
* `Handles.exists_mem_eval`: the turns come to an end, with no pair left if all were
  equal, and else with one that differs (`Handles.allEqual_iff`);
* `Doc.eq_iff_headAt?`: to be equal is to have the same heads in the same places.
-/

namespace VhdlLayout

open Relation StateTransition

namespace Doc

/-! ## Places in a document -/

/-- The head of the node that the path leads to. It tells for each node on the way with which of the
children it goes on. -/
def headAt? : List Nat → Doc → Option Head
  | [], d => some d.head
  | i :: path, d => d.children[i]?.bind (headAt? path)

theorem eq_of_headAt? {a b : Doc} (h : ∀ path, headAt? path a = headAt? path b) : a = b := by
  induction a using children_induction generalizing b with
  | step a ih =>
    have hhead : a.head = b.head := Option.some.inj (h [])
    refine eq_of_head_children hhead (List.ext_getElem (length_children hhead) fun i ha hb => ?_)
    refine ih _ (List.getElem_mem ha) fun path => ?_
    have hpath := h (i :: path)
    rwa [headAt?, headAt?, List.getElem?_eq_getElem ha, List.getElem?_eq_getElem hb] at hpath

/-- Documents are equal if the same heads are in the same places. -/
theorem eq_iff_headAt? {a b : Doc} : a = b ↔ ∀ path, headAt? path a = headAt? path b :=
  ⟨fun h _ => by rw [h], eq_of_headAt?⟩

end Doc

namespace Handles

variable {ι : Type} {H : Handles ι} {same : ι → ι → Bool} {a b : ι}
  {pending pending' pairs : List (ι × ι)}

/-- All pairs are equal. -/
def Alike (H : Handles ι) (pending : List (ι × ι)) : Prop := ∀ p ∈ pending, H.doc p.1 = H.doc p.2

/-- Handles are only known to point at the same node if their documents are equal. -/
def IsFaithful (H : Handles ι) (same : ι → ι → Bool) : Prop :=
  ∀ a b, same a b = true → H.doc a = H.doc b

/-- No two handles need to be known to point at the same node. -/
theorem isFaithful_never (H : Handles ι) : H.IsFaithful fun _ _ => false := nofun

theorem isFaithful_sameNode [DecidableEq ι] (H : Handles ι) : H.IsFaithful sameNode :=
  fun _ _ h => congrArg H.doc (of_decide_eq_true h)

/-! ## One turn -/

theorem length_children (h : (H.doc a).head = (H.doc b).head) :
    (H.children a).length = (H.children b).length := by
  have hlength := Doc.length_children h
  rwa [← H.map_doc_children, ← H.map_doc_children, List.length_map, List.length_map] at hlength

/-- Where the heads are equal, the pairs of children leave no child over. -/
theorem unzip_zip_children (h : (H.doc a).head = (H.doc b).head) :
    ((H.children a).zip (H.children b)).unzip = (H.children a, H.children b) :=
  List.unzip_zip (length_children h)

/-- Where the heads are equal, documents are equal if all pairs of their children are. -/
theorem doc_eq_iff_alike_zip (h : (H.doc a).head = (H.doc b).head) :
    H.doc a = H.doc b ↔ H.Alike ((H.children a).zip (H.children b)) :=
  calc H.doc a = H.doc b
    _ ↔ (H.doc a).children = (H.doc b).children :=
      ⟨congrArg Doc.children, Doc.eq_of_head_children h⟩
    _ ↔ List.Forall₂ (fun x y => H.doc x = H.doc y) (H.children a) (H.children b) := by
      rw [← H.map_doc_children, ← H.map_doc_children, ← List.forall₂_eq_eq_eq,
        List.forall₂_map_left_iff, List.forall₂_map_right_iff]
    _ ↔ H.Alike ((H.children a).zip (H.children b)) :=
      List.forall₂_iff_zip.trans
        ⟨fun hzip _ hp => hzip.2 hp, fun hzip => ⟨length_children h, hzip _⟩⟩

/-- A pair is equal if and only if all pairs are that are to be compared in its place. -/
theorem doc_eq_iff_of_turn (hsame : H.IsFaithful same) (h : H.turn same a b = some pairs) :
    H.doc a = H.doc b ↔ H.Alike pairs := by
  rw [turn] at h
  split at h
  · next hab =>
    cases h
    exact iff_of_true (hsame a b hab) fun _ hp => absurd hp List.not_mem_nil
  · split at h
    · next hhead =>
      cases h
      rw [doc_eq_iff_alike_zip hhead]
      simp only [Alike, List.mem_reverse]
    · cases h

theorem doc_ne_of_turn (h : H.turn same a b = none) : H.doc a ≠ H.doc b := by
  rw [turn] at h
  split at h
  · cases h
  · split at h
    · cases h
    · next hhead => exact fun hdoc => hhead (congrArg Doc.head hdoc)

/-- A turn makes no difference and loses none. -/
theorem alike_iff_of_next? (hsame : H.IsFaithful same) (h : pending' ∈ H.next? same pending) :
    H.Alike pending ↔ H.Alike pending' := by
  cases pending with
  | nil => cases h
  | cons p rest =>
    obtain ⟨a, b⟩ := p
    obtain ⟨pairs, hturn, rfl⟩ := Option.map_eq_some_iff.1 h
    calc H.Alike ((a, b) :: rest)
      _ ↔ H.doc a = H.doc b ∧ H.Alike rest := List.forall_mem_cons
      _ ↔ H.Alike pairs ∧ H.Alike rest := and_congr_left' (doc_eq_iff_of_turn hsame hturn)
      _ ↔ H.Alike (pairs ++ rest) := List.forall_mem_append.symm

/-- At the end of the comparison all pairs are equal if none is left. -/
theorem alike_iff_of_next?_eq_none (h : H.next? same pending = none) :
    H.Alike pending ↔ pending = [] := by
  cases pending with
  | nil => exact iff_of_true (fun _ hp => absurd hp List.not_mem_nil) rfl
  | cons p rest =>
    obtain ⟨a, b⟩ := p
    have hne := doc_ne_of_turn (Option.map_eq_none_iff.1 h)
    exact iff_of_false (fun hall => hne (hall _ List.mem_cons_self)) (List.cons_ne_nil _ rest)

/-! ## The whole comparison -/

theorem alike_iff_of_reaches (hsame : H.IsFaithful same)
    (h : Reaches (H.next? same) pending pending') : H.Alike pending ↔ H.Alike pending' := by
  induction h with
  | refl => rfl
  | tail _ hnext ih => exact ih.trans (alike_iff_of_next? hsame hnext)

/-- No comparison goes on forever: each turn leaves fewer nodes to be compared. -/
theorem wellFounded_next? (H : Handles ι) (same : ι → ι → Bool) :
    WellFounded fun pending' pending => H.next? same pending = some pending' :=
  Subrelation.wf (fun h => next?_decreases h) (InvImage.wf H.pendingSize Nat.lt_wfRel.wf)

theorem exists_mem_eval (H : Handles ι) (same : ι → ι → Bool) (pending : List (ι × ι)) :
    ∃ last, last ∈ eval (H.next? same) pending := by
  induction pending using (H.wellFounded_next? same).induction with
  | _ pending ih =>
    cases h : H.next? same pending with
    | none => exact ⟨pending, mem_eval.2 ⟨.refl, h⟩⟩
    | some pending' =>
      obtain ⟨last, hlast⟩ := ih pending' h
      obtain ⟨hreaches, hend⟩ := mem_eval.1 hlast
      exact ⟨last, mem_eval.2 ⟨hreaches.head h, hend⟩⟩

theorem allEqual_of_next? (h : pending' ∈ H.next? same pending) :
    H.allEqual same pending = H.allEqual same pending' := by
  rw [allEqual]
  split
  · next hnone => cases hnone.symm.trans h
  · next hsome => rw [Option.some.inj (hsome.symm.trans h)]

theorem allEqual_of_next?_eq_none (h : H.next? same pending = none) :
    H.allEqual same pending = pending.isEmpty := by
  rw [allEqual]
  split
  · rfl
  · next hsome => cases hsome.symm.trans h

/-- The answer is whether no pair is left. -/
theorem allEqual_of_mem_eval {last : List (ι × ι)} (h : last ∈ eval (H.next? same) pending) :
    H.allEqual same pending = last.isEmpty := by
  obtain ⟨hreaches, hend⟩ := mem_eval.1 h
  rw [← allEqual_of_next?_eq_none hend]
  clear h hend
  induction hreaches using ReflTransGen.head_induction_on with
  | refl => rfl
  | head hnext _ ih => rw [allEqual_of_next? hnext, ih]

/-- A comparison decides whether all pairs are equal. -/
theorem allEqual_iff (hsame : H.IsFaithful same) :
    H.allEqual same pending = true ↔ H.Alike pending := by
  obtain ⟨last, hlast⟩ := H.exists_mem_eval same pending
  obtain ⟨hreaches, hend⟩ := mem_eval.1 hlast
  rw [allEqual_of_mem_eval hlast, List.isEmpty_iff, ← alike_iff_of_next?_eq_none hend,
    alike_iff_of_reaches hsame hreaches]

theorem alike_singleton_iff : H.Alike [(a, b)] ↔ H.doc a = H.doc b := List.forall_mem_singleton

/-- *A comparison decides equality.* However the two documents share their nodes, with each other or
within themselves, the turns come to an end, and the answer is whether no pair is left then. It is
that the documents are equal: they have the same heads in the same places. Nothing changes about
the answer if other handles are known to point at the same node, or none, as long as their
documents are equal; nor if every document is its own handle. And where the heads of two nodes are
equal, all their children are compared. -/
theorem isEqual_exact [DecidableEq ι] (H : Handles ι) (a b : ι) :
    WellFounded (fun pending' pending => H.next? sameNode pending = some pending') ∧
    (∃ last ∈ eval (H.next? sameNode) [(a, b)], H.isEqual a b = last.isEmpty) ∧
    (H.isEqual a b = true ↔ H.doc a = H.doc b) ∧
    (H.isEqual a b = true ↔
      ∀ path, Doc.headAt? path (H.doc a) = Doc.headAt? path (H.doc b)) ∧
    (∀ same, H.IsFaithful same → H.isEqual a b = H.allEqual same [(a, b)]) ∧
    H.isEqual a b = (H.doc a).isEqual (H.doc b) ∧
    ∀ x y, (H.doc x).head = (H.doc y).head →
      ((H.children x).zip (H.children y)).unzip = (H.children x, H.children y) := by
  have hequal : H.isEqual a b = true ↔ H.doc a = H.doc b :=
    (allEqual_iff H.isFaithful_sameNode).trans alike_singleton_iff
  obtain ⟨last, hlast⟩ := H.exists_mem_eval sameNode [(a, b)]
  refine ⟨H.wellFounded_next? sameNode, ⟨last, hlast, allEqual_of_mem_eval hlast⟩, hequal,
    hequal.trans Doc.eq_iff_headAt?, fun same hsame => ?_, ?_, fun x y => unzip_zip_children⟩
  · exact Bool.eq_iff_iff.2 (hequal.trans ((allEqual_iff hsame).trans alike_singleton_iff).symm)
  · have hplain : (H.doc a).isEqual (H.doc b) = true ↔ H.doc a = H.doc b :=
      (allEqual_iff Doc.handles.isFaithful_never).trans alike_singleton_iff
    exact Bool.eq_iff_iff.2 (hequal.trans hplain.symm)

/-- Two unions, one of which holds the same handle twice and the other one handles of two nodes that
are equal. They are equal to each other, and to no union with another text in it. -/
theorem isEqual_exact_shared :
    let a := Doc.text "a" none
    let b := Doc.text "b" none
    let H : Handles (Fin 6) :=
      { doc := ![a, a, b, .union a a, .union a a, .union a b]
        children := ![[], [], [], [0, 0], [0, 1], [1, 2]]
        map_doc_children := by decide }
    H.isEqual 3 4 = true ∧ H.isEqual 3 5 = false ∧
      ((H.children 3).zip (H.children 4)).unzip = ([0, 0], [0, 1]) ∧
      H.IsFaithful (fun _ _ => false) ∧
      H.isEqual 3 4 = H.allEqual (fun _ _ => false) [(3, 4)] := by
  intro a b H
  obtain ⟨-, -, equal, -, anyway, -, whole⟩ := H.isEqual_exact 3 4
  obtain ⟨-, -, equal', -⟩ := H.isEqual_exact 3 5
  refine ⟨equal.2 rfl, ?_, whole 3 4 rfl, H.isFaithful_never, anyway _ H.isFaithful_never⟩
  exact Bool.eq_false_iff.2 fun h => absurd (equal'.1 h) (by decide)

end Handles

end VhdlLayout
