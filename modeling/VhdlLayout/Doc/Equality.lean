import VhdlLayout.Doc.Basic

/-!
# Equality of documents

Two documents are compared by a list of pairs of handles that are still to be
compared. In each turn the first pair is taken off the list (`Handles.turn`). If its
handles are known to point at the same node, there is nothing more to compare.
Otherwise the heads of the two nodes must be equal, and the pairs of their children
join the list, the last pair as the first one to be compared.

The comparison ends when no pair is left, or at the first pair that differs.
-/

namespace VhdlLayout

namespace Handles

variable {ι : Type} (H : Handles ι) (same : ι → ι → Bool)

/-- Handles point at the same node if they are the same. -/
def sameNode [DecidableEq ι] (a b : ι) : Bool := a = b

/-- The pairs that are to be compared in the place of this one, unless it differs. Handles of the
same node, as `same` knows them, are not looked into. -/
def turn (a b : ι) : Option (List (ι × ι)) :=
  if same a b then some []
  else if (H.doc a).head = (H.doc b).head then
    some ((H.children a).zip (H.children b)).reverse
  else none

/-- The pairs that are pending after the next turn. There is no next turn when none is pending or
the first one differs. -/
def next? (pending : List (ι × ι)) : Option (List (ι × ι)) :=
  match pending with
  | [] => none
  | (a, b) :: rest => (H.turn same a b).map (· ++ rest)

/-- How many nodes the first documents of the pairs have. -/
def pendingSize (pending : List (ι × ι)) : Nat := Doc.totalSize (pending.map fun p => H.doc p.1)

variable {H same}

theorem pendingSize_append (pending rest : List (ι × ι)) :
    H.pendingSize (pending ++ rest) = H.pendingSize pending + H.pendingSize rest := by
  simp [pendingSize]

theorem pendingSize_reverse (pending : List (ι × ι)) :
    H.pendingSize pending.reverse = H.pendingSize pending := by
  induction pending with
  | nil => rfl
  | cons p ps ih =>
    rw [List.reverse_cons, pendingSize_append, ih]
    simp [pendingSize, Nat.add_comm]

theorem pendingSize_zip_le (as bs : List ι) :
    H.pendingSize (as.zip bs) ≤ Doc.totalSize (as.map H.doc) := by
  induction as generalizing bs with
  | nil => exact Nat.le_refl 0
  | cons a as ih =>
    cases bs with
    | nil => exact Nat.zero_le _
    | cons b bs => exact Nat.add_le_add_left (ih bs) _

/-- In the place of a pair there are fewer nodes to be compared. -/
theorem pendingSize_turn {a b : ι} {pairs : List (ι × ι)} (h : H.turn same a b = some pairs) :
    H.pendingSize pairs < (H.doc a).size := by
  rw [turn] at h
  split at h
  · cases h
    exact (H.doc a).size_pos
  · split at h
    · cases h
      have hzip := H.pendingSize_zip_le (H.children a) (H.children b)
      rw [H.map_doc_children] at hzip
      have hsize := (H.doc a).size_eq
      rw [pendingSize_reverse]
      omega
    · cases h

theorem next?_decreases {pending pending' : List (ι × ι)}
    (h : H.next? same pending = some pending') :
    H.pendingSize pending' < H.pendingSize pending := by
  cases pending with
  | nil => cases h
  | cons p rest =>
    obtain ⟨a, b⟩ := p
    obtain ⟨pairs, hturn, rfl⟩ := Option.map_eq_some_iff.1 h
    have fewer := pendingSize_turn hturn
    rw [pendingSize_append]
    simp only [pendingSize, List.map_cons, Doc.totalSize_cons] at fewer ⊢
    omega

variable (H same)

/-- All pending pairs are equal: none of them is left in the end. -/
def allEqual (pending : List (ι × ι)) : Bool :=
  match _h : H.next? same pending with
  | none => pending.isEmpty
  | some pending' => allEqual pending'
termination_by H.pendingSize pending
decreasing_by exact next?_decreases _h

/-- The documents of two handles are equal. -/
def isEqual [DecidableEq ι] (a b : ι) : Bool := H.allEqual sameNode [(a, b)]

end Handles

namespace Doc

/-- Every document as its own handle. -/
def handles : Handles Doc where
  doc d := d
  children d := d.children
  map_doc_children d := d.children.map_id'

/-- The documents have the same nodes in the same places. No two of their nodes are known to be
the same. -/
def isEqual (a b : Doc) : Bool := handles.allEqual (fun _ _ => false) [(a, b)]

end Doc

end VhdlLayout
