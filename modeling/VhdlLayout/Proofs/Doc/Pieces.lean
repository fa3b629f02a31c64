import Mathlib
import VhdlLayout.Proofs.Doc.Normal

/-!
# Pieces

The pieces of a document are its nodes that are no concatenations, as they come
when all concatenations are opened (`Doc.pieces`). How these are grouped cannot be
told from them.

To concatenate two documents is to put their pieces one behind the other, where
the two pieces that meet become one if they can be merged (`Doc.weld`). This is
associative: a single piece between two others may be merged from both sides, but
what comes of it does not depend on the side that is first
(`Doc.exists_merge?_of_merge?`).

* `Doc.weld_assoc`: welding is associative;
* `Doc.pieces_concat`: the pieces of a concatenation are those of its sides, welded.
-/

namespace VhdlLayout.Doc

variable {a b c d e l leaf : Doc}

/-- The nodes of the document that are no concatenations, when all concatenations are opened. -/
def pieces : Doc → List Doc
  | .empty => []
  | .cat left right => left.pieces ++ right.pieces
  | d => [d]

/-- Two pieces that meet: the leaf that they become, or both. -/
def meet (d e : Doc) : List Doc :=
  match merge? d e with
  | some leaf => [leaf]
  | none => [d, e]

/-- Pieces behind others. Only the two that meet can become one. -/
def weld (ds : List Doc) : List Doc → List Doc
  | [] => ds
  | e :: es =>
    match ds.getLast? with
    | none => e :: es
    | some d => ds.dropLast ++ meet d e ++ es

/-! ## Merging -/

theorem merge?_eq_none_iff : merge? a b = none ↔ ¬ Mergeable a b := by
  refine ⟨not_mergeable_of_merge?, fun h => ?_⟩
  cases hm : merge? a b with
  | none => rfl
  | some leaf =>
    obtain ⟨g, ha, hb, _⟩ := grain?_of_merge? hm
    exact absurd ⟨g, ha, hb⟩ h

theorem hardRun?_hardBreaks (count : Nat) : (hardBreaks count).hardRun? = some count := by
  rw [hardBreaks]
  split
  · next h => rw [h, hardRun?]
  · rfl

theorem merge?_of_hardRun? {m n : Nat} (ha : a.hardRun? = some m) (hb : b.hardRun? = some n) :
    merge? a b = some (hardBreaks (m + n)) := by
  unfold merge?
  split
  · cases ha
  · cases ha
  · rw [ha, hb]

/-- What has been merged on the left merges with a third leaf as its right half does. -/
theorem merge?_eq_none_of_merge?_left (h : merge? a b = some leaf) :
    merge? leaf c = none ↔ merge? b c = none := by
  obtain ⟨g, _, hb, hleaf⟩ := grain?_of_merge? h
  rw [merge?_eq_none_iff, merge?_eq_none_iff, Mergeable, Mergeable, hb, hleaf]

theorem merge?_eq_none_of_merge?_right (h : merge? b c = some leaf) :
    merge? a leaf = none ↔ merge? a b = none := by
  obtain ⟨g, hb, _, hleaf⟩ := grain?_of_merge? h
  rw [merge?_eq_none_iff, merge?_eq_none_iff, Mergeable, Mergeable, hb, hleaf]

/-- A leaf that merges with its neighbours on both sides becomes one leaf with them, whichever of
the two it is merged with first. -/
theorem exists_merge?_of_merge? (hab : merge? a b = some l) (hbc : merge? b c = some leaf) :
    ∃ m, merge? l c = some m ∧ merge? a leaf = some m := by
  obtain ⟨g, ha, hb, _⟩ := grain?_of_merge? hab
  obtain ⟨g', hb', hc, _⟩ := grain?_of_merge? hbc
  -- All three are of one grain, since the middle one has only one.
  obtain rfl : g = g' := Option.some.inj (hb.symm.trans hb')
  rcases eq_of_grain? ha with ⟨rfl, s, rfl⟩ | ⟨rfl, s, rfl⟩ | ⟨rfl, m, hm⟩
  · obtain ⟨_, t, rfl⟩ := (eq_of_grain? hb).resolve_right (by simp)
    obtain ⟨_, u, rfl⟩ := (eq_of_grain? hc).resolve_right (by simp)
    cases hab
    cases hbc
    exact ⟨.text (s ++ t ++ u) none, rfl, by rw [String.append_assoc]; rfl⟩
  · obtain ⟨_, t, rfl⟩ := ((eq_of_grain? hb).resolve_left (by simp)).resolve_right (by simp)
    obtain ⟨_, u, rfl⟩ := ((eq_of_grain? hc).resolve_left (by simp)).resolve_right (by simp)
    cases hab
    cases hbc
    exact ⟨.keyword (s ++ t ++ u) none, rfl, by rw [String.append_assoc]; rfl⟩
  · obtain ⟨_, n, hn⟩ := ((eq_of_grain? hb).resolve_left (by simp)).resolve_left (by simp)
    obtain ⟨_, k, hk⟩ := ((eq_of_grain? hc).resolve_left (by simp)).resolve_left (by simp)
    cases hab.symm.trans (merge?_of_hardRun? hm hn)
    cases hbc.symm.trans (merge?_of_hardRun? hn hk)
    refine ⟨_, merge?_of_hardRun? (hardRun?_hardBreaks _) hk, ?_⟩
    rw [merge?_of_hardRun? hm (hardRun?_hardBreaks _), Nat.add_assoc]

/-! ## Welding -/

theorem meet_of_merge? (h : merge? d e = some leaf) : meet d e = [leaf] := by rw [meet, h]

theorem meet_of_merge?_eq_none (h : merge? d e = none) : meet d e = [d, e] := by rw [meet, h]

@[simp] theorem weld_nil_left (es : List Doc) : weld [] es = es := by
  cases es <;> rfl

@[simp] theorem weld_nil_right (ds : List Doc) : weld ds [] = ds := rfl

theorem weld_concat_cons (ds es : List Doc) (d e : Doc) :
    weld (ds ++ [d]) (e :: es) = ds ++ (meet d e ++ es) := by
  rw [weld, List.getLast?_concat, List.dropLast_concat]
  exact List.append_assoc _ _ _

/-- A single piece between two others. -/
theorem weld_meet (ds fs : List Doc) (d e f : Doc) :
    weld (ds ++ meet d e) (f :: fs) = weld (ds ++ [d]) (meet e f ++ fs) := by
  have apart : ds ++ [d, e] = ds ++ [d] ++ [e] := by rw [List.append_assoc]; rfl
  cases hde : merge? d e with
  | none =>
    rw [meet_of_merge?_eq_none hde, apart, weld_concat_cons]
    cases hef : merge? e f with
    | none =>
      -- Nothing merges.
      rw [meet_of_merge?_eq_none hef, List.cons_append, weld_concat_cons,
        meet_of_merge?_eq_none hde, List.append_assoc]
      rfl
    | some l =>
      -- The merged leaf is of the grain of `e`, so it does not merge with `d` either.
      have hdl := (merge?_eq_none_of_merge?_right hef).2 hde
      rw [meet_of_merge? hef, List.singleton_append, weld_concat_cons,
        meet_of_merge?_eq_none hdl, List.append_assoc]
      rfl
  | some l =>
    rw [meet_of_merge? hde, weld_concat_cons]
    cases hef : merge? e f with
    | none =>
      have hlf := (merge?_eq_none_of_merge?_left hde).2 hef
      have hright : meet e f ++ fs = e :: f :: fs := by rw [meet_of_merge?_eq_none hef]; rfl
      rw [meet_of_merge?_eq_none hlf, hright, weld_concat_cons, meet_of_merge? hde]
      rfl
    | some l' =>
      obtain ⟨m, hlf, hdl⟩ := exists_merge?_of_merge? hde hef
      have hright : meet e f ++ fs = l' :: fs := by rw [meet_of_merge? hef]; rfl
      rw [meet_of_merge? hlf, hright, weld_concat_cons, meet_of_merge? hdl]

/-- Welding is associative. -/
theorem weld_assoc (ds es fs : List Doc) : weld (weld ds es) fs = weld ds (weld es fs) := by
  rcases List.eq_nil_or_concat' ds with rfl | ⟨ds, d, rfl⟩
  · rw [weld_nil_left, weld_nil_left]
  cases fs with
  | nil => rw [weld_nil_right, weld_nil_right]
  | cons f fs =>
    cases es with
    | nil => rw [weld_nil_left, weld_nil_right]
    | cons e es =>
      rw [weld_concat_cons]
      rcases List.eq_nil_or_concat' es with rfl | ⟨es, e', rfl⟩
      · -- The two ends of `[e]` are the same piece.
        rw [List.append_nil, weld_meet, ← List.nil_append [e], weld_concat_cons, List.nil_append]
      · have left : ds ++ (meet d e ++ (es ++ [e'])) = ds ++ (meet d e ++ es) ++ [e'] := by
          simp only [List.append_assoc]
        rw [left, weld_concat_cons, ← List.cons_append, weld_concat_cons, List.cons_append,
          weld_concat_cons]
        simp only [List.append_assoc]

theorem foldr_weld_append (rows rows' : List (List Doc)) :
    (rows ++ rows').foldr weld [] = weld (rows.foldr weld []) (rows'.foldr weld []) := by
  induction rows with
  | nil => exact (weld_nil_left _).symm
  | cons row rows ih => rw [List.cons_append, List.foldr_cons, List.foldr_cons, ih, weld_assoc]

/-! ## The pieces of a concatenation -/

theorem pieces_of_isEmpty (h : d.isEmpty = true) : d.pieces = [] := by
  cases d with
  | empty => rfl
  | _ => cases h

theorem pieces_of_grain? {g : Grain} (h : d.grain? = some g) : d.pieces = [d] := by
  rcases eq_of_grain? h with ⟨_, s, rfl⟩ | ⟨_, s, rfl⟩ | ⟨_, count, hd⟩
  · rfl
  · rfl
  · cases d with
    | hardLine | hardLines => rfl
    | _ => cases hd

/-- The last piece is what the document ends with, and it is replaced there. -/
theorem exists_pieces_eq_concat_last (hd : d.IsNormal) (hne : d.isEmpty = false) :
    ∃ ds, d.pieces = ds ++ [d.last] ∧ ∀ e, (d.replaceLast e).pieces = ds ++ e.pieces := by
  induction d with
  | cat left right _ ih =>
    obtain ⟨ds, hpieces, hreplace⟩ := ih hd.2.1 hd.2.2.2.1
    refine ⟨left.pieces ++ ds, ?_, fun e => ?_⟩
    · rw [pieces, hpieces, last, List.append_assoc]
    · rw [replaceLast, pieces, hreplace, List.append_assoc]
  | empty => cases hne
  | _ => exact ⟨[], rfl, fun _ => rfl⟩

theorem exists_pieces_eq_first_cons (hd : d.IsNormal) (hne : d.isEmpty = false) :
    ∃ ds, d.pieces = d.first :: ds ∧ ∀ e, (d.replaceFirst e).pieces = e.pieces ++ ds := by
  induction d with
  | cat left right ih _ =>
    obtain ⟨ds, hpieces, hreplace⟩ := ih hd.1 hd.2.2.1
    refine ⟨ds ++ right.pieces, ?_, fun e => ?_⟩
    · rw [pieces, hpieces, first, List.cons_append]
    · rw [replaceFirst, pieces, hreplace, List.append_assoc]
  | empty => cases hne
  | _ => exact ⟨[], rfl, fun e => (List.append_nil _).symm⟩

/-- The pieces of a concatenation are those of the two documents, and at most the two that meet have
become one. -/
theorem pieces_concat (ha : a.IsNormal) (hb : b.IsNormal) :
    (concat a b).pieces = weld a.pieces b.pieces := by
  cases hae : a.isEmpty with
  | true => rw [concat, hae, if_pos rfl, pieces_of_isEmpty hae, weld_nil_left]
  | false =>
    cases hbe : b.isEmpty with
    | true =>
      rw [concat, hae, hbe, if_neg Bool.false_ne_true, if_pos rfl, pieces_of_isEmpty hbe,
        weld_nil_right]
    | false =>
      obtain ⟨ds, hds, hlast⟩ := exists_pieces_eq_concat_last ha hae
      obtain ⟨es, hes, hfirst⟩ := exists_pieces_eq_first_cons hb hbe
      rw [hds, hes, weld_concat_cons]
      cases hm : merge? a.last b.first with
      | none =>
        rw [concat_eq_cat hae hbe (merge?_eq_none_iff.1 hm), meet_of_merge?_eq_none hm, pieces, hds,
          hes, List.append_assoc]
        rfl
      | some leaf =>
        obtain ⟨g, _, _, hleaf⟩ := grain?_of_merge? hm
        rw [concat_of_merge? hm, meet_of_merge? hm, hlast, hfirst, pieces_of_grain? hleaf]

end VhdlLayout.Doc
