import Mathlib
import VhdlLayout.Equivalence.Check

/-!
# Where tokens are found again

A formatted text denotes the same program as the original if every relevant
token of the original is found again in it, in the same order. Where each token
is found is told by a map of positions (`Places`), which grows in two ways as
two lists are walked side by side: their first entries belong together
(`Places.cons`), or the first entry on the right has been added (`Places.skip`).

* `IsPlacement`: the order is kept, and what is found at a place is the same;
* `Covers`: moreover, what stands elsewhere has been added as it may be;
* `exists_covers_of_find?_eq_none`: where the walk finds no parting, the tokens
  on the right cover those on the left;
* `TokenStream.exists_strictMono_of_divergence?_eq_none`: so it is for two streams.
-/

namespace VhdlLayout

variable {α β γ : Type}

/-- For each position of `os` one of `fs`. -/
abbrev Places (os : List α) (fs : List β) := Fin os.length → Fin fs.length

namespace Places

variable {os : List α} {fs : List β}

/-- The places if the first entries of both lists belong together. -/
def cons (o : α) (f : β) (place : Places os fs) : Places (o :: os) (f :: fs) :=
  Fin.cases 0 fun i => (place i).succ

/-- The places if the first entry on the right belongs to none on the left. -/
def skip (f : β) (place : Places os fs) : Places os (f :: fs) := fun i => (place i).succ

theorem zero_mem_range_cons (o : α) (f : β) (place : Places os fs) :
    0 ∈ Set.range (place.cons o f) := ⟨0, rfl⟩

theorem succ_mem_range_cons {o : α} {f : β} {place : Places os fs} {j : Fin fs.length}
    (h : j ∈ Set.range place) : j.succ ∈ Set.range (place.cons o f) := by
  obtain ⟨i, rfl⟩ := h
  exact ⟨i.succ, rfl⟩

theorem succ_mem_range_skip {f : β} {place : Places os fs} {j : Fin fs.length}
    (h : j ∈ Set.range place) : j.succ ∈ Set.range (place.skip f) := by
  obtain ⟨i, rfl⟩ := h
  exact ⟨i, rfl⟩

end Places

/-- Every entry of `os` is found again at its place in `fs`: the order is kept, and `same` relates
the entry to the one at its place. -/
structure IsPlacement (same : α → β → Prop) (os : List α) (fs : List β) (place : Places os fs) :
    Prop where
  strictMono : StrictMono place
  same : ∀ i, same os[i] fs[place i]

namespace IsPlacement

variable {same : α → β → Prop} {os : List α} {fs : List β} {place : Places os fs}

theorem nil (fs : List β) : IsPlacement same [] fs Fin.elim0 where
  strictMono i := i.elim0
  same i := i.elim0

theorem cons {o : α} {f : β} (h : same o f) (hp : IsPlacement same os fs place) :
    IsPlacement same (o :: os) (f :: fs) (place.cons o f) where
  strictMono i k hik := by
    -- The first place comes before all others, which are in order among themselves.
    induction k using Fin.cases with
    | zero => exact absurd hik (Fin.not_lt_zero i)
    | succ k =>
      induction i using Fin.cases with
      | zero => exact Fin.succ_pos _
      | succ i => exact Fin.succ_lt_succ_iff.2 (hp.strictMono (Fin.succ_lt_succ_iff.1 hik))
  same i := by
    induction i using Fin.cases with
    | zero => exact h
    | succ i => exact hp.same i

theorem skip (f : β) (hp : IsPlacement same os fs place) :
    IsPlacement same os (f :: fs) (place.skip f) where
  strictMono _ _ hik := Fin.succ_lt_succ_iff.2 (hp.strictMono hik)
  same := hp.same

theorem mono {same' : α → β → Prop} (h : ∀ i, same os[i] fs[place i] → same' os[i] fs[place i])
    (hp : IsPlacement same os fs place) : IsPlacement same' os fs place where
  strictMono := hp.strictMono
  same i := h i (hp.same i)

theorem refl {same : α → α → Prop} (h : ∀ a, same a a) (os : List α) :
    IsPlacement same os os id where
  strictMono := strictMono_id
  same i := h os[i]

/-- Places within places are places. -/
theorem trans {same' : β → γ → Prop} {same'' : α → γ → Prop} {gs : List γ} {place' : Places fs gs}
    (h : ∀ {a b c}, same a b → same' b c → same'' a c) (hp : IsPlacement same os fs place)
    (hp' : IsPlacement same' fs gs place') : IsPlacement same'' os gs (place' ∘ place) where
  strictMono := hp'.strictMono.comp hp.strictMono
  same i := h (hp.same i) (hp'.same (place i))

end IsPlacement

/-! ## What may be added -/

/-- The entry at `j` stands before the place of a next entry of `os`, of which `p` holds. -/
def Places.IsBefore {os : List α} {fs : List β} (place : Places os fs) (p : α → Prop)
    (j : Fin fs.length) : Prop :=
  ∃ i, j < place i ∧ (∀ k < i, place k < j) ∧ p os[i]

namespace Places.IsBefore

variable {os : List α} {fs : List β} {place : Places os fs} {p : α → Prop}

/-- What stands first and has been added stands before the first entry of `os`. -/
theorem zero {o : α} (f : β) {place : Places (o :: os) fs} (h : p o) :
    (place.skip f).IsBefore p 0 :=
  ⟨0, Fin.succ_pos _, fun k hk => absurd hk (Fin.not_lt_zero k), h⟩

theorem cons (o : α) (f : β) {j : Fin fs.length} (h : place.IsBefore p j) :
    (place.cons o f).IsBefore p j.succ := by
  obtain ⟨i, hj, hk, hi⟩ := h
  refine ⟨i.succ, Fin.succ_lt_succ_iff.2 hj, fun k hki => ?_, hi⟩
  -- The new first place comes before everything that stood before.
  induction k using Fin.cases with
  | zero => exact Fin.succ_pos j
  | succ k => exact Fin.succ_lt_succ_iff.2 (hk k (Fin.succ_lt_succ_iff.1 hki))

theorem skip (f : β) {j : Fin fs.length} (h : place.IsBefore p j) :
    (place.skip f).IsBefore p j.succ := by
  obtain ⟨i, hj, hk, hi⟩ := h
  exact ⟨i, Fin.succ_lt_succ_iff.2 hj, fun k hki => Fin.succ_lt_succ_iff.2 (hk k hki), hi⟩

end Places.IsBefore

/-- The tokens `os` are found again in `fs` at their places, and every other token of `fs` is one
that may be added: a reserved word that may stand anywhere, or an identifier before the place of a
next token that is none. -/
structure Covers (same : Token → Token → Prop) (os fs : List Token) (place : Places os fs) : Prop
    extends IsPlacement same os fs place where
  added : ∀ j ∉ Set.range place, fs[j].kind.isOptional = true ∨
    fs[j].kind.isIdentifier = true ∧ place.IsBefore (fun o => o.kind.isIdentifier = false) j

namespace Covers

variable {same : Token → Token → Prop} {os fs : List Token} {o f : Token}

theorem nil (h : ∀ f ∈ fs, f.kind.isOptional = true) : Covers same [] fs Fin.elim0 where
  toIsPlacement := .nil fs
  added _ _ := .inl (h _ (List.getElem_mem _))

theorem cons {place : Places os fs} (h : same o f) (hc : Covers same os fs place) :
    Covers same (o :: os) (f :: fs) (place.cons o f) where
  toIsPlacement := hc.toIsPlacement.cons h
  added j hj := by
    induction j using Fin.cases with
    | zero => exact absurd (Places.zero_mem_range_cons o f place) hj
    | succ j =>
      have hj' : j ∉ Set.range place := fun h => hj (Places.succ_mem_range_cons h)
      exact (hc.added j hj').imp_right (And.imp_right (Places.IsBefore.cons o f))

/-- The token `f` may be added before `o` if it may stand anywhere or only one of the two is an
identifier. -/
theorem skip {place : Places (o :: os) fs}
    (h : f.kind.isOptional = true ∨ f.kind.isIdentifier = true ∧ o.kind.isIdentifier = false)
    (hc : Covers same (o :: os) fs place) : Covers same (o :: os) (f :: fs) (place.skip f) where
  toIsPlacement := hc.toIsPlacement.skip f
  added j hj := by
    induction j using Fin.cases with
    | zero => exact h.imp_right (And.imp_right (Places.IsBefore.zero f))
    | succ j =>
      have hj' : j ∉ Set.range place := fun h => hj (Places.succ_mem_range_skip h)
      exact (hc.added j hj').imp_right (And.imp_right (Places.IsBefore.skip f))

end Covers

/-- Where the walk finds no parting, the tokens on the left are found again on the right. -/
theorem exists_covers_of_find?_eq_none {same : Token → Token → Bool} {os fs : List Token}
    (h : Parting.find? same os fs = none) :
    ∃ place, Covers (fun o f => same o f = true) os fs place := by
  fun_induction Parting.find? same os fs with
  | case1 fs hfs => exact ⟨Fin.elim0, .nil (List.dropWhile_eq_nil_iff.1 hfs)⟩
  | case2 | case3 | case7 => cases h
  -- The two tokens are the same, or else the one on the right is passed over.
  | case4 o os f fs hsame ih =>
    obtain ⟨place, hc⟩ := ih h
    exact ⟨place.cons o f, hc.cons hsame⟩
  | case5 o os f fs _ hopt ih =>
    obtain ⟨place, hc⟩ := ih h
    exact ⟨place.skip f, hc.skip (.inl hopt)⟩
  | case6 o os f fs _ _ hlabel ih =>
    obtain ⟨place, hc⟩ := ih h
    rw [Bool.and_eq_true, Bool.not_eq_true'] at hlabel
    exact ⟨place.skip f, hc.skip (.inr hlabel)⟩

/-! ## Streams -/

namespace TokenStream

/-- The token `f` of the formatted stream is `o` of the original one, but for the case of its
letters. A reserved word is told by its kind alone. -/
def Corresponds (original formatted : TokenStream) (o f : Token) : Prop :=
  o.kind = f.kind ∧ (o.kind.isWord = false →
    Unicode.sameIgnoringCase (original.text o) (formatted.text f) = true)

theorem sameToken_iff {original formatted : TokenStream} {o f : Token} :
    sameToken original formatted o f = true ↔ original.Corresponds formatted o f := by
  rw [sameToken, Bool.and_eq_true, beq_iff_eq, Bool.or_eq_true, Corresponds, ← Bool.not_eq_true,
    or_iff_not_imp_left]

/-- Where a stream does not part from the original, the relevant tokens of the original are found
again in it. -/
theorem exists_covers {original formatted : TokenStream}
    (h : original.divergence? formatted = none) :
    ∃ place, Covers (original.Corresponds formatted) original.relevant formatted.relevant place := by
  obtain ⟨place, hc⟩ := exists_covers_of_find?_eq_none (Option.map_eq_none_iff.1 h)
  exact ⟨place, hc.toIsPlacement.mono fun _ => sameToken_iff.1, hc.added⟩

/-- *Soundness of the comparison.* Where a stream does not part from the original, there is a
strictly increasing map of the positions of the relevant tokens that sends each token to the same
one but for the case of letters; every other token of the formatted stream is a reserved word that
may be added, or an identifier before the place of a next token that is none. -/
theorem exists_strictMono_of_divergence?_eq_none {original formatted : TokenStream}
    (h : original.divergence? formatted = none) :
    ∃ place : Fin original.relevant.length → Fin formatted.relevant.length,
      StrictMono place ∧
      (∀ i, original.Corresponds formatted original.relevant[i] formatted.relevant[place i]) ∧
      ∀ j, j ∉ Set.range place → formatted.relevant[j].kind.isOptional = true ∨
        formatted.relevant[j].kind.isIdentifier = true ∧
          ∃ i, j < place i ∧ (∀ k < i, place k < j) ∧
            original.relevant[i].kind.isIdentifier = false := by
  obtain ⟨place, hc⟩ := exists_covers h
  exact ⟨place, hc.strictMono, hc.same, hc.added⟩

/-- A unit whose end has got its word and a label. -/
theorem exists_covers_end_label :
    ∃ place, Covers ((read "entity E is end;").Corresponds (read "entity e is end entity e;"))
      (read "entity E is end;").relevant (read "entity e is end entity e;").relevant place := by
  have h : (read "entity E is end;").divergence? (read "entity e is end entity e;") = none := by
    decide +kernel
  obtain ⟨place, hmono, hsame, hadd⟩ := exists_strictMono_of_divergence?_eq_none h
  exact ⟨place, ⟨hmono, hsame⟩, hadd⟩

end TokenStream

end VhdlLayout
