import Mathlib
import VhdlLayout.Equivalence.Check

/-!
# Comparing with tokens that are alike

A comparison looks at a formatted token only to see of which kind it is and which
tokens of the original match it. So let one list of formatted tokens be replaced by
another in which these are the same at each place. Then the comparison with either
ends in the same way, with tokens at the same places (`Parting.find?_alike`).
-/

namespace VhdlLayout.Parting

/-- The partings are of one form and tell the same token of the original; the formatted tokens that
they tell are related. -/
inductive Alike (R : Token → Token → Prop) : Parting → Parting → Prop
  | mismatch (o : Token) {f f' : Token} : R f f' → Alike R (.mismatch o f) (.mismatch o f')
  | original (o : Token) : Alike R (.leftover .original o) (.leftover .original o)
  | formatted {f f' : Token} : R f f' →
      Alike R (.leftover .formatted f) (.leftover .formatted f')

variable {same same' : Token → Token → Bool} {R : Token → Token → Prop}

/-- Behind the words that may be added, the tokens are alike again. -/
theorem forall₂_dropWhile (hkind : ∀ {f f'}, R f f' → f.kind = f'.kind) {fs fs' : List Token}
    (h : List.Forall₂ R fs fs') :
    List.Forall₂ R (fs.dropWhile (·.kind.isOptional)) (fs'.dropWhile (·.kind.isOptional)) := by
  induction h with
  | nil => exact .nil
  | cons hf h ih =>
    rw [List.dropWhile_cons, List.dropWhile_cons, hkind hf]
    split
    · exact ih
    · exact .cons hf h

/-- *Tokens that are alike part alike*, or do not part at all. -/
theorem find?_alike (hkind : ∀ {f f'}, R f f' → f.kind = f'.kind)
    (hsame : ∀ o {f f'}, R f f' → same o f = same' o f') (os : List Token) {fs fs' : List Token}
    (h : List.Forall₂ R fs fs') :
    Option.Rel (Alike R) (find? same os fs) (find? same' os fs') := by
  fun_induction find? same os fs generalizing fs' with
  | case1 fs hfs =>
    have hrest := forall₂_dropWhile hkind h
    rw [hfs, List.forall₂_nil_left_iff] at hrest
    rw [find?, hrest]
    exact .none
  | case2 fs f rest hfs =>
    have hrest := forall₂_dropWhile hkind h
    rw [hfs] at hrest
    obtain ⟨f', rest', hf, -, hfs'⟩ := List.forall₂_cons_left_iff.1 hrest
    rw [find?, hfs']
    exact .some (.formatted hf)
  | case3 o os =>
    obtain rfl := List.forall₂_nil_left_iff.1 h
    exact .some (.original o)
  -- The walk looks at the first formatted token, and so does the other one.
  | case4 o os f fs hof ih =>
    obtain ⟨f', fs', hf, hfs, rfl⟩ := List.forall₂_cons_left_iff.1 h
    rw [find?, ← hsame o hf, if_pos hof]
    exact ih hfs
  | case5 o os f fs hof hadd ih =>
    obtain ⟨f', fs', hf, hfs, rfl⟩ := List.forall₂_cons_left_iff.1 h
    rw [find?, ← hsame o hf, if_neg hof, ← hkind hf, if_pos hadd]
    exact ih hfs
  | case6 o os f fs hof hadd hlabel ih =>
    obtain ⟨f', fs', hf, hfs, rfl⟩ := List.forall₂_cons_left_iff.1 h
    rw [find?, ← hsame o hf, if_neg hof, ← hkind hf, if_neg hadd, if_pos hlabel]
    exact ih hfs
  | case7 o os f fs hof hadd hlabel =>
    obtain ⟨f', fs', hf, -, rfl⟩ := List.forall₂_cons_left_iff.1 h
    rw [find?, ← hsame o hf, if_neg hof, ← hkind hf, if_neg hadd, if_neg hlabel]
    exact .some (.mismatch o hf)

/-- What is made of two partings is related if the partings are. -/
theorem rel_map {α : Type*} {S : Parting → Parting → Prop} {S' : α → α → Prop}
    {report report' : Parting → α} (hreport : ∀ {p p'}, S p p' → S' (report p) (report' p'))
    {parting parting' : Option Parting} (h : Option.Rel S parting parting') :
    Option.Rel S' (parting.map report) (parting'.map report') := by
  cases h with
  | some hp => exact .some (hreport hp)
  | none => exact .none

end VhdlLayout.Parting
