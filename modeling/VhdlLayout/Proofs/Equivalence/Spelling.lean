import Mathlib
import VhdlLayout.Proofs.Gate.Preservation
import VhdlLayout.Proofs.Token.Munch

/-!
# Comparing reserved words by their kind

The comparison does not look at the text of reserved words, as the kind tells it but for
case. Here it is compared with the walk that looks at the text of every token
(`TokenStream.divergenceByText?`). The two are the same for any two sources, in what they
report, too: the tokens that are compared have been read, and a token that has been read
as a reserved word spells it (`TokenStream.corresponds_iff_sameText`).

That no other text is read as a reserved word, and that what spells one is, is settled by
the table that words are looked up in (`Word.ofString?_eq_some_iff`).
-/

namespace VhdlLayout

namespace Parting

/-- A walk asks whether tokens match for tokens of the two lists only. -/
theorem find?_congr {same same' : Token → Token → Bool} {os fs : List Token}
    (h : ∀ o ∈ os, ∀ f ∈ fs, same o f = same' o f) : find? same os fs = find? same' os fs := by
  fun_induction find? same os fs with
  | case1 fs hfs => rw [find?, hfs]
  | case2 fs f rest hfs => rw [find?, hfs]
  | case3 => rfl
  -- At each pair the other walk takes the same step; what it has passed, it does not ask for again.
  | case4 o os f fs hof ih =>
    rw [find?, ← h o List.mem_cons_self f List.mem_cons_self, if_pos hof]
    exact ih fun o ho f hf => h o (List.mem_cons_of_mem _ ho) f (List.mem_cons_of_mem _ hf)
  | case5 o os f fs hof hadd ih =>
    rw [find?, ← h o List.mem_cons_self f List.mem_cons_self, if_neg hof, if_pos hadd]
    exact ih fun o ho f hf => h o ho f (List.mem_cons_of_mem _ hf)
  | case6 o os f fs hof hadd hlabel ih =>
    rw [find?, ← h o List.mem_cons_self f List.mem_cons_self, if_neg hof, if_neg hadd,
      if_pos hlabel]
    exact ih fun o ho f hf => h o ho f (List.mem_cons_of_mem _ hf)
  | case7 o os f fs hof hadd hlabel =>
    rw [find?, ← h o List.mem_cons_self f List.mem_cons_self, if_neg hof, if_neg hadd,
      if_neg hlabel]

end Parting

namespace TokenStream

instance (original formatted : TokenStream) (o f : Token) :
    Decidable (original.SameText formatted o f) :=
  inferInstanceAs (Decidable (_ ∧ _))

/-- Where `formatted` parts from `original` if tokens match that are of one kind and have the same
text but for case, reserved words like any others. -/
def divergenceByText? (original formatted : TokenStream) : Option Divergence :=
  (Parting.find? (fun o f => decide (original.SameText formatted o f))
    original.relevant formatted.relevant).map (Parting.report original formatted)

theorem sameToken_eq_decide {original formatted : String} {o f : Token}
    (ho : o ∈ (read original).relevant) (hf : f ∈ (read formatted).relevant) :
    (read original).sameToken (read formatted) o f =
      decide ((read original).SameText (read formatted) o f) := by
  rw [Bool.eq_iff_iff, decide_eq_true_iff, sameToken_iff]
  exact corresponds_iff_sameText (mem_readAll_of_mem_relevant ho) (mem_readAll_of_mem_relevant hf)

/-- *Reserved words may be compared by their kind.* A text is read as a reserved word just if its
letters, basic Latin capitals made small, are the spelling of that word, however long it is. So for
any two sources the comparison comes to the same end as the one that looks at all texts, and reports
the same tokens. -/
theorem divergence?_eq_divergenceByText? :
    (∀ (text : String) (w : Word), Word.ofString? text = some w ↔ text.toLower = w.spelling) ∧
    ∀ original formatted : String,
      VhdlLayout.divergence? original formatted =
        (read original).divergenceByText? (read formatted) := by
  refine ⟨fun _ _ => Word.ofString?_eq_some_iff, fun original formatted => ?_⟩
  rw [VhdlLayout.divergence?, TokenStream.divergence?, divergenceByText?,
    Parting.find?_congr fun o ho f hf => sameToken_eq_decide ho hf]

/-- The Kelvin sign has the small letter k, but no reserved word is spelled with it. -/
example : Unicode.sameIgnoringCase "block" "BLOC\u212a" = true ∧
    Word.ofString? "BLOC\u212a" = none := by
  decide +kernel

end TokenStream

end VhdlLayout
