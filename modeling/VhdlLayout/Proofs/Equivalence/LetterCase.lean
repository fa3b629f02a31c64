import Mathlib
import VhdlLayout.Equivalence.Check
import VhdlLayout.Proofs.Equivalence.Extension
import VhdlLayout.Proofs.Equivalence.Likeness
import VhdlLayout.Proofs.Token.LetterCase

/-!
# Texts that are the same but for case

The language does not tell capital letters from small ones. Two texts that are the
same in small letters (`SameButCase`) therefore hold the same tokens at the same
places, and what is malformed in one is malformed in the other in the same way
(`SameButCase.readings`). Nor does a comparison tell them apart: it ends with both in
the same way, whatever it compares them with (`SameButCase.divergence?`). So each of
them denotes the same program as the other (`SameButCase.tokens_alike`).
-/

namespace VhdlLayout

/-- The texts are the same but for the case of basic Latin letters. -/
def SameButCase (s s' : String) : Prop := s.toLower = s'.toLower

theorem SameButCase.append {s s' t t' : String} (h : SameButCase s s') (h' : SameButCase t t') :
    SameButCase (s ++ t) (s' ++ t') := by
  have append (s t : String) : (s ++ t).toLower = s.toLower ++ t.toLower :=
    Casing.lower.apply_append s t
  rw [SameButCase, append, append, h, h']

variable {s s' : String}

/-! ## Tokens -/

theorem SameButCase.apply_lower (h : SameButCase s s') :
    Casing.lower.apply s = Casing.lower.apply s' := h

theorem SameButCase.readAll_eq (h : SameButCase s s') : Token.readAll s = Token.readAll s' := by
  have lowered := congrArg Token.readAll h.apply_lower
  rwa [Token.readAll_apply, Token.readAll_apply] at lowered

theorem SameButCase.text {t : Token} (h : SameButCase s s') (ht : t ∈ Token.readAll s) :
    SameButCase (t.text s) (t.text s') := by
  have lowered := congrArg t.text h.apply_lower
  rwa [Token.text_apply .lower ht, Token.text_apply .lower (h.readAll_eq ▸ ht)] at lowered

/-! ## Errors -/

/-- The faults are of one sort, and what they tell is the same but for case. -/
inductive Fault.Alike : Fault → Fault → Prop
  | unexpectedCharacter {c c' : Char} : c.toLower = c'.toLower →
      Alike (.unexpectedCharacter c) (.unexpectedCharacter c')
  | unterminatedString : Alike .unterminatedString .unterminatedString
  | unterminatedBlockComment : Alike .unterminatedBlockComment .unterminatedBlockComment
  | unterminatedExtendedIdentifier :
      Alike .unterminatedExtendedIdentifier .unterminatedExtendedIdentifier
  | invalidBasedLiteral {text text' : String} : SameButCase text text' →
      Alike (.invalidBasedLiteral text) (.invalidBasedLiteral text')

/-- The same stretch of text is malformed for a reason of the same sort. -/
structure LexicalError.Alike (e e' : LexicalError) : Prop where
  fault : e.fault.Alike e'.fault
  span : e.span = e'.span

theorem Fault.alike_of_recased_eq {fault fault' : Fault}
    (h : fault.recased .lower = fault'.recased .lower) : fault.Alike fault' := by
  cases fault <;> cases fault' <;> simp only [recased, reduceCtorEq, unexpectedCharacter.injEq,
    invalidBasedLiteral.injEq] at h
  · exact .unexpectedCharacter h
  · exact .unterminatedString
  · exact .unterminatedBlockComment
  · exact .unterminatedExtendedIdentifier
  · exact .invalidBasedLiteral h

/-- What is read is malformed for reasons of the same sort, or not at all, if it is the same in
small letters. -/
theorem Reading.rel_error? {r r' : Reading} (h : r.recased .lower = r'.recased .lower) :
    Option.Rel LexicalError.Alike r.error? r'.error? := by
  obtain ⟨token, fault⟩ := r
  obtain ⟨token', fault'⟩ := r'
  obtain ⟨rfl, hfault⟩ := Reading.mk.inj h
  cases fault with
  | none =>
    cases fault' with
    | none => exact .none
    | some fault' => cases hfault
  | some fault =>
    cases fault' with
    | none => cases hfault
    | some fault' => exact .some ⟨Fault.alike_of_recased_eq (Option.some.inj hfault), rfl⟩

/-- All that is read in the two texts is the same in small letters. -/
theorem SameButCase.readings (h : SameButCase s s') :
    List.Forall₂ (fun r r' : Reading => r.recased .lower = r'.recased .lower)
      (VhdlLayout.readings s) (VhdlLayout.readings s') := by
  have lowered := congrArg VhdlLayout.readings h.apply_lower
  rwa [readings_apply, readings_apply, ← List.forall₂_eq_eq_eq, List.forall₂_map_left_iff,
    List.forall₂_map_right_iff] at lowered

theorem SameButCase.lexicalErrors (h : SameButCase s s') :
    List.Forall₂ LexicalError.Alike (VhdlLayout.lexicalErrors s) (VhdlLayout.lexicalErrors s') :=
  List.rel_filterMap (fun _ _ hr => Reading.rel_error? hr) h.readings

/-! ## Comparison -/

/-- The same kind of token is sighted at the same place, its text the same but for case. -/
structure Sighting.Alike (s s' : Sighting) : Prop where
  text : SameButCase s.text s'.text
  kind : s.kind = s'.kind
  position : s.position = s'.position
  span : s.span = s'.span

/-- The divergences are of one form and tell the same token of the original, and a formatted token
that is the same but for case. -/
inductive Divergence.Alike : Divergence → Divergence → Prop
  | mismatch (original : Sighting) {formatted formatted' : Sighting} :
      formatted.Alike formatted' →
      Alike (.mismatch original formatted) (.mismatch original formatted')
  | original (token : Sighting) : Alike (.leftover .original token) (.leftover .original token)
  | formatted {token token' : Sighting} : token.Alike token' →
      Alike (.leftover .formatted token) (.leftover .formatted token')

theorem SameButCase.sight {t : Token} (h : SameButCase s s') (ht : t ∈ Token.readAll s) :
    ((TokenStream.read s).sight t).Alike ((TokenStream.read s').sight t) where
  text := h.text ht
  kind := rfl
  position := by
    have lowered := congrArg Lines.ofSource h.apply_lower
    rw [Lines.ofSource_apply, Lines.ofSource_apply] at lowered
    exact congrArg (·.position t.span.start) lowered
  span := rfl

theorem SameButCase.lowercaseAll_eq (h : SameButCase s s') :
    Unicode.lowercaseAll s.toList = Unicode.lowercaseAll s'.toList := by
  rw [← Unicode.lowercaseAll_toLower, h, Unicode.lowercaseAll_toLower]

/-- Of the text of a token the comparison sees only what it is but for case. -/
theorem SameButCase.sameToken {t : Token} (h : SameButCase s s') (ht : t ∈ Token.readAll s)
    (original : TokenStream) (o : Token) :
    original.sameToken (.read s) o t = original.sameToken (.read s') o t := by
  have htext : Unicode.lowercaseAll ((TokenStream.read s).text t).toList =
      Unicode.lowercaseAll ((TokenStream.read s').text t).toList := (h.text ht).lowercaseAll_eq
  rw [TokenStream.sameToken, TokenStream.sameToken, Unicode.sameIgnoringCase,
    Unicode.sameIgnoringCase, htext]

theorem Parting.Alike.report {R : Token → Token → Prop} {original stream stream' : TokenStream}
    (hR : ∀ {t t'}, R t t' → (stream.sight t).Alike (stream'.sight t')) {p p' : Parting}
    (h : p.Alike R p') : (p.report original stream).Alike (p'.report original stream') := by
  cases h with
  | mismatch o hf => exact .mismatch _ (hR hf)
  | original o => exact .original _
  | formatted hf => exact .formatted (hR hf)

/-- Texts that are the same but for case part alike from any other. -/
theorem SameButCase.divergence? (h : SameButCase s s') (original : String) :
    Option.Rel Divergence.Alike (VhdlLayout.divergence? original s)
      (VhdlLayout.divergence? original s') := by
  have relevant : (TokenStream.read s).relevant = (TokenStream.read s').relevant :=
    congrArg (List.filter _) h.readAll_eq
  -- The tokens are not only the same: that they are tokens of `s` says what their texts are.
  have alike : List.Forall₂ (fun t t' => t = t' ∧ t ∈ Token.readAll s)
      (TokenStream.read s).relevant (TokenStream.read s').relevant := by
    rw [← relevant, List.forall₂_same]
    exact fun t ht => ⟨rfl, (List.mem_filter.1 ht).1⟩
  have hsame (o : Token) {t t' : Token} (ht : t = t' ∧ t ∈ Token.readAll s) :
      (TokenStream.read original).sameToken (.read s) o t =
        (TokenStream.read original).sameToken (.read s') o t' := by
    obtain ⟨rfl, ht⟩ := ht
    exact h.sameToken ht _ o
  have walk := Parting.find?_alike (fun ht => congrArg Token.kind ht.1) hsame
    (TokenStream.read original).relevant alike
  refine Parting.rel_map (fun hp => hp.report fun ht => ?_) walk
  obtain ⟨rfl, ht⟩ := ht
  exact h.sight ht

/-- *The case of letters does not count.* Two texts that are the same but for case hold tokens of
the same kinds at the same places, have the same stretches malformed for reasons of the same sorts,
and neither parts from the other. -/
theorem SameButCase.tokens_alike (h : SameButCase s s') :
    Token.readAll s = Token.readAll s' ∧
      List.Forall₂ LexicalError.Alike (VhdlLayout.lexicalErrors s) (VhdlLayout.lexicalErrors s') ∧
      VhdlLayout.divergence? s s' = none ∧ VhdlLayout.divergence? s' s = none := by
  have accepts {t t' : String} (h : SameButCase t t') : VhdlLayout.divergence? t t' = none := by
    have same := h.divergence? t
    rw [divergence?_self] at same
    cases hr : VhdlLayout.divergence? t t' with
    | none => rfl
    | some r =>
      rw [hr] at same
      cases same
  exact ⟨h.readAll_eq, h.lexicalErrors, accepts h, accepts h.symm⟩

/-- A bit string, a based literal, an exponent and a reserved word, and behind them a based literal
and a string that are not closed. -/
theorem SameButCase.tokens_alike_malformed :
    let s := "Ux\"fF\" 16#aF#e1 END 8#7fZ \"open"
    let s' := "uX\"Ff\" 16#Af#E1 end 8#7Fz \"OPEN"
    SameButCase s s' ∧ (VhdlLayout.lexicalErrors s).map LexicalError.span = [⟨20, 24⟩, ⟨26, 31⟩] ∧
      Token.readAll s = Token.readAll s' ∧
      List.Forall₂ LexicalError.Alike (VhdlLayout.lexicalErrors s) (VhdlLayout.lexicalErrors s') ∧
      VhdlLayout.divergence? s s' = none ∧ VhdlLayout.divergence? s' s = none := by
  intro s s'
  have h : SameButCase s s' := show s.toLower = s'.toLower by cbv
  exact ⟨h, by cbv, h.tokens_alike⟩

end VhdlLayout
