import Mathlib
import VhdlLayout.Proofs.Equivalence.Placement

/-!
# Tokens that may be added

What a formatter may add to a program: reserved words of the kinds that mean
nothing, anywhere, and identifiers before a token that is neither an identifier
nor such a word itself. Tokens so added are never taken for a divergence.

The comparison takes every token for the next one of the original if it can, and
never goes back on that. So an added word may be taken for a word of the
original, and the word of the original, met later, for an added one. No harm is
done, for what may stand before that word are words that may be added, and they
may stand before the next token as well (`Extends.of_isOptional`). With an
identifier before the word this would fail, and is not permitted.

* `Extends`: the tokens on the right are those on the left with what may be added;
* `Extends.find?_eq_none`: the walk finds no parting between them;
* `TokenStream.divergence?_eq_none_of_extends`: so it is for two streams.
-/

namespace VhdlLayout

/-- The token `f` may be added before the token `o` of the original: it is a reserved word that may
stand anywhere, or an identifier where `o` is neither an identifier nor such a word. -/
def Token.MayPrecede (f o : Token) : Prop :=
  f.kind.isOptional = true ∨
    f.kind.isIdentifier = true ∧ o.kind.isIdentifier = false ∧ o.kind.isOptional = false

/-- The tokens on the right are those on the left, each replaced by one that is the same, with any
number of tokens added before each that may precede it, and any number of words that may stand
anywhere behind the last. -/
inductive Extends (same : Token → Token → Prop) : (original formatted : List Token) → Prop
  | rest {fs : List Token} : (∀ f ∈ fs, f.kind.isOptional = true) → Extends same [] fs
  | keep {o f : Token} {os fs : List Token} : same o f → Extends same os fs →
      Extends same (o :: os) (f :: fs)
  | add {o f : Token} {os fs : List Token} : f.MayPrecede o → Extends same (o :: os) fs →
      Extends same (o :: os) (f :: fs)

namespace Extends

variable {o f : Token} {os fs : List Token}

section Walk

variable {same : Token → Token → Prop}

/-- Tokens that are the same one by one extend each other by nothing. -/
theorem of_forall₂ (h : List.Forall₂ same os fs) : Extends same os fs := by
  induction h with
  | nil => exact .rest fun f hf => absurd hf List.not_mem_nil
  | cons hsame _ ih => exact .keep hsame ih

theorem mono {same' : Token → Token → Prop} (hmono : ∀ {o f}, same o f → same' o f)
    (h : Extends same os fs) : Extends same' os fs := by
  induction h with
  | rest hfs => exact .rest hfs
  | keep hsame _ ih => exact .keep (hmono hsame) ih
  | add hf _ ih => exact .add hf ih

/-- A word that may stand anywhere may be added in front. -/
theorem cons_of_isOptional (hf : f.kind.isOptional = true) (h : Extends same os fs) :
    Extends same os (f :: fs) := by
  cases os with
  | nil =>
    cases h with
    | rest hfs => exact .rest (List.forall_mem_cons.2 ⟨hf, hfs⟩)
  | cons o os => exact .add (.inl hf) h

/-- *The exchange.* What extends a word that may stand anywhere and the tokens behind it extends
those tokens alone: the word itself then counts as added. -/
theorem of_isOptional (hsame : ∀ {o f}, same o f → o.kind = f.kind)
    (ho : o.kind.isOptional = true) (h : Extends same (o :: os) fs) : Extends same os fs := by
  generalize hl : o :: os = l at h
  induction h with
  | rest => cases hl
  | keep hof h _ =>
    cases hl
    rw [hsame hof] at ho
    exact cons_of_isOptional ho h
  | add hf _ ih =>
    cases hl
    -- Before such a word no identifier may be added.
    rcases hf with hf | ⟨_, _, hno⟩
    · exact cons_of_isOptional hf (ih rfl)
    · rw [ho] at hno
      cases hno

/-- The first token of an extension is the original's first token or has been added before it. -/
theorem cons_cases (h : Extends same (o :: os) (f :: fs)) :
    (same o f ∧ Extends same os fs) ∨ (f.MayPrecede o ∧ Extends same (o :: os) fs) := by
  cases h with
  | keep hsame h => exact .inl ⟨hsame, h⟩
  | add hf h => exact .inr ⟨hf, h⟩

end Walk

/-- The walk finds no parting between tokens and an extension of them. -/
theorem find?_eq_none {same : Token → Token → Bool}
    (hkind : ∀ {o f}, same o f = true → o.kind = f.kind)
    (h : Extends (fun o f => same o f = true) os fs) : Parting.find? same os fs = none := by
  fun_induction Parting.find? same os fs with
  | case1 fs hfs => rfl
  | case2 fs f fs' hfs =>
    cases h with
    | rest hopt =>
      rw [List.dropWhile_eq_nil_iff.2 hopt] at hfs
      cases hfs
  | case3 o os => cases h
  | case4 o os f fs hsame ih =>
    -- The two are taken for each other. If `f` had been added, it is a word and so is `o`, which
    -- will be met later on.
    rcases h.cons_cases with ⟨_, h⟩ | ⟨hf | ⟨hident, hno, _⟩, h⟩
    · exact ih h
    · rw [← hkind hsame] at hf
      exact ih (h.of_isOptional hkind hf)
    · rw [hkind hsame, hident] at hno
      cases hno
  | case5 o os f fs hdiff _ ih =>
    rcases h.cons_cases with ⟨hsame, _⟩ | ⟨_, h⟩
    · exact absurd hsame hdiff
    · exact ih h
  | case6 o os f fs hdiff _ _ ih =>
    rcases h.cons_cases with ⟨hsame, _⟩ | ⟨_, h⟩
    · exact absurd hsame hdiff
    · exact ih h
  | case7 o os f fs hdiff hopt hlabel =>
    rcases h.cons_cases with ⟨hsame, _⟩ | ⟨hf | ⟨hident, hno, _⟩, _⟩
    · exact absurd hsame hdiff
    · exact absurd hf hopt
    · rw [hident, hno] at hlabel
      exact absurd rfl hlabel

end Extends

/-! ## Streams -/

namespace TokenStream

/-- A stream does not part from one whose relevant tokens its own extend. -/
theorem divergence?_eq_none {original formatted : TokenStream}
    (h : Extends (original.Corresponds formatted) original.relevant formatted.relevant) :
    original.divergence? formatted = none :=
  Option.map_eq_none_iff.2 <|
    (h.mono sameToken_iff.2).find?_eq_none fun hsame => (sameToken_iff.1 hsame).1

theorem corresponds_self (s : TokenStream) (t : Token) : s.Corresponds s t t :=
  ⟨rfl, fun _ => Unicode.sameIgnoringCase_self _⟩

/-- *Completeness of the comparison.* No stream parts from the original whose relevant tokens are
those of the original, the same but for the case of letters, with what may be added; comments and
ends may stand anywhere in both. In particular no stream parts from itself. -/
theorem divergence?_eq_none_of_extends :
    (∀ original formatted : TokenStream,
      Extends (original.Corresponds formatted) original.relevant formatted.relevant →
        original.divergence? formatted = none) ∧
    ∀ s : TokenStream, s.divergence? s = none :=
  ⟨fun _ _ => divergence?_eq_none, fun s => divergence?_eq_none <|
    .of_forall₂ <| List.forall₂_same.2 fun t _ => s.corresponds_self t⟩

/-- The word after `end` is written twice. The walk takes the added one for the one of the original,
which it then passes over as added, as it does with the label. -/
theorem divergence?_eq_none_repeated_word :
    let original := read "begin end entity;"
    let formatted := read "BEGIN end ENTITY -- added\n entity e ;"
    Extends (original.Corresponds formatted) original.relevant formatted.relevant ∧
      original.divergence? formatted = none := by
  intro original formatted
  have horiginal : original.relevant =
      [⟨.word .begin, ⟨0, 5⟩⟩, ⟨.word .end_, ⟨6, 9⟩⟩, ⟨.word .entity, ⟨10, 16⟩⟩,
        ⟨.delimiter .semicolon, ⟨16, 17⟩⟩] := by decide +kernel
  have hformatted : formatted.relevant =
      [⟨.word .begin, ⟨0, 5⟩⟩, ⟨.word .end_, ⟨6, 9⟩⟩, ⟨.word .entity, ⟨10, 16⟩⟩,
        ⟨.word .entity, ⟨27, 33⟩⟩, ⟨.ident, ⟨34, 35⟩⟩, ⟨.delimiter .semicolon, ⟨36, 37⟩⟩] := by
    decide +kernel
  have hext : Extends (original.Corresponds formatted) original.relevant formatted.relevant := by
    rw [horiginal, hformatted]
    refine .keep ⟨rfl, nofun⟩ (.keep ⟨rfl, nofun⟩ (.add (.inl rfl) (.keep ⟨rfl, nofun⟩ ?_)))
    exact .add (.inr ⟨rfl, rfl, rfl⟩) (.keep ⟨rfl, fun _ => by decide +kernel⟩ (.rest nofun))
  exact ⟨hext, divergence?_eq_none_of_extends.1 _ _ hext⟩

/-- An identifier before such a word is not permitted: the walk has passed the word by then. -/
example : ((read "end entity").divergence? (read "end entity e entity")).isSome = true := by
  decide +kernel

end TokenStream

/-- A text does not part from itself, whatever is wrong with it. -/
theorem divergence?_self (text : String) : divergence? text text = none :=
  TokenStream.divergence?_eq_none <| .of_forall₂ <| List.forall₂_same.2 fun t _ =>
    TokenStream.corresponds_self _ t

end VhdlLayout
