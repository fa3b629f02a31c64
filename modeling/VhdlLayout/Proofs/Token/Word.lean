import Mathlib
import VhdlLayout.Proofs.Token.Kind
import VhdlLayout.Proofs.Token.Text
import VhdlLayout.Unicode.Lowercase

/-!
# Reserved words in any case

The kind of a reserved word tells how the word is spelled but for the case of
its letters. So two tokens of one such kind have the same text if case is left
out of account, wherever they have been read (`sameIgnoringCase_of_isWord`).

The case that a reserved word ignores is that of the basic Latin letters, the
case that the comparison of texts ignores is that of all letters; texts that
agree up to the former agree up to the latter
(`Unicode.sameIgnoringCase_of_toLower_eq`). Of all lexemes only words are ever
read as reserved words (`Lexeme.isSpelled_read`).
-/

namespace VhdlLayout

/-! ## Letters -/

namespace Unicode

/-- Beyond the basic Latin letters nothing has a basic Latin small letter of its own. -/
theorem toLower_of_le {c : Char} (h : 0x80 ≤ c.toNat) : c.toLower = c := by
  rw [Char.toLower]
  split
  · next hc =>
    have : c.val.toNat ≤ 90 := hc.2
    exact absurd h (by rw [← Char.toNat_val]; omega)
  · rfl

/-- The small letters of a character are those of its basic Latin small letter. -/
theorem lowercase_toLower (c : Char) : lowercase c.toLower = lowercase c := by
  by_cases hc : c.toNat < 0x80
  · -- The letters that have such a small letter are few enough to look at each.
    have basic : ∀ n < 0x80, lowercase (Char.ofNat n).toLower = lowercase (Char.ofNat n) := by
      decide
    rw [← Char.ofNat_toNat c]
    exact basic c.toNat hc
  · rw [toLower_of_le (Nat.not_lt.1 hc)]

theorem lowercaseAll_toLower (s : String) :
    lowercaseAll s.toLower.toList = lowercaseAll s.toList := by
  rw [String.toLower, String.toList_map, lowercaseAll, List.flatMap_map]
  simp only [lowercase_toLower]
  rfl

/-- Texts that differ in the case of basic Latin letters alone are the same but for case. -/
theorem sameIgnoringCase_of_toLower_eq {s t : String} (h : s.toLower = t.toLower) :
    sameIgnoringCase s t = true := by
  rw [sameIgnoringCase, beq_iff_eq, ← lowercaseAll_toLower s, ← lowercaseAll_toLower t, h]

end Unicode

/-- What is read as a reserved word spells it. -/
theorem Word.toLower_of_ofString? {text : String} {w : Word} (h : Word.ofString? text = some w) :
    text.toLower = w.spelling := by
  rw [Word.ofString?] at h
  split at h
  · cases h
  · obtain ⟨before, behind, hlexicon, -⟩ := List.lookup_eq_some_iff.1 h
    rw [← mem_lexicon_iff, hlexicon]
    exact List.mem_append_right before List.mem_cons_self

/-! ## Lexemes -/

namespace Lexeme

/-- The lexeme is read as a reserved word only if its text is one. -/
def IsSpelled (l : Lexeme) : Prop :=
  ∀ w, l.kind = .word w → Word.ofString? (String.ofList l.text) = some w

theorem IsSpelled.of_isWord {l : Lexeme} (h : l.kind.isWord = false) : l.IsSpelled := by
  intro w hw
  rw [hw] at h
  cases h

theorem isSpelled_ofWord (text rest : List Char) : (ofWord text rest).IsSpelled := by
  intro w hw
  rw [ofWord_text]
  rw [ofWord] at hw
  split at hw
  · next h =>
    cases hw
    exact h
  · cases hw

theorem isSpelled_ofRun (text cs : List Char) : (ofRun text cs).IsSpelled := by
  fun_cases ofRun text cs
  · exact .of_isWord (Body.kind_lexeme (p := (·.isWord = false)) _ _ _ rfl rfl)
  · exact isSpelled_ofWord _ _
  · exact isSpelled_ofWord _ _

/-- But for words, no lexeme is read as a reserved word. -/
theorem isSpelled_read (previous : Option Kind) (c : Char) (cs : List Char) :
    (read previous c cs).IsSpelled := by
  fun_cases read previous c cs
  · exact .of_isWord (kind_apostrophe (p := (·.isWord = false)) _ _ rfl rfl)
  · exact .of_isWord (Body.kind_lexeme (p := (·.isWord = false)) _ _ _ rfl rfl)
  · exact .of_isWord (Body.kind_lexeme (p := (·.isWord = false)) _ _ _ rfl rfl)
  · exact .of_isWord (kind_numberTail (p := (·.isWord = false)) _ _ rfl rfl rfl rfl)
  · exact isSpelled_ofRun _ _
  · exact .of_isWord (kind_mark (p := (·.isWord = false)) _ _ rfl (fun _ => rfl) rfl)

end Lexeme

/-! ## Tokens -/

/-- A token of the kind of a reserved word has that word for its text. -/
theorem toLower_text_of_mem_readAll {source : String} {t : Token} {w : Word}
    (h : t ∈ Token.readAll source) (hw : t.kind = .word w) :
    (t.text source).toLower = w.spelling := by
  rcases exists_read_of_mem_readAll h with heof | ⟨previous, c, cs, hkind, htext⟩
  · rw [heof] at hw
    cases hw
  · -- The kind has been read off the text, and the text spells the word that it has been read as.
    rw [htext]
    exact Word.toLower_of_ofString? (Lexeme.isSpelled_read previous c cs w (hkind ▸ hw))

/-- Two tokens of the kind of one reserved word, each read in a source of its own, have the same
text but for case. -/
theorem sameIgnoringCase_of_isWord {s s' : String} {t t' : Token} (h : t ∈ Token.readAll s)
    (h' : t' ∈ Token.readAll s') (hkind : t.kind = t'.kind) (hword : t.kind.isWord = true) :
    Unicode.sameIgnoringCase (t.text s) (t'.text s') = true := by
  obtain ⟨w, hw⟩ : ∃ w, t.kind = .word w := by
    cases hk : t.kind with
    | word w => exact ⟨w, rfl⟩
    | _ => rw [hk] at hword; cases hword
  apply Unicode.sameIgnoringCase_of_toLower_eq
  rw [toLower_text_of_mem_readAll h hw, toLower_text_of_mem_readAll h' (hkind ▸ hw)]

end VhdlLayout
