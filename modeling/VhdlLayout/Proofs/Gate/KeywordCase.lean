import Mathlib
import VhdlLayout.Gate
import VhdlLayout.Proofs.Doc.Respelling
import VhdlLayout.Proofs.Equivalence.LetterCase

/-!
# The case of reserved words

In which case reserved words are written is a matter of taste. It has no part in the
layout, and none in the verdict on it: under options that differ in this case alone,
a document is given out in texts that are the same but for case, or refused for the
same reason at the same place (`Doc.format_keywordCase`).

The two texts that are laid out are the same in small letters, so the comparison with
the original ends in the same way for both.
-/

namespace VhdlLayout

/-- Either both texts are given out, the same but for case, or both are refused alike. -/
inductive SameVerdict : Except Divergence String → Except Divergence String → Prop
  | ok {text text' : String} : SameButCase text text' → SameVerdict (.ok text) (.ok text')
  | error {e e' : Divergence} : e.Alike e' → SameVerdict (.error e) (.error e')

/-- Under options that differ in the case of reserved words alone, everything is spelled the same
but for case. -/
theorem Options.respells_keywordCase (o : Options) (casing casing' : Casing) :
    Respells { o with keywordCase := casing } { o with keywordCase := casing' } (fun _ => True)
      SameButCase where
  lineWidth := rfl
  indentSize := rfl
  align := rfl
  space := trivial
  append := SameButCase.append
  text _ := rfl
  keyword _ := (casing.toLower_apply _).trans (casing'.toLower_apply _).symm
  lineBreak _ := rfl

/-- *The case of reserved words has no part in the verdict.* -/
theorem Doc.format_keywordCase (d : Doc) (original : String) (o : Options)
    (casing casing' : Casing) :
    SameVerdict (d.format original { o with keywordCase := casing })
      (d.format original { o with keywordCase := casing' }) := by
  have laidOut := print_respelled (o.respells_keywordCase casing casing') d.allChars_true
  have verdict := laidOut.divergence? original
  rw [format, format]
  revert verdict
  generalize divergence? original (d.print { o with keywordCase := casing }) = result
  generalize divergence? original (d.print { o with keywordCase := casing' }) = result'
  intro verdict
  cases verdict with
  | none => exact .ok laidOut
  | some h => exact .error h

end VhdlLayout
