import Mathlib
import VhdlLayout.Options.Basic

/-!
# The case of letters

To write a text in a case is to write each of its letters in that case
(`Casing.toList_apply`). Only the case of letters changes: every other character
stays, none comes or goes, and in lower case all texts that differ in case only are
the same text.
-/

namespace VhdlLayout.Casing

/-- A character in the chosen case. -/
def letter : Casing → Char → Char
  | .lower, c => c.toLower
  | .upper, c => c.toUpper
  | .preserve, c => c

theorem toList_apply (casing : Casing) (text : String) :
    (casing.apply text).toList = text.toList.map casing.letter := by
  cases casing with
  | lower | upper => exact String.toList_map
  | preserve => exact (List.map_id _).symm

theorem length_apply (casing : Casing) (text : String) :
    (casing.apply text).length = text.length := by
  rw [← String.length_toList, toList_apply, List.length_map, String.length_toList]

theorem apply_append (casing : Casing) (s t : String) :
    casing.apply (s ++ t) = casing.apply s ++ casing.apply t := by
  apply String.toList_injective
  rw [String.toList_append, toList_apply, toList_apply, toList_apply, String.toList_append,
    List.map_append]

/-- A character is a letter in the chosen case if it is a letter. -/
theorem toLower_letter (casing : Casing) (c : Char) : (casing.letter c).toLower = c.toLower := by
  cases casing with
  | lower => exact Char.toLower_toLower_eq_toLower c
  | upper => exact Char.toLower_toUpper_eq_toLower c
  | preserve => rfl

theorem toLower_apply (casing : Casing) (text : String) :
    (casing.apply text).toLower = text.toLower := by
  apply String.toList_injective
  rw [String.toLower, String.toLower, String.toList_map, String.toList_map, toList_apply,
    List.map_map]
  congr 1
  exact funext casing.toLower_letter

theorem isAlpha_letter (casing : Casing) (c : Char) : (casing.letter c).isAlpha = c.isAlpha := by
  cases casing with
  | lower => exact Char.isAlpha_toLower_eq_isAlpha c
  | upper => exact Char.isAlpha_toUpper_eq_isAlpha c
  | preserve => rfl

theorem letter_of_isAlpha_eq_false (casing : Casing) {c : Char} (h : c.isAlpha = false) :
    casing.letter c = c := by
  rw [Char.isAlpha, Bool.or_eq_false_iff] at h
  cases casing with
  | lower => exact Char.toLower_eq_of_not_isUpper (Bool.eq_false_iff.1 h.1)
  | upper => exact Char.toUpper_eq_of_not_isLower (Bool.eq_false_iff.1 h.2)
  | preserve => rfl

/-- What is no letter stays as it is, and no letter becomes it. -/
theorem letter_eq_iff (casing : Casing) {c e : Char} (he : e.isAlpha = false) :
    casing.letter c = e ↔ c = e := by
  constructor
  · rintro rfl
    rw [isAlpha_letter] at he
    exact (casing.letter_of_isAlpha_eq_false he).symm
  · rintro rfl
    exact casing.letter_of_isAlpha_eq_false he

/-- A text holds a character that is no letter whatever case it is written in. -/
theorem mem_apply_iff (casing : Casing) {e : Char} (he : e.isAlpha = false) (text : String) :
    e ∈ (casing.apply text).toList ↔ e ∈ text.toList := by
  rw [toList_apply, List.mem_map]
  simp only [casing.letter_eq_iff he, exists_eq_right]

end VhdlLayout.Casing
