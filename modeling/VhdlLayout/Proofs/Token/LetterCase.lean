import Mathlib
import VhdlLayout.Equivalence.Stream
import VhdlLayout.Proofs.Token.Recasing

/-!
# Sources in another case

A source that is written in another case has the same tokens: the same kinds at the
same offsets (`Token.readAll_apply`), as each step of a reader takes the same lexeme
but for case. What is wrong with a malformed token is the same, too, and its lines
are the same (`Lines.ofSource_apply`). Only the text of a token is written in the
other case (`Token.text_apply`).
-/

namespace VhdlLayout

variable (casing : Casing)

/-! ## Readings -/

/-- The reading with the text of its fault in the chosen case. -/
def Reading.recased (r : Reading) : Reading :=
  { r with fault := r.fault.map (Fault.recased casing) }

namespace Reader

/-- The reader in front of the same text in the chosen case. -/
def recased (r : Reader) : Reader := { r with rest := r.rest.map casing.letter }

end Reader

theorem isBlank_letter (c : Char) : isBlank (casing.letter c) = isBlank c :=
  Casing.blind (by decide) casing c

theorem Lexeme.read_map_letter (previous : Option Kind) (c : Char) (cs : List Char) :
    read previous (casing.letter c) (cs.map casing.letter) =
      (read previous c cs).recased casing [] := by
  have hread : (read previous c cs).IsRecased casing []
      (read previous (casing.letter c) (casing.respell [] cs)) :=
    read_respell casing .nil previous (.inl rfl)
  rw [Casing.respell, List.append_nil] at hread
  refine hread.resolve_right ?_
  rintro ⟨ds, hds, -⟩
  cases hds

namespace Reader

/-- A step takes the same token in another case, and leaves the reader at the same place. -/
theorem next?_recased (r : Reader) :
    (r.recased casing).next? =
      r.next?.map fun (t, s) => (t.recased casing, s.recased casing) := by
  have hblank : isBlank ∘ casing.letter = isBlank := funext (isBlank_letter casing)
  rw [next?, next?, recased]
  dsimp only
  rw [List.takeWhile_map, List.dropWhile_map, hblank, byteLength_map_letter]
  split
  · rfl
  · cases r.rest.dropWhile isBlank with
    | nil => rfl
    | cons c cs =>
      rw [List.map_cons]
      dsimp only
      rw [Lexeme.read_map_letter, Lexeme.recased, byteLength_map_letter, Casing.respell,
        List.append_nil]
      rfl

/-- The same tokens are read in another case. -/
theorem readings_recased (r : Reader) :
    (r.recased casing).readings = r.readings.map (Reading.recased casing) := by
  fun_induction readings r with
  | case1 r h =>
    have hnone := next?_recased casing r
    rw [h] at hnone
    rw [readings]
    split
    · rfl
    · next hsome => cases hnone.symm.trans hsome
  | case2 r t s h ih =>
    have hstep := next?_recased casing r
    rw [h] at hstep
    rw [readings]
    split
    · next hnone => cases hstep.symm.trans hnone
    · next hsome =>
      obtain ⟨rfl, rfl⟩ := Prod.mk.inj (Option.some.inj (hstep.symm.trans hsome))
      rw [List.map_cons, ih]

end Reader

/-! ## Tokens -/

/-- *Tokens are the same in any case.* -/
theorem readings_apply (source : String) :
    readings (casing.apply source) = (readings source).map (Reading.recased casing) := by
  rw [readings, readings, ← Reader.readings_recased, Reader.recased, Reader.ofSource,
    casing.toList_apply]
  rfl

theorem Token.readAll_apply (source : String) : readAll (casing.apply source) = readAll source := by
  rw [readAll, readings_apply, List.map_map, readAll]
  rfl

/-- The text of a token in a source in another case is its text in that case. -/
theorem Token.text_apply {source : String} {t : Token} (h : t ∈ readAll source) :
    t.text (casing.apply source) = casing.apply (t.text source) := by
  have tiling : Tiling source [] (readAll source) := (Reader.standsIn_ofSource source).tiling rfl
  obtain ⟨before, text, after, hsource, hspan⟩ := tiling.exists_append t h
  have hsource' : (casing.apply source).toList =
      before.map casing.letter ++ text.map casing.letter ++ after.map casing.letter := by
    rw [casing.toList_apply, hsource, List.map_append, List.map_append]
  have htext := Span.text_between hsource'
  rw [← List.map_append, byteLength_map_letter, byteLength_map_letter] at htext
  rw [Token.text, hspan, htext, Token.text, hspan, Span.text_between hsource, ofList_map_letter]

/-! ## Lines -/

theorem Lines.startsFrom_map_letter (offset : Nat) (cs : List Char) :
    startsFrom offset (cs.map casing.letter) = startsFrom offset cs := by
  induction cs generalizing offset with
  | nil => rfl
  | cons c cs ih =>
    have hline : casing.letter c = '\n' ↔ c = '\n' := casing.letter_eq_iff rfl
    simp only [List.map_cons, startsFrom, hline, utf8Size_letter, ih]

/-- The lines of a source in another case start at the same offsets. -/
theorem Lines.ofSource_apply (source : String) :
    ofSource (casing.apply source) = ofSource source := by
  rw [ofSource, casing.toList_apply, startsFrom_map_letter, ofSource]

end VhdlLayout
