import Mathlib.Data.String.Basic
import VhdlLayout.Token.Reader

/-!
# The texts of tokens

A token knows its text only by the offsets between which it stands. A reader
counts these offsets while it consumes the source, so that what is between them
is the very text that it took the token for:

* `Span.text_of_append`: cutting by offsets is cutting the list of characters;
* `Reader.next?_cases`: what a step of a reader gives;
* `Reader.StandsIn`: the offset of a reader is the length of what it has read,
  which every step keeps;
* `exists_read_of_mem_readAll`: every token of a source but the end is a
  lexeme, read behind some other token and before some rest of the source.
-/

namespace VhdlLayout

@[simp] theorem byteLength_cons (c : Char) (cs : List Char) :
    byteLength (c :: cs) = c.utf8Size + byteLength cs := rfl

@[simp] theorem byteLength_append (cs ds : List Char) :
    byteLength (cs ++ ds) = byteLength cs + byteLength ds := by
  induction cs with
  | nil => exact (Nat.zero_add _).symm
  | cons c cs ih => rw [List.cons_append, byteLength_cons, byteLength_cons, ih, Nat.add_assoc]

theorem utf8Len_eq_byteLength (cs : List Char) : String.utf8Len cs = byteLength cs := by
  induction cs with
  | nil => rfl
  | cons c cs ih => rw [String.utf8Len_cons, ih, byteLength_cons, Nat.add_comm]

/-- What stands between two offsets is what stands between as many characters. -/
theorem Span.text_of_append {source : String} {before text after : List Char}
    (h : source.toList = before ++ text ++ after) :
    Span.text ⟨byteLength before, byteLength before + byteLength text⟩ source =
      String.ofList text := by
  rw [Span.text, ← String.ofList_toList (s := source), h, ← utf8Len_eq_byteLength,
    ← utf8Len_eq_byteLength]
  exact String.extract_of_valid before text after

namespace Reader

/-- A step gives the end of the source if only blanks are left, and otherwise the lexeme behind the
blanks. -/
theorem next?_cases {r s : Reader} {t : Reading} (h : r.next? = some (t, s)) :
    r.finished = false ∧ ∃ start, start = r.offset + byteLength (r.rest.takeWhile isBlank) ∧
      ((r.rest.dropWhile isBlank = [] ∧ t = ⟨⟨.eof, ⟨start, start⟩⟩, none⟩ ∧
          s = ⟨[], start, r.previous, true⟩) ∨
        ∃ c cs stop, r.rest.dropWhile isBlank = c :: cs ∧
          stop = start + byteLength (Lexeme.read r.previous c cs).text ∧
          t = ⟨⟨(Lexeme.read r.previous c cs).kind, ⟨start, stop⟩⟩,
            (Lexeme.read r.previous c cs).fault⟩ ∧
          s = ⟨(Lexeme.read r.previous c cs).rest, stop,
            previousAfter r.previous (Lexeme.read r.previous c cs).kind, false⟩) := by
  rw [next?] at h
  split at h
  · cases h
  · next hr =>
    refine ⟨Bool.eq_false_iff.2 hr, _, rfl, ?_⟩
    dsimp only at h
    split at h
    · next hrest =>
      cases h
      exact .inl ⟨hrest, rfl, rfl⟩
    · next c cs hrest =>
      cases h
      exact .inr ⟨c, cs, _, hrest, rfl, rfl, rfl⟩

/-- The reader has read `done` and is about to read what else there is in the source. -/
structure StandsIn (r : Reader) (source : String) (done : List Char) : Prop where
  toList_eq : source.toList = done ++ r.rest
  offset_eq : r.offset = byteLength done

theorem standsIn_ofSource (source : String) : (ofSource source).StandsIn source [] where
  toList_eq := rfl
  offset_eq := rfl

/-- A reader is behind the blanks that follow when it has skipped them. -/
theorem StandsIn.toList_eq_blanks {r : Reader} {source : String} {done : List Char}
    (h : r.StandsIn source done) :
    source.toList = done ++ r.rest.takeWhile isBlank ++ r.rest.dropWhile isBlank := by
  rw [h.toList_eq, List.append_assoc, List.takeWhile_append_dropWhile]

/-- Behind the blanks stands the next lexeme. -/
theorem StandsIn.toList_eq_lexeme {r : Reader} {source : String} {done cs : List Char} {c : Char}
    (h : r.StandsIn source done) (hrest : r.rest.dropWhile isBlank = c :: cs) :
    source.toList = done ++ r.rest.takeWhile isBlank ++ (Lexeme.read r.previous c cs).text ++
      (Lexeme.read r.previous c cs).rest := by
  rw [List.append_assoc _ (Lexeme.read r.previous c cs).text, Lexeme.read_append, ← hrest,
    h.toList_eq_blanks]

/-- A step leaves the reader behind what it has read: the blanks, and the lexeme if there is one. -/
theorem StandsIn.next {r s : Reader} {t : Reading} {source : String} {done : List Char}
    (hr : r.StandsIn source done) (h : r.next? = some (t, s)) :
    ∃ done', s.StandsIn source done' := by
  obtain ⟨_, start, rfl, ⟨hrest, _, rfl⟩ | ⟨c, cs, stop, hrest, rfl, _, rfl⟩⟩ := next?_cases h
  · -- Only blanks are left: the reader is at the end of the source.
    refine ⟨done ++ r.rest.takeWhile isBlank, ?_, ?_⟩
    · rw [hr.toList_eq_blanks, hrest]
    · rw [byteLength_append, hr.offset_eq]
  · refine ⟨done ++ r.rest.takeWhile isBlank ++ (Lexeme.read r.previous c cs).text, ?_, ?_⟩
    · exact hr.toList_eq_lexeme hrest
    · rw [byteLength_append, byteLength_append, hr.offset_eq]

/-- The text of the token that a step gives is that of its lexeme. -/
theorem StandsIn.text_of_next? {r s : Reader} {t : Reading} {source : String} {done : List Char}
    (hr : r.StandsIn source done) (h : r.next? = some (t, s)) :
    t.token.kind = .eof ∨ ∃ c cs, t.token.kind = (Lexeme.read r.previous c cs).kind ∧
      t.token.text source = String.ofList (Lexeme.read r.previous c cs).text := by
  obtain ⟨_, start, rfl, ⟨_, rfl, _⟩ | ⟨c, cs, stop, hrest, rfl, rfl, _⟩⟩ := next?_cases h
  · exact .inl rfl
  · refine .inr ⟨c, cs, rfl, ?_⟩
    rw [Token.text, hr.offset_eq, ← byteLength_append]
    exact Span.text_of_append (hr.toList_eq_lexeme hrest)

/-- What holds of a reading that a step gives, wherever the reader stands in the source, holds of
all readings. -/
theorem StandsIn.forall_readings {source : String} {p : Reading → Prop}
    (step : ∀ {r s t done}, StandsIn r source done → r.next? = some (t, s) → p t)
    {r : Reader} {done : List Char} (hr : r.StandsIn source done) : ∀ t ∈ r.readings, p t := by
  fun_induction readings r generalizing done with
  | case1 => exact fun t ht => absurd ht List.not_mem_nil
  | case2 r t s h ih =>
    obtain ⟨done', hs⟩ := hr.next h
    intro t' ht'
    rcases List.mem_cons.1 ht' with rfl | ht'
    · exact step hr h
    · exact ih hs t' ht'

end Reader

/-- Every token of a source is its end or has been read as a lexeme. -/
theorem exists_read_of_mem_readAll {source : String} {t : Token} (h : t ∈ Token.readAll source) :
    t.kind = .eof ∨ ∃ previous c cs, t.kind = (Lexeme.read previous c cs).kind ∧
      t.text source = String.ofList (Lexeme.read previous c cs).text := by
  obtain ⟨r, hr, rfl⟩ := List.mem_map.1 h
  exact Reader.StandsIn.forall_readings
    (p := fun r => r.token.kind = .eof ∨ ∃ previous c cs,
      r.token.kind = (Lexeme.read previous c cs).kind ∧
        r.token.text source = String.ofList (Lexeme.read previous c cs).text)
    (fun hs h => (hs.text_of_next? h).imp_right fun hl => ⟨_, hl⟩)
    (Reader.standsIn_ofSource source) r hr

end VhdlLayout
