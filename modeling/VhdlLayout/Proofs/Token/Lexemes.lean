import Mathlib
import VhdlLayout.Proofs.Token.Tiling

/-!
# The lexemes of a source

A source is read lexeme by lexeme. Its lexemes are a list that the text alone
determines (`Lexeme.all`); comments left out, they are what the source says
(`Lexeme.said`).

A token only knows the offsets between which it stands. Seen in its source it is a
lexeme again: it has a text, and some of the source lies behind it
(`Reading.lexeme`). What a reader reads, the end of the source left out, are the
lexemes of the source (`readings_lexeme`). So whatever is to be said of tokens and
of the source around them can be said of lexemes, each of which has been read off
the front of what the source holds from there on (`Token.exists_read`).
-/

namespace VhdlLayout

/-! ## What a source says -/

namespace Lexeme

/-- The lexemes of a text, where `previous` is the kind of the last token before it that is no
comment. -/
def all (previous : Option Kind) (cs : List Char) : List Lexeme :=
  match _h : cs.dropWhile isBlank with
  | [] => []
  | c :: rest =>
    read previous c rest ::
      all (Reader.previousAfter previous (read previous c rest).kind) (read previous c rest).rest
termination_by cs.length
decreasing_by
  have blanks := (List.dropWhile_suffix (l := cs) isBlank).length_le
  have shorter := read_rest_length previous c rest
  rw [_h] at blanks
  omega

/-- The lexemes of a text that are no comments. -/
def said (previous : Option Kind) (cs : List Char) : List Lexeme :=
  (all previous cs).filter fun l => l.kind != .comment

theorem all_of_dropWhile_eq_nil {cs : List Char} (previous : Option Kind)
    (h : cs.dropWhile isBlank = []) : all previous cs = [] := by
  rw [all]
  split
  · rfl
  · next h' => cases h.symm.trans h'

theorem all_of_dropWhile_eq_cons {cs rest : List Char} {c : Char} (previous : Option Kind)
    (h : cs.dropWhile isBlank = c :: rest) :
    all previous cs = read previous c rest ::
      all (Reader.previousAfter previous (read previous c rest).kind)
        (read previous c rest).rest := by
  rw [all]
  split
  · next h' => cases h.symm.trans h'
  · next h' =>
    obtain ⟨rfl, rfl⟩ := List.cons.inj (h.symm.trans h')
    rfl

/-- Behind the blanks stands no blank. -/
theorem isBlank_of_dropWhile_eq_cons {cs rest : List Char} {c : Char}
    (h : cs.dropWhile isBlank = c :: rest) : isBlank c = false := by
  have := List.head?_dropWhile_not isBlank cs
  rwa [h] at this

theorem said_of_dropWhile_eq_nil {cs : List Char} (previous : Option Kind)
    (h : cs.dropWhile isBlank = []) : said previous cs = [] := by
  rw [said, all_of_dropWhile_eq_nil previous h, List.filter_nil]

/-- A comment in front says nothing. -/
theorem said_of_comment {cs rest : List Char} {c : Char} {previous : Option Kind}
    (h : cs.dropWhile isBlank = c :: rest) (hkind : (read previous c rest).kind = .comment) :
    said previous cs = said previous (read previous c rest).rest := by
  rw [said, all_of_dropWhile_eq_cons previous h, List.filter_cons_of_neg (by simp [hkind]), hkind]
  rfl

theorem said_of_ne_comment {cs rest : List Char} {c : Char} {previous : Option Kind}
    (h : cs.dropWhile isBlank = c :: rest) (hkind : (read previous c rest).kind ≠ .comment) :
    said previous cs = read previous c rest ::
      said (some (read previous c rest).kind) (read previous c rest).rest := by
  rw [said, all_of_dropWhile_eq_cons previous h, List.filter_cons_of_pos (by simp [hkind]),
    Reader.previousAfter, if_neg hkind, said]

/-- Blanks in front are not seen. -/
theorem said_blank {c : Char} (hc : isBlank c = true) (previous : Option Kind) (cs : List Char) :
    said previous (c :: cs) = said previous cs := by
  rw [said, said, all, all, List.dropWhile_cons_of_pos hc]

end Lexeme

/-! ## Tokens in their source -/

/-- What the source holds from the start of the token on. -/
def Token.onward (t : Token) (source : String) : List Char :=
  (Span.text ⟨t.span.start, source.utf8ByteSize⟩ source).toList

/-- What the source holds behind the token. -/
def Token.beyond (t : Token) (source : String) : List Char :=
  (Span.text ⟨t.span.stop, source.utf8ByteSize⟩ source).toList

/-- The lexeme that has been read, as it stands in the source. -/
def Reading.lexeme (source : String) (r : Reading) : Lexeme where
  kind := r.token.kind
  text := (r.token.text source).toList
  rest := r.token.beyond source
  fault := r.fault

theorem Span.text_onward {source : String} {before after : List Char}
    (h : source.toList = before ++ after) :
    (Span.text ⟨byteLength before, source.utf8ByteSize⟩ source).toList = after := by
  have whole : source.toList = before ++ after ++ [] := by rw [h, List.append_nil]
  rw [utf8ByteSize_eq_byteLength, h, text_between whole, String.toList_ofList]

namespace Reader

variable {r s : Reader} {t : Reading} {source : String} {done : List Char}

/-- A step gives the end of the source, where nothing is left, or the lexeme that stands behind the
blanks. -/
theorem StandsIn.lexeme_of_next? (hr : r.StandsIn source done) (h : r.next? = some (t, s)) :
    (r.rest.dropWhile isBlank = [] ∧ t.token.kind = .eof ∧ t.fault = none ∧
        t.token.onward source = [] ∧ s.finished = true) ∨
      ∃ c cs, r.rest.dropWhile isBlank = c :: cs ∧ t.token.onward source = c :: cs ∧
        t.lexeme source = Lexeme.read r.previous c cs ∧
        s.rest = (Lexeme.read r.previous c cs).rest ∧
        s.previous = previousAfter r.previous (Lexeme.read r.previous c cs).kind ∧
        s.finished = false := by
  obtain ⟨_, start, hstart, hstep⟩ := next?_cases h
  rw [hr.offset_eq, ← byteLength_append] at hstart
  rcases hstep with ⟨hrest, rfl, rfl⟩ | ⟨c, cs, stop, hrest, hstop, rfl, rfl⟩
  · refine .inl ⟨hrest, rfl, rfl, ?_, rfl⟩
    rw [Token.onward, hstart]
    exact Span.text_onward (hrest ▸ hr.toList_eq_blanks)
  · refine .inr ⟨c, cs, hrest, ?_, ?_, rfl, rfl, rfl⟩
    · rw [Token.onward, hstart]
      exact Span.text_onward (hrest ▸ hr.toList_eq_blanks)
    · have hsource := hr.toList_eq_lexeme hrest
      rw [hstart, ← byteLength_append] at hstop
      rw [Reading.lexeme, Token.text, Token.beyond, hstop, hstart, Span.text_between hsource,
        String.toList_ofList, Span.text_onward hsource]

theorem readings_of_next? (h : r.next? = some (t, s)) : r.readings = t :: s.readings := by
  rw [readings]
  split
  · next hnone => cases h.symm.trans hnone
  · next hsome =>
    cases h.symm.trans hsome
    rfl

theorem readings_of_next?_eq_none (h : r.next? = none) : r.readings = [] := by
  rw [readings]
  split
  · rfl
  · next hsome => cases h.symm.trans hsome

/-- A finished reader reads nothing more. -/
theorem readings_of_finished (h : r.finished = true) : r.readings = [] :=
  readings_of_next?_eq_none (by rw [next?, h, if_pos rfl])

/-- What an unfinished reader is going to read, but for the end, are the lexemes of the rest of the
source. -/
theorem StandsIn.map_lexeme (hr : r.StandsIn source done) (hopen : r.finished = false) :
    (r.readings.filter fun t => t.token.kind != .eof).map (Reading.lexeme source) =
      Lexeme.all r.previous r.rest := by
  fun_induction readings r generalizing done with
  | case1 r h => exact absurd h (next?_ne_none hopen)
  | case2 r t s h ih =>
    obtain ⟨done', hs⟩ := hr.next h
    rcases hr.lexeme_of_next? h with ⟨hrest, hkind, -, -, hdone⟩ |
      ⟨c, cs, hrest, -, hlexeme, hnext, hprevious, hopen⟩
    · rw [Lexeme.all_of_dropWhile_eq_nil _ hrest, readings_of_finished hdone,
        List.filter_cons_of_neg (by simp [hkind]), List.filter_nil, List.map_nil]
    · have hend : t.token.kind ≠ .eof := fun heof =>
        Lexeme.kind_read_ne_eof _ _ _ ((congrArg Lexeme.kind hlexeme).symm.trans heof)
      rw [Lexeme.all_of_dropWhile_eq_cons _ hrest, List.filter_cons_of_pos (by simp [hend]),
        List.map_cons, hlexeme, ih hs hopen, hnext, hprevious]

end Reader

/-- What is read in a source, but for its end, are the lexemes of its text. -/
theorem readings_lexeme (source : String) :
    ((readings source).filter fun r => r.token.kind != .eof).map (Reading.lexeme source) =
      Lexeme.all none source.toList :=
  (Reader.standsIn_ofSource source).map_lexeme rfl

/-- What is read in a source and carries a meaning. -/
def relevantReadings (source : String) : List Reading :=
  (readings source).filter fun r => !r.token.kind.isTrivia

/-- What carries a meaning are the lexemes that are no comments. -/
theorem relevantReadings_said (source : String) :
    (relevantReadings source).map (Reading.lexeme source) = Lexeme.said none source.toList := by
  have hmeaning (r : Reading) : (!r.token.kind.isTrivia) =
      ((r.lexeme source).kind != .comment && r.token.kind != .eof) := by
    change (!r.token.kind.isTrivia) = (r.token.kind != .comment && r.token.kind != .eof)
    cases r.token.kind <;> rfl
  rw [Lexeme.said, ← readings_lexeme, List.filter_map, List.filter_filter]
  exact congrArg _ (List.filter_congr fun r _ => hmeaning r)

/-- A source that is one lexeme is read as one token, and its end. -/
theorem readings_of_lexeme {source : String} {c : Char} {cs : List Char} {l : Lexeme}
    (hsource : source.toList = c :: cs) (hc : isBlank c = false)
    (hread : Lexeme.read none c cs = l) (hrest : l.rest = []) :
    readings source = [⟨⟨l.kind, ⟨0, source.utf8ByteSize⟩⟩, l.fault⟩,
      ⟨⟨.eof, ⟨source.utf8ByteSize, source.utf8ByteSize⟩⟩, none⟩] := by
  have hlexeme : l.text = c :: cs := by
    rw [← Lexeme.read_append none c cs, hread, hrest, List.append_nil]
  have hsize : 0 + byteLength l.text = source.utf8ByteSize := by
    rw [hlexeme, ← hsource, ← utf8ByteSize_eq_byteLength, Nat.zero_add]
  have hfirst : (Reader.ofSource source).next? =
      some (⟨⟨l.kind, ⟨0, source.utf8ByteSize⟩⟩, l.fault⟩,
        ⟨[], source.utf8ByteSize, Reader.previousAfter none l.kind, false⟩) := by
    simp [Reader.next?, Reader.ofSource, hsource, hc, hread, hrest, byteLength, ← hsize]
  rw [readings, Reader.readings_of_next? hfirst, Reader.readings_of_next? rfl,
    Reader.readings_of_finished rfl]
  rfl

/-- A token is the end of its source, or a lexeme that has been read off the front of what the
source holds from there on. -/
theorem exists_read_of_mem_readings {source : String} {r : Reading} (h : r ∈ readings source) :
    (r.token.kind = .eof ∧ r.fault = none ∧ r.token.onward source = []) ∨
      ∃ previous c cs, r.token.onward source = c :: cs ∧
        r.lexeme source = Lexeme.read previous c cs := by
  refine Reader.StandsIn.forall_readings
    (p := fun r => (r.token.kind = .eof ∧ r.fault = none ∧ r.token.onward source = []) ∨
      ∃ previous c cs, r.token.onward source = c :: cs ∧
        r.lexeme source = Lexeme.read previous c cs)
    (fun hs h => ?_) (Reader.standsIn_ofSource source) r h
  rcases hs.lexeme_of_next? h with ⟨-, hkind, hfault, honward, -⟩ |
    ⟨c, cs, -, honward, hlexeme, -⟩
  · exact .inl ⟨hkind, hfault, honward⟩
  · exact .inr ⟨_, c, cs, honward, hlexeme⟩

/-- The same of a token alone. -/
theorem Token.exists_read {source : String} {t : Token} (h : t ∈ readAll source) :
    (t.kind = .eof ∧ t.onward source = []) ∨
      ∃ previous c cs, t.onward source = c :: cs ∧
        t.kind = (Lexeme.read previous c cs).kind ∧
        (t.text source).toList = (Lexeme.read previous c cs).text ∧
        t.beyond source = (Lexeme.read previous c cs).rest := by
  obtain ⟨r, hr, rfl⟩ := List.mem_map.1 h
  refine (exists_read_of_mem_readings hr).imp (fun ⟨hkind, _, honward⟩ => ⟨hkind, honward⟩)
    fun ⟨previous, c, cs, honward, hlexeme⟩ => ?_
  exact ⟨previous, c, cs, honward, congrArg Lexeme.kind hlexeme, congrArg Lexeme.text hlexeme,
    congrArg Lexeme.rest hlexeme⟩

end VhdlLayout
