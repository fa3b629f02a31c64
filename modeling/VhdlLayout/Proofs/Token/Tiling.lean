import Mathlib
import VhdlLayout.Proofs.Token.Kind
import VhdlLayout.Proofs.Token.Text

/-!
# How tokens tile a source

The tokens of a source and the blanks between them are the source: nothing is
read twice, nothing is left out, and whatever stands between two tokens is blank.
That is so for any text whatsoever, as malformed text is read as tokens, too.

A list of tokens *tiles* the rest of a source behind what has been read
(`Tiling`) if it is made of steps, each over blanks and over the text of a token
that is not empty, up to the end of the source. This is the invariant of reading;
what it says about offsets is told by induction over the steps:

* `Reader.StandsIn.tiling`: wherever a reader stands, what it is going to read
  tiles the rest of the source;
* `Tiling.pairwise`, `Tiling.isIn`: the spans are in order and lie between
  characters of the source;
* `Tiling.append_interleaved`: the gaps and the tokens, put together, are the source;
* `Token.readAll_tiles`: all this for the tokens of a source;
* `Token.offsets_of_size_lt`: so 32 bits hold every offset of a source that they can count.
-/

namespace VhdlLayout

/-! ## What stands between offsets -/

theorem isValid_byteLength {source : String} {before after : List Char}
    (h : source.toList = before ++ after) :
    String.Pos.Raw.isValid source ⟨byteLength before⟩ = true := by
  refine String.Pos.Raw.isValid_eq_true_iff.2 (String.Pos.Raw.isValid_iff_exists_append.2
    ⟨String.ofList before, String.ofList after, ?_, ?_⟩)
  · rw [← String.ofList_append, ← h, String.ofList_toList]
  · rw [String.rawEndPos, String.utf8ByteSize_ofList, utf8Len_eq_byteLength]

theorem utf8ByteSize_eq_byteLength (source : String) :
    source.utf8ByteSize = byteLength source.toList := by
  rw [← utf8Len_eq_byteLength, ← String.utf8ByteSize_ofList, String.ofList_toList]

/-- What stands between as many characters lies between offsets in the source. -/
theorem Span.isIn_of_append {source : String} {before text after : List Char}
    (h : source.toList = before ++ text ++ after) :
    Span.isIn ⟨byteLength before, byteLength (before ++ text)⟩ source = true := by
  have hstart : source.toList = before ++ (text ++ after) := by rw [h, List.append_assoc]
  rw [isIn, isValid_byteLength hstart, isValid_byteLength h, byteLength_append]
  simp

theorem Span.text_between {source : String} {before text after : List Char}
    (h : source.toList = before ++ text ++ after) :
    Span.text ⟨byteLength before, byteLength (before ++ text)⟩ source = String.ofList text := by
  rw [byteLength_append]
  exact Span.text_of_append h

theorem byteLength_lt_of_ne_nil (before : List Char) {text : List Char} (h : text ≠ []) :
    byteLength before < byteLength (before ++ text) := by
  cases text with
  | nil => exact absurd rfl h
  | cons c cs =>
    have := c.utf8Size_pos
    rw [byteLength_append, byteLength_cons]
    omega

theorem Span.stop_le_of_isIn {source : String} {s : Span} (h : s.isIn source = true) :
    s.stop ≤ source.utf8ByteSize := by
  rw [isIn, Bool.and_eq_true] at h
  exact (String.Pos.Raw.isValid_eq_true_iff.1 h.2).le_utf8ByteSize

theorem Span.start_le_stop_of_isIn {source : String} {s : Span} (h : s.isIn source = true) :
    s.start ≤ s.stop := by
  simp only [isIn, Bool.and_eq_true, decide_eq_true_eq] at h
  exact h.1.1

/-- The stretches before each of the tokens, from `offset` on. -/
def Token.gaps (offset : Nat) : List Token → List Span
  | [] => []
  | t :: ts => ⟨offset, t.span.start⟩ :: gaps t.span.stop ts

/-- The text of the tokens, and before each what stands between it and the one before it. -/
def Token.interleaved (source : String) (offset : Nat) : List Token → String
  | [] => ""
  | t :: ts =>
    Span.text ⟨offset, t.span.start⟩ source ++ t.text source ++ interleaved source t.span.stop ts

/-! ## Tilings -/

/-- Behind `done`, the rest of the source consists of the tokens and of blanks before each of them;
the last token is the end of the source, and no other is empty. -/
inductive Tiling (source : String) : (done : List Char) → List Token → Prop
  | stop {done gap : List Char} : source.toList = done ++ gap → (∀ c ∈ gap, isBlank c = true) →
      Tiling source done [⟨.eof, ⟨source.utf8ByteSize, source.utf8ByteSize⟩⟩]
  | token {done gap text after : List Char} {kind : Kind} {ts : List Token} :
      source.toList = done ++ gap ++ text ++ after → (∀ c ∈ gap, isBlank c = true) →
      text ≠ [] → kind ≠ .eof → Tiling source (done ++ gap ++ text) ts →
      Tiling source done
        (⟨kind, ⟨byteLength (done ++ gap), byteLength (done ++ gap ++ text)⟩⟩ :: ts)

namespace Tiling

variable {source : String} {done : List Char} {ts : List Token}

/-- The last token is the end of the source and the only one that is empty. -/
theorem exists_append_eof (h : Tiling source done ts) :
    ∃ tokens, ts = tokens ++ [⟨.eof, ⟨source.utf8ByteSize, source.utf8ByteSize⟩⟩] ∧
      ∀ t ∈ tokens, t.kind ≠ .eof ∧ t.span.start < t.span.stop := by
  induction h with
  | stop => exact ⟨[], rfl, fun t ht => absurd ht List.not_mem_nil⟩
  | token _ _ htext hkind _ ih =>
    obtain ⟨tokens, rfl, htokens⟩ := ih
    refine ⟨_ :: tokens, rfl, List.forall_mem_cons.2 ⟨⟨hkind, ?_⟩, htokens⟩⟩
    exact byteLength_lt_of_ne_nil _ htext

theorem isIn (h : Tiling source done ts) : ∀ t ∈ ts, t.span.isIn source = true := by
  induction h with
  | stop =>
    refine List.forall_mem_singleton.2 ?_
    have whole : source.toList = source.toList ++ [] ++ [] := by simp
    have := Span.isIn_of_append whole
    rwa [List.append_nil, ← utf8ByteSize_eq_byteLength] at this
  | token hsource _ _ _ _ ih =>
    exact List.forall_mem_cons.2 ⟨Span.isIn_of_append hsource, ih⟩

/-- Each token covers a stretch of the source. -/
theorem exists_append (h : Tiling source done ts) :
    ∀ t ∈ ts, ∃ before text after, source.toList = before ++ text ++ after ∧
      t.span = ⟨byteLength before, byteLength (before ++ text)⟩ := by
  induction h with
  | stop =>
    refine List.forall_mem_singleton.2 ⟨source.toList, [], [], by simp, ?_⟩
    rw [List.append_nil, ← utf8ByteSize_eq_byteLength]
  | token hsource _ _ _ _ ih => exact List.forall_mem_cons.2 ⟨⟨_, _, _, hsource, rfl⟩, ih⟩

/-- No token begins before what has been read ends. -/
theorem byteLength_le_start (h : Tiling source done ts) :
    ∀ t ∈ ts, byteLength done ≤ t.span.start := by
  induction h with
  | @stop done gap hsource =>
    rw [utf8ByteSize_eq_byteLength, hsource, byteLength_append]
    exact List.forall_mem_singleton.2 (Nat.le_add_right _ _)
  | token _ _ _ _ _ ih =>
    rw [byteLength_append, byteLength_append] at ih ⊢
    refine List.forall_mem_cons.2 ⟨Nat.le_add_right _ _, fun t ht => ?_⟩
    have := ih t ht
    omega

/-- Each token ends before the next one begins. -/
theorem pairwise (h : Tiling source done ts) :
    ts.Pairwise fun t u => t.span.stop ≤ u.span.start := by
  induction h with
  | stop => exact List.pairwise_singleton _ _
  | token _ _ _ _ h ih => exact List.pairwise_cons.2 ⟨h.byteLength_le_start, ih⟩

/-- All gaps are blank. -/
theorem gaps (h : Tiling source done ts) :
    ∀ g ∈ Token.gaps (byteLength done) ts,
      g.isIn source = true ∧ ∀ c ∈ (g.text source).toList, isBlank c = true := by
  induction h with
  | @stop done gap hsource hgap =>
    refine List.forall_mem_singleton.2 ?_
    have hsource' : source.toList = done ++ gap ++ [] := by rw [hsource, List.append_nil]
    rw [utf8ByteSize_eq_byteLength, hsource]
    refine ⟨Span.isIn_of_append hsource', ?_⟩
    rwa [Span.text_between hsource', String.toList_ofList]
  | @token done gap text after _ _ hsource hgap _ _ _ ih =>
    refine List.forall_mem_cons.2 ⟨?_, ih⟩
    have hsource' : source.toList = done ++ gap ++ (text ++ after) := by
      rw [hsource, List.append_assoc]
    refine ⟨Span.isIn_of_append hsource', ?_⟩
    rwa [Span.text_between hsource', String.toList_ofList]

/-- What has been read, the gaps and the tokens together are the source. -/
theorem append_interleaved (h : Tiling source done ts) :
    String.ofList done ++ Token.interleaved source (byteLength done) ts = source := by
  induction h with
  | @stop done gap hsource =>
    have whole : source.toList = source.toList ++ [] ++ [] := by simp
    have hsource' : source.toList = done ++ gap ++ [] := by rw [hsource, List.append_nil]
    have hgap := Span.text_between hsource'
    have hstop := Span.text_between whole
    rw [List.append_nil, ← utf8ByteSize_eq_byteLength] at hstop
    rw [← hsource, ← utf8ByteSize_eq_byteLength] at hgap
    rw [Token.interleaved, Token.interleaved, Token.text, hgap, hstop, String.ofList_nil,
      String.append_empty, String.append_empty, ← String.ofList_append, ← hsource,
      String.ofList_toList]
  | @token done gap text after _ _ hsource _ _ _ _ ih =>
    have hsource' : source.toList = done ++ gap ++ (text ++ after) := by
      rw [hsource, List.append_assoc]
    rw [Token.interleaved, Token.text, Span.text_between hsource', Span.text_between hsource]
    rw [String.ofList_append, String.ofList_append] at ih
    rw [← String.append_assoc, ← String.append_assoc]
    exact ih

end Tiling

/-! ## Reading -/

namespace Reader

theorem next?_ne_none {r : Reader} (hopen : r.finished = false) : r.next? ≠ none := by
  rw [next?, hopen, if_neg Bool.false_ne_true]
  dsimp only
  split <;> simp

/-- Wherever an unfinished reader stands, what it is going to read tiles the rest of the source. -/
theorem StandsIn.tiling {r : Reader} {source : String} {done : List Char}
    (hr : r.StandsIn source done) (hopen : r.finished = false) :
    Tiling source done (r.readings.map Reading.token) := by
  fun_induction readings r generalizing done with
  | case1 r h => exact absurd h (next?_ne_none hopen)
  | case2 r t s h ih =>
    have blank : ∀ c ∈ r.rest.takeWhile isBlank, isBlank c = true := fun c hc =>
      List.mem_takeWhile_imp hc
    obtain ⟨_, start, hstart, hstep⟩ := next?_cases h
    rw [hr.offset_eq, ← byteLength_append] at hstart
    rcases hstep with ⟨hrest, rfl, rfl⟩ | ⟨c, cs, stop, hrest, hstop, rfl, rfl⟩
    · -- The end of the source: nothing is read behind it.
      have hsource := hr.toList_eq_blanks
      rw [hrest, List.append_nil] at hsource
      rw [hstart, ← hsource, ← utf8ByteSize_eq_byteLength, List.map_cons, readings]
      exact .stop hsource blank
    · have hsource := hr.toList_eq_lexeme hrest
      rw [hstart, ← byteLength_append] at hstop
      have behind := ih ⟨hsource, hstop⟩ rfl
      rw [List.map_cons, hstart, hstop]
      exact .token hsource blank (Lexeme.read_text_ne_nil _ _ _) (Lexeme.kind_read_ne_eof _ _ _)
        (hstop ▸ behind)

theorem nexts_of_next?_eq_none {r : Reader} (h : r.next? = none) (count : Nat) :
    r.nexts count = List.replicate count none := by
  induction count with
  | zero => rfl
  | succ count ih => rw [nexts, h, List.replicate_succ, ← ih]

/-- Behind all readings there is nothing, however often one asks. -/
theorem nexts_length_add (r : Reader) (count : Nat) :
    r.nexts (r.readings.length + count) = r.readings.map some ++ List.replicate count none := by
  fun_induction readings r with
  | case1 r h =>
    rw [List.length_nil, Nat.zero_add]
    exact nexts_of_next?_eq_none h count
  | case2 r t s h ih =>
    rw [List.length_cons, Nat.add_right_comm, nexts, h]
    dsimp only
    rw [ih]
    rfl

end Reader

theorem Token.isIn_of_mem_readAll {source : String} {t : Token} (h : t ∈ readAll source) :
    t.span.isIn source = true :=
  ((Reader.standsIn_ofSource source).tiling rfl).isIn t h

theorem LexicalError.isIn_of_mem_lexicalErrors {source : String} {e : LexicalError}
    (h : e ∈ lexicalErrors source) : e.span.isIn source = true := by
  obtain ⟨r, hr, he⟩ := List.mem_filterMap.1 h
  obtain ⟨fault, _, rfl⟩ := Option.map_eq_some_iff.1 he
  exact Token.isIn_of_mem_readAll (List.mem_map_of_mem hr)

/-- *The tokens tile the source*, whatever it holds. They end in one token of kind `eof` at the end
of the source, there is no other and nothing comes behind it. All others have some text. The spans
are in order and do not overlap, they and those of the errors lie between characters of the source,
so each token has a text. Between the tokens there are only blanks; the gaps and the texts of the
tokens are the source. -/
theorem Token.readAll_tiles (source : String) :
    (∃ tokens, readAll source = tokens ++ [⟨.eof, ⟨source.utf8ByteSize, source.utf8ByteSize⟩⟩] ∧
      ∀ t ∈ tokens, t.kind ≠ .eof ∧ t.span.start < t.span.stop) ∧
    (∀ count, (Reader.ofSource source).nexts ((readings source).length + count) =
      (readings source).map some ++ List.replicate count none) ∧
    (readAll source).Pairwise (fun t u => t.span.stop ≤ u.span.start) ∧
    (∀ t ∈ readAll source, t.span.stop ≤ source.utf8ByteSize ∧ t.span.isIn source = true ∧
      t.span.text? source = some (t.text source)) ∧
    (∀ g ∈ gaps 0 (readAll source),
      g.isIn source = true ∧ ∀ c ∈ (g.text source).toList, isBlank c = true) ∧
    interleaved source 0 (readAll source) = source ∧
    ∀ e ∈ lexicalErrors source, e.span.isIn source = true := by
  have tiling : Tiling source [] (readAll source) :=
    (Reader.standsIn_ofSource source).tiling rfl
  refine ⟨tiling.exists_append_eof, Reader.nexts_length_add _, tiling.pairwise, fun t ht => ?_,
    tiling.gaps, ?_, fun e he => LexicalError.isIn_of_mem_lexicalErrors he⟩
  · have inside := tiling.isIn t ht
    refine ⟨Span.stop_le_of_isIn inside, inside, ?_⟩
    rw [Span.text?, if_pos inside, Token.text]
  · have whole := tiling.append_interleaved
    rwa [String.ofList_nil, String.empty_append] at whole

/-- Offsets in 32 bits are the offsets, for tokens and for errors, unless the source is too long for
32 bits to count its bytes. -/
theorem Token.offsets_of_size_lt {source : String} (h : source.utf8ByteSize < 2 ^ 32) :
    (∀ t ∈ readAll source, (UInt32.ofNat t.span.start).toNat = t.span.start ∧
      (UInt32.ofNat t.span.stop).toNat = t.span.stop) ∧
    ∀ e ∈ lexicalErrors source, (UInt32.ofNat e.span.start).toNat = e.span.start ∧
      (UInt32.ofNat e.span.stop).toNat = e.span.stop := by
  have fits (s : Span) (inside : s.isIn source = true) :
      (UInt32.ofNat s.start).toNat = s.start ∧ (UInt32.ofNat s.stop).toNat = s.stop := by
    have hstop : s.stop < UInt32.size := (Span.stop_le_of_isIn inside).trans_lt h
    have hstart := (Span.start_le_stop_of_isIn inside).trans_lt hstop
    exact ⟨UInt32.toNat_ofNat_of_lt' hstart, UInt32.toNat_ofNat_of_lt' hstop⟩
  exact ⟨fun t ht => fits t.span (isIn_of_mem_readAll ht),
    fun e he => fits e.span (LexicalError.isIn_of_mem_lexicalErrors he)⟩

end VhdlLayout
