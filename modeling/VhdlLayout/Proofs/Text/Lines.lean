import Mathlib
import VhdlLayout.Text.Lines

/-!
# Lines and bytes

A place in a text is told by its line and by the byte within the line. What these are
can be read off the bytes of the text without a table: the line is counted by the line
feeds before the offset, and the line starts behind the last one of these
(`IsLineStart`). The table of the lines tells the same (`Lines.position_ofSource`), for
all offsets, be they within a character or past the end. The places of two offsets are
ordered as the offsets are (`Lines.strictMono_position`).

The search in the table halves it. What it finds is where the table splits into entries
that are at most the offset and entries that are greater (`SplitsAt`), since the table
is ascending.
-/

namespace VhdlLayout

/-! ## Counting in an ascending table -/

section Counting

variable {a : Array Nat} {x i j k y z lo hi : Nat}

/-- The first `k` entries of the table are at most `x`, and all others are greater. -/
structure SplitsAt (a : Array Nat) (x k : Nat) : Prop where
  le_size : k ≤ a.size
  le : ∀ i y, i < k → a[i]? = some y → y ≤ x
  lt : ∀ i y, k ≤ i → a[i]? = some y → x < y

theorem lt_of_ascending (ha : a.toList.Pairwise (· < ·)) (hij : i < j) (hy : a[i]? = some y)
    (hz : a[j]? = some z) : y < z := by
  obtain ⟨hi, rfl⟩ := Array.getElem?_eq_some_iff.1 hy
  obtain ⟨hj, rfl⟩ := Array.getElem?_eq_some_iff.1 hz
  exact List.pairwise_iff_getElem.1 ha i j hi hj hij

/-- Halving the part that is in doubt leads to where the table splits. -/
theorem splitsAt_countAtMostFrom (ha : a.toList.Pairwise (· < ·)) (hlohi : lo ≤ hi)
    (hsize : hi ≤ a.size) (hle : ∀ i y, i < lo → a[i]? = some y → y ≤ x)
    (hlt : ∀ i y, hi ≤ i → a[i]? = some y → x < y) : SplitsAt a x (countAtMostFrom a x lo hi) := by
  fun_induction countAtMostFrom a x lo hi with
  | case1 lo hi h mid y hy hyx ih =>
    -- The entry in the middle is at most `x`, and so are all before it.
    refine ih (by omega) hsize (fun i z hi hz => ?_) hlt
    rcases Nat.lt_succ_iff_lt_or_eq.1 hi with hi | rfl
    · exact (lt_of_ascending ha hi hz hy).le.trans hyx
    · cases hz.symm.trans hy
      exact hyx
  | case2 lo hi h mid y hy hyx ih =>
    refine ih (by omega) (by omega) hle fun i z hi hz => ?_
    rcases Nat.lt_or_eq_of_le hi with hi | rfl
    · exact (not_le.1 hyx).trans (lt_of_ascending ha hi hy hz)
    · cases hz.symm.trans hy
      exact not_le.1 hyx
  | case3 lo hi h mid hmid ih =>
    have := Array.getElem?_eq_none_iff.1 hmid
    omega
  | case4 lo hi h =>
    obtain rfl : lo = hi := by omega
    exact ⟨hsize, hle, hlt⟩

theorem splitsAt_countAtMost (ha : a.toList.Pairwise (· < ·)) (x : Nat) :
    SplitsAt a x (countAtMost a x) := by
  refine splitsAt_countAtMostFrom ha (Nat.zero_le _) le_rfl (by omega) fun i y hi hy => ?_
  obtain ⟨hi', -⟩ := Array.getElem?_eq_some_iff.1 hy
  omega

/-- Where the table splits, so many entries are at most `x`. -/
theorem SplitsAt.countP_eq (h : SplitsAt a x k) : a.toList.countP (· ≤ x) = k := by
  have before : (a.toList.take k).countP (· ≤ x) = (a.toList.take k).length := by
    refine List.countP_eq_length.2 fun y hy => ?_
    obtain ⟨i, hi, rfl⟩ := List.mem_take_iff_getElem.1 hy
    exact decide_eq_true (h.le i _ (by omega) (by simp))
  have behind : (a.toList.drop k).countP (· ≤ x) = 0 := by
    refine List.countP_eq_zero.2 fun y hy => ?_
    obtain ⟨i, hi, rfl⟩ := List.mem_drop_iff_getElem.1 hy
    simpa using h.lt (k + i) _ (by omega) (by simp)
  have := h.le_size
  rw [← List.take_append_drop k a.toList, List.countP_append, before, behind]
  simpa using this

end Counting

/-! ## Bytes -/

/-- The byte that ends a line. -/
abbrev lineFeed : UInt8 := 0x0A

/-- The bytes of a text in UTF-8. -/
def utf8 (source : String) : List UInt8 := source.toByteArray.data.toList

theorem utf8_eq_flatMap (source : String) :
    utf8 source = source.toList.flatMap String.utf8EncodeChar := by
  rw [utf8, ← String.utf8Encode_toList, List.utf8Encode]
  simp

/-- No other character has the byte of a line feed in it. -/
theorem lineFeed_not_mem_utf8EncodeChar {c : Char} (h : c ≠ '\n') :
    lineFeed ∉ String.utf8EncodeChar c := by
  have hval : c.val.toNat ≠ 10 := fun hc => h (Char.ext (UInt32.toNat_inj.1 hc))
  have other {n : Nat} (hn : n % 256 ≠ 10) : lineFeed ≠ UInt8.ofNat n := fun hb => by
    have hnat := congrArg UInt8.toNat hb
    rw [UInt8.toNat_ofNat'] at hnat
    exact hn hnat.symm
  -- The bytes of longer characters are all at least `0x80`.
  rw [String.utf8EncodeChar]
  split_ifs <;> simp only [List.mem_cons, List.not_mem_nil, or_false, not_or]
  · exact other (by omega)
  · exact ⟨other (by omega), other (by omega)⟩
  · exact ⟨other (by omega), other (by omega), other (by omega)⟩
  · exact ⟨other (by omega), other (by omega), other (by omega), other (by omega)⟩

/-- The offsets behind the line feeds among bytes that begin at `offset`. -/
def startsIn (offset : Nat) : List UInt8 → List Nat
  | [] => []
  | b :: bs =>
    if b = lineFeed then (offset + 1) :: startsIn (offset + 1) bs else startsIn (offset + 1) bs

theorem startsIn_append_of_not_mem {bs : List UInt8} (h : lineFeed ∉ bs) (offset : Nat)
    (rest : List UInt8) : startsIn offset (bs ++ rest) = startsIn (offset + bs.length) rest := by
  induction bs generalizing offset with
  | nil => rfl
  | cons b bs ih =>
    obtain ⟨hb, hbs⟩ := not_or.1 (mt List.mem_cons.2 h)
    rw [List.cons_append, startsIn, if_neg (Ne.symm hb), ih hbs, List.length_cons]
    congr 1
    omega

/-- The lines start behind the line feeds. -/
theorem Lines.startsFrom_eq_startsIn (offset : Nat) (cs : List Char) :
    startsFrom offset cs = startsIn offset (cs.flatMap String.utf8EncodeChar) := by
  induction cs generalizing offset with
  | nil => rfl
  | cons c cs ih =>
    rw [startsFrom, List.flatMap_cons]
    split
    · next hc =>
      subst hc
      rw [ih]
      rfl
    · next hc =>
      rw [startsIn_append_of_not_mem (lineFeed_not_mem_utf8EncodeChar hc),
        String.length_utf8EncodeChar, ih]

variable {bs : List UInt8} {offset start x : Nat}

theorem mem_startsIn_iff :
    start ∈ startsIn offset bs ↔ ∃ i, bs[i]? = some lineFeed ∧ start = offset + i + 1 := by
  induction bs generalizing offset with
  | nil => simp [startsIn]
  | cons b bs ih =>
    have behind : start ∈ startsIn (offset + 1) bs ↔
        ∃ i, (b :: bs)[i + 1]? = some lineFeed ∧ start = offset + (i + 1) + 1 := by
      rw [ih]
      refine exists_congr fun i => and_congr_right fun _ => ?_
      rw [Nat.add_assoc offset, Nat.add_comm 1]
    have here : start ∈ startsIn offset (b :: bs) ↔
        (b = lineFeed ∧ start = offset + 1) ∨ start ∈ startsIn (offset + 1) bs := by
      rw [startsIn]
      split_ifs with hb <;> simp [hb]
    rw [here, behind]
    constructor
    · rintro (⟨rfl, rfl⟩ | ⟨i, hi, rfl⟩)
      · exact ⟨0, rfl, rfl⟩
      · exact ⟨i + 1, hi, rfl⟩
    · rintro ⟨i, hi, rfl⟩
      cases i with
      | zero => exact .inl ⟨Option.some.inj hi, rfl⟩
      | succ i => exact .inr ⟨i, hi, rfl⟩

theorem pairwise_startsIn (offset : Nat) (bs : List UInt8) :
    (startsIn offset bs).Pairwise (· < ·) := by
  induction bs generalizing offset with
  | nil => exact .nil
  | cons b bs ih =>
    rw [startsIn]
    split
    · refine .cons (fun start hstart => ?_) (ih _)
      obtain ⟨i, -, rfl⟩ := mem_startsIn_iff.1 hstart
      omega
    · exact ih _

/-- As many lines start at or before `x` as there are line feeds before it. -/
theorem countP_startsIn (x offset : Nat) (bs : List UInt8) :
    (startsIn offset bs).countP (· ≤ x) = (bs.take (x - offset)).count lineFeed := by
  induction bs generalizing offset with
  | nil => simp [startsIn]
  | cons b bs ih =>
    rcases Nat.lt_or_ge offset x with hx | hx
    · obtain ⟨n, hn⟩ : ∃ n, x - offset = n + 1 := ⟨x - offset - 1, by omega⟩
      have hnext : x - (offset + 1) = n := by omega
      rw [startsIn, hn, List.take_succ_cons, List.count_cons, ← hnext, ← ih]
      split_ifs with hb hb' hb' <;> simp_all
    · rw [Nat.sub_eq_zero_of_le hx, List.take_zero, List.count_nil]
      refine List.countP_eq_zero.2 fun start hstart => ?_
      obtain ⟨i, -, rfl⟩ := mem_startsIn_iff.1 hstart
      rw [decide_eq_true_eq]
      omega

/-! ## Lines -/

/-- The line of the byte at `offset` starts at `start`: there the text starts or a line feed stands
before it, and no line feed stands between there and the offset. -/
structure IsLineStart (bytes : List UInt8) (offset start : Nat) : Prop where
  le : start ≤ offset
  starts : start = 0 ∨ bytes[start - 1]? = some lineFeed
  within : ∀ i, start ≤ i → i < offset → bytes[i]? ≠ some lineFeed

namespace Lines

theorem starts_ofSource (source : String) :
    (ofSource source).starts.toList = 0 :: startsIn 0 (utf8 source) := by
  rw [ofSource, startsFrom_eq_startsIn, utf8_eq_flatMap]

theorem pairwise_starts (source : String) : (ofSource source).starts.toList.Pairwise (· < ·) := by
  rw [starts_ofSource]
  refine .cons (fun start hstart => ?_) (pairwise_startsIn 0 _)
  obtain ⟨i, -, rfl⟩ := mem_startsIn_iff.1 hstart
  omega

/-- A line starts at the beginning and behind every line feed. -/
theorem mem_starts_iff {source : String} {start : Nat} :
    start ∈ (ofSource source).starts.toList ↔
      start = 0 ∨ ∃ i, (utf8 source)[i]? = some lineFeed ∧ start = i + 1 := by
  simp only [starts_ofSource, List.mem_cons, mem_startsIn_iff, Nat.zero_add]

/-- Where the table splits, the last entry before is where the line starts. -/
theorem isLineStart_of_splitsAt {source : String} {offset index start : Nat}
    (h : SplitsAt (ofSource source).starts offset (index + 1))
    (hstart : (ofSource source).starts[index]? = some start) :
    IsLineStart (utf8 source) offset start where
  le := h.le index start (Nat.lt_succ_self _) hstart
  starts := by
    have hmem : start ∈ (ofSource source).starts.toList :=
      Array.mem_toList_iff.2 (Array.mem_of_getElem? hstart)
    rcases mem_starts_iff.1 hmem with rfl | ⟨i, hi, rfl⟩
    · exact .inl rfl
    · exact .inr hi
  within i hle hlt hi := by
    -- A line that starts behind this line feed has a place in the table, between the two parts.
    have hmem : i + 1 ∈ (ofSource source).starts.toList := mem_starts_iff.2 (.inr ⟨i, hi, rfl⟩)
    obtain ⟨m, hm⟩ := List.mem_iff_getElem?.1 hmem
    rw [Array.getElem?_toList] at hm
    rcases Nat.lt_or_ge m (index + 1) with hmk | hmk
    · rcases Nat.lt_succ_iff_lt_or_eq.1 hmk with hlt' | rfl
      · have := lt_of_ascending (pairwise_starts source) hlt' hm hstart
        omega
      · cases hstart.symm.trans hm
        omega
    · have := h.lt m _ hmk hm
      omega

/-- As many lines have started up to an offset as there are line feeds before it, and the first
one. -/
theorem countAtMost_starts (source : String) (offset : Nat) :
    countAtMost (ofSource source).starts offset =
      ((utf8 source).take offset).count lineFeed + 1 := by
  rw [← (splitsAt_countAtMost (pairwise_starts source) offset).countP_eq, starts_ofSource,
    List.countP_cons, countP_startsIn]
  simp

/-- The line feeds before an offset tell which entry of the table is the start of its line. -/
theorem exists_start (source : String) (offset : Nat) :
    ∃ start, (ofSource source).starts[((utf8 source).take offset).count lineFeed]? = some start ∧
      IsLineStart (utf8 source) offset start ∧
      (ofSource source).position offset =
        ⟨1 + ((utf8 source).take offset).count lineFeed, 1 + (offset - start)⟩ := by
  have hcount := countAtMost_starts source offset
  have hsplit := splitsAt_countAtMost (pairwise_starts source) offset
  rw [hcount] at hsplit
  obtain ⟨start, hstart⟩ : ∃ start,
      (ofSource source).starts[((utf8 source).take offset).count lineFeed]? = some start :=
    ⟨_, Array.getElem?_eq_getElem hsplit.le_size⟩
  refine ⟨start, hstart, isLineStart_of_splitsAt hsplit hstart, ?_⟩
  rw [position, hcount, Nat.add_sub_cancel, Array.getD_eq_getD_getElem?, hstart, Option.getD_some,
    Nat.add_comm 1, Nat.add_comm 1]

/-- *Lines are counted by their line feeds.* The line of an offset is known by the line feeds before
it, and the column by the bytes between the start of the line and the offset. -/
theorem position_ofSource (source : String) (offset : Nat) :
    ∃ start, IsLineStart (utf8 source) offset start ∧
      (ofSource source).position offset =
        ⟨1 + ((utf8 source).take offset).count lineFeed, 1 + (offset - start)⟩ := by
  obtain ⟨start, -, hstart⟩ := exists_start source offset
  exact ⟨start, hstart⟩

/-! ## Places in order -/

theorem le_length_of_mem_starts {source : String} {start : Nat}
    (h : start ∈ (ofSource source).starts.toList) : start ≤ (utf8 source).length := by
  rcases mem_starts_iff.1 h with rfl | ⟨i, hi, rfl⟩
  · exact Nat.zero_le _
  · exact (List.getElem?_eq_some_iff.1 hi).1

/-- No line starts between the start of a line and an offset in it. -/
theorem le_of_isLineStart {source : String} {offset start other : Nat}
    (h : IsLineStart (utf8 source) offset start) (hother : other ∈ (ofSource source).starts.toList)
    (hle : other ≤ offset) : other ≤ start := by
  rcases mem_starts_iff.1 hother with rfl | ⟨i, hi, rfl⟩
  · exact Nat.zero_le _
  · by_contra hlt
    exact h.within i (by omega) (by omega) hi

/-- Further on in a text there are as many line feeds before, or more. -/
theorem count_take_le {bytes : List UInt8} {i j : Nat} (h : i ≤ j) :
    (bytes.take i).count lineFeed ≤ (bytes.take j).count lineFeed :=
  (List.take_sublist_take_left h).count_le _

/-- A place further on is on a later line, or on the same line in a later column. -/
theorem strictMono_position (source : String) : StrictMono fun offset => toLex
    (((ofSource source).position offset).line, ((ofSource source).position offset).column) := by
  intro i j hij
  obtain ⟨start, hstart, hline, hi⟩ := exists_start source i
  obtain ⟨start', hstart', -, hj⟩ := exists_start source j
  rw [Prod.Lex.toLex_lt_toLex, hi, hj]
  rcases Nat.lt_or_eq_of_le (count_take_le hij.le) with hless | hsame
  · exact .inl (Nat.add_lt_add_left hless 1)
  · -- On one line, both columns are counted from the same start.
    rw [hsame, hstart', Option.some.injEq] at hstart
    subst hstart
    refine .inr ⟨congrArg (1 + ·) hsame, ?_⟩
    have := hline.le
    dsimp only
    omega

/-- *Looking up a line is counting.* The table of lines begins with zero and ascends, so the search
finds an entry for every offset, and never one behind it. This entry is the start of the line, the
last one of all for offsets past the end, and the place is told by the line feeds before the offset
and the bytes from that start on. No number exceeds those of the bytes or the offset by more than
one. Places are ordered as offsets are, by lines first, and no two of them are the same. -/
theorem position_exact (source : String) :
    (ofSource source).starts[0]? = some 0 ∧
    (ofSource source).starts.toList.Pairwise (· < ·) ∧
    (∀ start ∈ (ofSource source).starts.toList, start ≤ (utf8 source).length) ∧
    (∀ offset, ∃ start,
      (ofSource source).starts[countAtMost (ofSource source).starts offset - 1]? = some start ∧
      IsLineStart (utf8 source) offset start ∧
      ((utf8 source).length ≤ offset →
        ∀ other ∈ (ofSource source).starts.toList, other ≤ start) ∧
      (ofSource source).position offset =
        ⟨1 + ((utf8 source).take offset).count lineFeed, 1 + (offset - start)⟩ ∧
      ((ofSource source).position offset).line ≤ (utf8 source).length + 1 ∧
      ((ofSource source).position offset).column ≤ offset + 1) ∧
    StrictMono fun offset => toLex
      (((ofSource source).position offset).line, ((ofSource source).position offset).column) := by
  refine ⟨?_, pairwise_starts source, fun start => le_length_of_mem_starts, fun offset => ?_,
    strictMono_position source⟩
  · rw [← Array.getElem?_toList, starts_ofSource, List.getElem?_cons_zero]
  · obtain ⟨start, hstart, hline, hposition⟩ := exists_start source offset
    refine ⟨start, ?_, hline, fun hpast other hother => ?_, hposition, ?_, ?_⟩
    · rwa [countAtMost_starts, Nat.add_sub_cancel]
    · exact le_of_isLineStart hline hother ((le_length_of_mem_starts hother).trans hpast)
    · have := (List.count_le_length (a := lineFeed)).trans
        (List.length_take_le' offset (utf8 source))
      rw [hposition]
      dsimp only
      omega
    · rw [hposition]
      dsimp only
      omega

end Lines

end VhdlLayout
