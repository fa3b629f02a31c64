import Mathlib.Data.List.Basic
import Mathlib.Tactic.IntervalCases
import VhdlLayout.Toml.Value

/-!
# Reading plain values

What a plain value is read from up to the end of its line (`Scalar.IsReadFrom`):
a text from its characters between double quotes, a whole number from its decimal
digits and a truth value from its name. The alternatives of `Rule.scalar` are
tried in order, so of those that come first it is said where they do not apply. A
date or a time is told from a number by the mark behind its first digits.
-/

namespace VhdlLayout.Toml

/-- The characters that stand for themselves between double quotes. -/
def isPlain (c : Char) : Bool := isTextual c && c != '"' && c != '\\'

theorem isBlank_of_isNameChar {c : Char} (h : isNameChar c) : isBlank c = false := by
  have hspace : c ≠ ' ' := by
    rintro rfl
    exact absurd h (by decide)
  have htab : c ≠ '\t' := by
    rintro rfl
    exact absurd h (by decide)
  simp [isBlank, hspace, htab]

namespace Rule

section Quoted

theorem run_block_eq_none {mark : Char} (content : Rule (List Char)) {cs : List Char}
    (h : ¬ [mark, mark, mark] <+: cs) : (block mark content).run cs = none := by
  simp [block, run_exactly, h]

theorem run_line_eq_none {mark c : Char} (content : Rule Char) (h : c ≠ mark) (cs : List Char) :
    (line mark content).run (c :: cs) = none := by
  simp [line, h]

theorem run_quotedLine_eq_none {c : Char} (h : c ≠ '"') (h' : c ≠ '\'') (cs : List Char) :
    quotedLine.run (c :: cs) = none := by
  simp [quotedLine, run_line_eq_none, h, h']

theorem run_quoted_eq_none {c : Char} (h : c ≠ '"') (h' : c ≠ '\'') (cs : List Char) :
    quoted.run (c :: cs) = none := by
  simp [quoted, quotedBlock, run_block_eq_none, run_quotedLine_eq_none, h, h', h.symm, h'.symm]

theorem run_basicChar_of_isPlain {c : Char} (h : isPlain c) (cs : List Char) :
    basicChar.run (c :: cs) = some (c, cs) := by
  simp only [isPlain] at h
  simp [basicChar, h]

theorem run_basicChar_quote (cs : List Char) : basicChar.run ('"' :: cs) = none := by
  simp [basicChar]

/-- Text between double quotes is not taken for the start of a text over several lines, unless a
third quote follows. -/
theorem run_quotedBlock_eq_none {cs : List Char} (h : ∀ c ∈ cs, isPlain c) {d : Char}
    (hd : d ≠ '"') (rest : List Char) :
    quotedBlock.run ('"' :: (cs ++ '"' :: d :: rest)) = none := by
  have hmarks : ¬ ['"', '"', '"'] <+: '"' :: (cs ++ '"' :: d :: rest) := by
    cases cs with
    | nil => simp [hd.symm]
    | cons c cs =>
      have hc : c ≠ '"' := by
        rintro rfl
        simpa [isPlain] using h _ List.mem_cons_self
      simp [hc.symm]
  simp [quotedBlock, run_block_eq_none, hmarks]

theorem run_quoted_of_isPlain {cs : List Char} (h : ∀ c ∈ cs, isPlain c) {d : Char} (hd : d ≠ '"')
    (rest : List Char) :
    quoted.run ('"' :: (cs ++ '"' :: d :: rest)) = some (String.ofList cs, d :: rest) := by
  have hinner := manyFrom_append (fun c hc => run_basicChar_of_isPlain (h c hc))
    (run_basicChar_quote (d :: rest))
  simp [quoted, run_quotedBlock_eq_none h hd, quotedLine, line, hinner]

end Quoted

section Moment

theorem dropWhile_of_run_fixedDigits {count k : Nat} {cs rest : List Char}
    (h : (fixedDigits count).run cs = some (k, rest)) :
    rest.dropWhile Char.isDigit = cs.dropWhile Char.isDigit := by
  simp only [fixedDigits, StateT.run] at h
  split at h
  · next hds =>
    obtain ⟨-, rfl⟩ := Prod.mk.inj (Option.some.inj h)
    conv_rhs => rw [← List.take_append_drop count cs]
    rw [List.dropWhile_append_of_pos]
    simpa using hds.2
  · simp at h

/-- After any number of digits there is no mark if there is none after all of them. -/
theorem run_char_eq_none_of_run_fixedDigits {count k : Nat} {cs rest : List Char} {mark : Char}
    (h : (fixedDigits count).run cs = some (k, rest)) (hmark : mark.isDigit = false)
    (hcs : (cs.dropWhile Char.isDigit).head? ≠ some mark) : (char mark).run rest = none := by
  rw [← dropWhile_of_run_fixedDigits h] at hcs
  cases rest with
  | nil => rfl
  | cons c rest =>
    rw [run_char_cons, if_neg]
    rintro rfl
    simp [hmark] at hcs

theorem run_date_eq_none {cs : List Char} (h : (cs.dropWhile Char.isDigit).head? ≠ some '-') :
    date.run cs = none := by
  cases hyear : (fixedDigits 4).run cs with
  | none => simp [date, hyear]
  | some taken => simp [date, hyear, run_char_eq_none_of_run_fixedDigits hyear rfl h]

theorem run_time_eq_none {cs : List Char} (h : (cs.dropWhile Char.isDigit).head? ≠ some ':') :
    time.run cs = none := by
  cases hhour : (twoDigits 0 23).run cs with
  | none => simp [time, hhour]
  | some taken =>
    have htaken : (fixedDigits 2).run cs = some taken := by
      rw [twoDigits, run_guarded] at hhour
      exact Option.eq_some_of_filter_eq_some hhour
    simp [time, hhour, run_char_eq_none_of_run_fixedDigits htaken rfl h]

theorem run_moment_eq_none {cs : List Char} (hdate : (cs.dropWhile Char.isDigit).head? ≠ some '-')
    (htime : (cs.dropWhile Char.isDigit).head? ≠ some ':') : moment.run cs = none := by
  simp [moment, run_date_eq_none hdate, run_time_eq_none htime]

end Moment

section Number

/-- Decimal digits have no zeros in front. -/
theorem head?_toDigits_ne_zero {n : Nat} (h : n ≠ 0) : (Nat.toDigits 10 n).head? ≠ some '0' := by
  induction n using Nat.strong_induction_on with
  | _ n ih =>
    by_cases hlt : n < 10
    · rw [Nat.toDigits_of_lt_base hlt]
      interval_cases n <;> simp at h ⊢
    · rw [Nat.toDigits_of_base_le (by decide) (by omega),
        List.head?_append_of_ne_nil _ Nat.toDigits_ne_nil]
      exact ih (n / 10) (by omega) (by omega)

/-- Decimal digits are a digit and further digits, which do not follow a zero. -/
theorem exists_toDigits_eq_cons (n : Nat) :
    ∃ c cs, Nat.toDigits 10 n = c :: cs ∧ (∀ d ∈ c :: cs, d.isDigit) ∧ (c = '0' → cs = []) := by
  cases hds : Nat.toDigits 10 n with
  | nil => exact absurd hds Nat.toDigits_ne_nil
  | cons c cs =>
    refine ⟨c, cs, rfl, fun d hd => ?_, ?_⟩
    · exact Nat.isDigit_of_mem_toDigits (by decide) (by decide) (hds ▸ hd)
    · rintro rfl
      by_cases hn : n = 0
      · simpa [hn] using hds.symm
      · exact absurd (by simp [hds]) (head?_toDigits_ne_zero hn)

theorem ne_of_isDigit {c d : Char} (hc : c.isDigit) (hd : d.isDigit = false) : c ≠ d := by
  rintro rfl
  simp [hd] at hc

theorem run_sign_cons {c : Char} (h : c ≠ '-') (h' : c ≠ '+') (cs : List Char) :
    sign.run (c :: cs) = some (false, c :: cs) := by
  simp [sign, h, h']

theorem run_based_eq_none {mark : Char} (base : Nat) {cs : List Char} (h : ¬ ['0', mark] <+: cs) :
    (based mark base).run cs = none := by
  rcases cs with _ | ⟨c, _ | ⟨d, cs⟩⟩
  · simp [based]
  · by_cases hc : c = '0' <;> simp [based, hc]
  · by_cases hc : c = '0'
    · have hd : d ≠ mark := by
        rintro rfl
        simp [hc] at h
      simp [based, hc, hd]
    · simp [based, hc]

theorem run_spelled_eq_none {c : Char} (hsign : c ≠ '-' ∧ c ≠ '+') (h : c ≠ 'i' ∧ c ≠ 'n')
    (cs : List Char) : spelled.run (c :: cs) = none := by
  simp [spelled, run_sign_cons hsign.1 hsign.2, run_exactly, h.1.symm, h.2.symm]

theorem run_digits {c : Char} {cs : List Char} (hds : ∀ d ∈ c :: cs, d.isDigit) {e : Char}
    (he : e.isDigit = false) (he' : e ≠ '_') (rest : List Char) :
    (digits Char.isDigit).run (c :: (cs ++ e :: rest)) = some (c :: cs, e :: rest) := by
  have hothers : manyFrom (optional (char '_') *> satisfying Char.isDigit) (cs ++ e :: rest) =
      (cs, e :: rest) := by
    refine manyFrom_append (fun d hd tail => ?_) (by simp [he, he'])
    have hdigit := hds d (List.mem_cons_of_mem c hd)
    have hd' : d ≠ '_' := ne_of_isDigit hdigit rfl
    simp [hd', hdigit]
  simp [digits, hds c List.mem_cons_self, hothers]

theorem run_wholeDigits (n : Nat) {e : Char} (he : e.isDigit = false) (he' : e ≠ '_')
    (rest : List Char) :
    wholeDigits.run (Nat.toDigits 10 n ++ e :: rest) = some (Nat.toDigits 10 n, e :: rest) := by
  obtain ⟨c, cs, hn, hds, hzero⟩ := exists_toDigits_eq_cons n
  rw [hn]
  by_cases hc : c = '0'
  · simp [wholeDigits, hc, hzero hc]
  · simp [wholeDigits, hc, run_digits hds he he']

theorem integer?_natCast (n : Nat) :
    integer? n = if n < 2 ^ 63 then some (.integer n) else none := by
  have hmin : Int64.minValue.toInt = -2 ^ 63 := by decide
  have hmax : Int64.maxValue.toInt = 2 ^ 63 - 1 := by decide
  have hrange : (Int64.minValue.toInt ≤ n ∧ n ≤ Int64.maxValue.toInt) ↔ n < 2 ^ 63 := by omega
  simp only [integer?, hrange]

theorem run_decimal_toDigits {n : Nat} (h : n < 2 ^ 63) (rest : List Char) :
    decimal.run (Nat.toDigits 10 n ++ '\n' :: rest) = some (.integer n, '\n' :: rest) := by
  obtain ⟨c, cs, hn, hds, -⟩ := exists_toDigits_eq_cons n
  have hc : c.isDigit := hds c List.mem_cons_self
  have hsign : sign.run (Nat.toDigits 10 n ++ '\n' :: rest) =
      some (false, Nat.toDigits 10 n ++ '\n' :: rest) := by
    rw [hn]
    exact run_sign_cons (ne_of_isDigit hc rfl) (ne_of_isDigit hc rfl) _
  simp [decimal, hsign, run_wholeDigits, fraction, exponent, signed,
    (integer?_natCast n).trans (if_pos h)]

theorem run_number_toDigits {n : Nat} (h : n < 2 ^ 63) (rest : List Char) :
    number.run (Nat.toDigits 10 n ++ '\n' :: rest) = some (.integer n, '\n' :: rest) := by
  obtain ⟨c, cs, hn, hds, hzero⟩ := exists_toDigits_eq_cons n
  have hc : c.isDigit := hds c List.mem_cons_self
  -- A base is announced by a letter behind a zero, and behind the digit zero the line ends.
  have hbased : ∀ mark : Char, mark ≠ '\n' → ¬ ['0', mark] <+: c :: (cs ++ '\n' :: rest) := by
    intro mark hmark hpre
    obtain ⟨rfl, hpre⟩ := List.cons_prefix_cons.1 hpre
    simp [hzero rfl, hmark] at hpre
  have hspelled : spelled.run (c :: (cs ++ '\n' :: rest)) = none :=
    run_spelled_eq_none ⟨ne_of_isDigit hc rfl, ne_of_isDigit hc rfl⟩
      ⟨ne_of_isDigit hc rfl, ne_of_isDigit hc rfl⟩ _
  have hdecimal := run_decimal_toDigits h rest
  rw [hn, List.cons_append] at hdecimal ⊢
  simp [number, run_based_eq_none, hbased, hspelled, hdecimal]

end Number

theorem run_scalar_quote {cs : List Char} (h : ∀ c ∈ cs, isPlain c) (rest : List Char) :
    scalar.run ('"' :: (cs ++ '"' :: '\n' :: rest)) =
      some (.string (String.ofList cs), '\n' :: rest) := by
  simp [scalar, run_quoted_of_isPlain h]

theorem run_scalar_toDigits {n : Nat} (h : n < 2 ^ 63) (rest : List Char) :
    scalar.run (Nat.toDigits 10 n ++ '\n' :: rest) = some (.integer n, '\n' :: rest) := by
  have hquoted : quoted.run (Nat.toDigits 10 n ++ '\n' :: rest) = none := by
    obtain ⟨c, cs, hn, hds, -⟩ := exists_toDigits_eq_cons n
    have hc : c.isDigit := hds c List.mem_cons_self
    rw [hn]
    exact run_quoted_eq_none (ne_of_isDigit hc rfl) (ne_of_isDigit hc rfl) _
  have hmark : (Nat.toDigits 10 n ++ '\n' :: rest).dropWhile Char.isDigit = '\n' :: rest := by
    rw [List.dropWhile_append_of_pos fun d hd =>
      Nat.isDigit_of_mem_toDigits (by decide) (by decide) hd]
    rfl
  have hmoment : moment.run (Nat.toDigits 10 n ++ '\n' :: rest) = none :=
    run_moment_eq_none (by simp [hmark]) (by simp [hmark])
  simp [scalar, hquoted, hmoment, run_number_toDigits h]

end Rule

namespace Scalar

/-- The text is read as the value, up to the end of its line and whatever stands below. -/
structure IsReadFrom (x : Scalar) (text : String) : Prop where
  /-- The text begins neither as a blank nor as a value with parts. -/
  begins : ∃ c cs, text.toList = c :: cs ∧ isBlank c = false ∧ c ≠ '[' ∧ c ≠ '\x7b'
  reads (rest : List Char) :
    Rule.scalar.run (text.toList ++ '\n' :: rest) = some (x, '\n' :: rest)

theorem string_isReadFrom {text : String} (h : ∀ c ∈ text.toList, isPlain c) :
    (string text).IsReadFrom ("\"" ++ text ++ "\"") where
  begins := ⟨'"', text.toList ++ ['"'], by simp, by decide, by decide, by decide⟩
  reads rest := by simpa using Rule.run_scalar_quote h rest

theorem integer_isReadFrom {n : Nat} (h : n < 2 ^ 63) :
    (integer n).IsReadFrom (toString n) where
  begins := by
    obtain ⟨c, cs, hn, hds, -⟩ := Rule.exists_toDigits_eq_cons n
    have hc : c.isDigit := hds c List.mem_cons_self
    have hblank : isBlank c = false :=
      isBlank_of_isNameChar (by simp [isNameChar, Char.isAlphanum, hc])
    exact ⟨c, cs, by simpa using hn, hblank, Rule.ne_of_isDigit hc rfl, Rule.ne_of_isDigit hc rfl⟩
  reads rest := by simpa using Rule.run_scalar_toDigits h rest

theorem boolean_isReadFrom (b : Bool) : (boolean b).IsReadFrom (toString b) where
  begins := by cases b with
    | true => exact ⟨'t', "rue".toList, rfl, by decide, by decide, by decide⟩
    | false => exact ⟨'f', "alse".toList, rfl, by decide, by decide, by decide⟩
  reads rest := by cases b <;> rfl

/-- The usual way in which TOML writes a plain value. -/
inductive IsSpelled : Scalar → String → Prop
  | integer {n : Nat} (h : n < 2 ^ 63) : IsSpelled (integer n) (toString n)
  | string {text : String} (h : ∀ c ∈ text.toList, isPlain c) :
    IsSpelled (string text) ("\"" ++ text ++ "\"")
  | boolean (b : Bool) : IsSpelled (boolean b) (toString b)

theorem IsSpelled.isReadFrom {x : Scalar} {text : String} (h : x.IsSpelled text) :
    x.IsReadFrom text := by
  cases h with
  | integer h => exact integer_isReadFrom h
  | string h => exact string_isReadFrom h
  | boolean b => exact boolean_isReadFrom b

end Scalar

end VhdlLayout.Toml
