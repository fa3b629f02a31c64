import Mathlib
import VhdlLayout.Proofs.Token.Quotation

/-!
# Numbers

What begins with a digit is read as the longest number in front
(`number_exact`), by the grammar of numbers (`Grammar.numbers`):

* a decimal literal has digits, and perhaps a fraction and an exponent;
* a based literal has digits, and between two number signs more of them in its base;
* a bit string has digits, a base and a text in quotation.

Each of them has the same digits in front, so that only what stands behind these is
looked at, and of what may stand there no two kinds begin alike (`Grammar.numbers_eq`).

Two beginnings are bound to go on, and are malformed if they do not: the digits and
the number sign of a based literal (`IsUnclosedBased`), and the digits, the base and
the quotation mark of a bit string (`IsUnclosedBitString`).
-/

namespace VhdlLayout

/-! ## The grammar -/

namespace Grammar

/-- A digit, and any digits and underlines behind it. -/
def digits : Language Char := {cs | IsDigits cs}

/-- Any hexadecimal digits and underlines. -/
def hexDigits : Language Char := runs isHexPart

/-- An `e` and digits, with a sign or without. -/
def exponents : Language Char := oneOf ['e', 'E'] * ((1 + oneOf ['+', '-']) * digits)

/-- Digits, and perhaps a fraction and an exponent. -/
def decimals : Language Char := digits * (1 + oneOf ['.'] * digits) * (1 + exponents)

/-- The digits of a based literal, and perhaps its fraction. -/
def mantissas : Language Char := hexDigits * (1 + oneOf ['.'] * hexDigits)

/-- A base, and between number signs its digits, and perhaps an exponent. -/
def basedLiterals : Language Char :=
  digits * oneOf ['#'] * mantissas * oneOf ['#'] * (1 + exponents)

/-- The bases of bit strings. -/
def bases : Language Char := {cs | isBaseSpecifier cs = true}

/-- Texts of one line in quotation. -/
def quotedTexts : Language Char :=
  {cs | ∃ s, '\n' ∉ s ∧ cs = '"' :: (doubled '"' s ++ ['"'])}

/-- A length, a base and a text in quotation. -/
def bitStrings : Language Char := digits * bases * quotedTexts

/-- What begins with a digit. -/
def numbers : Language Char := decimals + basedLiterals + bitStrings

/-- What a decimal literal may go on with behind its digits. -/
def decimalTails : Language Char := (1 + oneOf ['.'] * digits) * (1 + exponents)

/-- What a based literal goes on with behind its base. -/
def basedTails : Language Char :=
  oneOf ['#'] * (mantissas * (oneOf ['#'] * (1 + exponents)))

/-- What a bit string goes on with behind its length. -/
def bitStringTails : Language Char := bases * quotedTexts

/-- All numbers begin with digits. -/
theorem numbers_eq : numbers = digits * (decimalTails + basedTails + bitStringTails) := by
  rw [mul_add, mul_add, numbers, decimals, basedLiterals, bitStrings, decimalTails, basedTails,
    bitStringTails]
  simp only [mul_assoc]

end Grammar

open Grammar

/-! ## Beginnings -/

theorem begins_digits : Begins digits (·.isDigit = true) := by
  intro q hq
  obtain ⟨d, ds, rfl, hd, -⟩ := IsDigits.exists_cons hq
  rintro _ ⟨⟩
  exact hd

theorem begins_exponents : Begins exponents (· ∈ ['e', 'E']) := .mark fun _ ha => ha

theorem begins_decimalTails : Begins decimalTails (· ∈ ['.', 'e', 'E']) :=
  .mul (.add (.one _) (.mark (by simp)))
    (.add (.one _) (begins_exponents.mono fun _ h => List.mem_cons_of_mem _ h))

theorem begins_basedTails : Begins basedTails (· ∈ ['#']) := .mark fun _ ha => ha

theorem begins_bitStringTails : Begins bitStringTails (Unicode.isAlphabetic · = true) := by
  intro q hq
  obtain ⟨base, isBase, body, -, rfl⟩ := Language.mem_mul.1 hq
  obtain ⟨a, bs, rfl, ha, -⟩ := exists_cons_of_isBaseSpecifier isBase
  rintro _ ⟨⟩
  exact ha

/-- What is no bit string does not go on with a base. -/
theorem begins_plainTails :
    Begins (decimalTails + basedTails) (·.toLower ∉ baseInitials) := by
  have hmark : ∀ c ∈ ['.', 'e', 'E'], c.toLower ∉ baseInitials := by simp [baseInitials]
  have hsign : ∀ c ∈ ['#'], c.toLower ∉ baseInitials := by simp [baseInitials]
  exact .add (begins_decimalTails.mono hmark) (begins_basedTails.mono hsign)

theorem begins_tails :
    Begins (decimalTails + basedTails + bitStringTails) (isDigitPart · = false) :=
  have hmark : ∀ c ∈ ['.', 'e', 'E'], isDigitPart c = false := by simp [isDigitPart]
  have hsign : ∀ c ∈ ['#'], isDigitPart c = false := by simp [isDigitPart]
  .add (.add (begins_decimalTails.mono hmark) (begins_basedTails.mono hsign))
    (begins_bitStringTails.mono fun _ h => isDigitPart_eq_false_of_isAlphabetic h)

/-! ## Digits and exponents -/

/-- Behind the digits in front the rest is looked for. -/
theorem longest_digits_mul {T : Language Char} {d t : List Char} {rest : List Char}
    (hd : IsDigits d) (hrest : ∀ c ∈ rest.head?, isDigitPart c = false)
    (hT : Begins T (isDigitPart · = false)) (h : IsLongestPrefix T t rest) :
    IsLongestPrefix (digits * T) (d ++ t) (d ++ rest) :=
  .run (fun _ hr => hr.forall_isDigitPart) hT hd hrest h

theorem longest_digits {d rest : List Char} (hd : IsDigits d)
    (hrest : ∀ c ∈ rest.head?, isDigitPart c = false) :
    IsLongestPrefix digits d (d ++ rest) := by
  have h := longest_digits_mul hd hrest (.one _) (.one rest)
  rwa [mul_one, List.append_nil] at h

theorem longest_digits_cons {d : Char} (hd : d.isDigit = true) (cs : List Char) :
    IsLongestPrefix digits (d :: cs.takeWhile isDigitPart) (d :: cs) := by
  have h := longest_digits (d := d :: cs.takeWhile isDigitPart)
    ⟨hd, fun c hc => List.mem_takeWhile_imp hc⟩ (head?_dropWhile_eq_false isDigitPart cs)
  rwa [List.cons_append, List.takeWhile_append_dropWhile] at h

theorem exists_of_mem_exponents {q : List Char} (hq : q ∈ exponents) :
    (∃ e s ds, q = e :: s :: ds ∧ (e = 'e' ∨ e = 'E') ∧ s.isDigit = true) ∨
    ∃ e s d ds, q = e :: s :: d :: ds ∧ (e = 'e' ∨ e = 'E') ∧ (s = '+' ∨ s = '-') ∧
      d.isDigit = true := by
  obtain ⟨_, ⟨e, he, rfl⟩, _, htail, rfl⟩ := Language.mem_mul.1 hq
  obtain ⟨sign, hsign, ds, hds, rfl⟩ := Language.mem_mul.1 htail
  have he : e = 'e' ∨ e = 'E' := by simpa using he
  obtain ⟨d, ds, rfl, hd, -⟩ := IsDigits.exists_cons hds
  rcases hsign with rfl | ⟨s, hs, rfl⟩
  · exact .inl ⟨e, d, ds, rfl, he, hd⟩
  · exact .inr ⟨e, s, d, ds, rfl, he, by simpa using hs, hd⟩

/-- The exponent that is read is the longest one in front. -/
theorem longest_exponent (cs : List Char) : IsLongestPrefix (1 + exponents) (exponent cs).1 cs := by
  rcases exponent_cases cs with hnone | ⟨e, s, cs, rfl, he, hs⟩ | ⟨e, s, d, cs, rfl, he, hs, hd⟩
  · rw [hnone]
    refine (IsLongestPrefix.one cs).add_left fun q hq => ?_
    rintro ⟨tail, rfl⟩
    rcases exists_of_mem_exponents hq with ⟨e, s, ds, rfl, he, hs⟩ | ⟨e, s, d, ds, rfl, he, hs, hd⟩
    · rw [List.cons_append, List.cons_append, exponent_digit he hs] at hnone
      cases hnone
    · rw [List.cons_append, List.cons_append, List.cons_append, exponent_signed he hs hd] at hnone
      cases hnone
  · rw [exponent_digit he hs]
    refine .optional (.mark (by simpa using he) ?_)
    rw [add_mul, one_mul]
    refine (longest_digits_cons hs cs).add_left_of_begins (.mark fun _ ha => ha) ?_
    rintro _ ⟨⟩ hmem
    simp only [List.mem_cons, List.not_mem_nil, or_false] at hmem
    rcases hmem with rfl | rfl <;> cases hs
  · rw [exponent_signed he hs hd]
    refine .optional (.mark (by simpa using he) ?_)
    rw [add_mul, one_mul]
    have hlongest : IsLongestPrefix (oneOf ['+', '-'] * digits)
        (s :: d :: cs.takeWhile isDigitPart) (s :: d :: cs) :=
      .mark (by simpa using hs) (longest_digits_cons hd cs)
    refine hlongest.add_right_of_begins begins_digits ?_
    rintro _ ⟨⟩ hdigit
    rcases hs with rfl | rfl <;> cases hdigit

/-! ## Kinds -/

/-- The text of a number tells of which kind it is. -/
def IsNumberKind (text : List Char) (kind : Kind) : Prop :=
  (text ∈ bitStrings → kind = .bitStringLiteral) ∧
    (text ∉ bitStrings → kind = if '.' ∈ text then .realLiteral else .intLiteral)

theorem quote_mem_of_mem_bitStrings {q : List Char} (hq : q ∈ bitStrings) : '"' ∈ q := by
  obtain ⟨lead, -, _, ⟨s, -, rfl⟩, rfl⟩ := Language.mem_mul.1 hq
  exact List.mem_append_right lead List.mem_cons_self

/-- The lexeme is a number that is no bit string, of the kind that its text tells. -/
def Lexeme.IsPlain (l : Lexeme) : Prop :=
  (l.kind = if '.' ∈ l.text then .realLiteral else .intLiteral) ∧ '"' ∉ l.text

theorem Lexeme.IsPlain.isNumberKind {l : Lexeme} (h : l.IsPlain) : IsNumberKind l.text l.kind :=
  ⟨fun hmem => absurd (quote_mem_of_mem_bitStrings hmem) h.2, fun _ => h.1⟩

theorem Lexeme.IsPlain.ne_error {l : Lexeme} (h : l.IsPlain) : l.kind ≠ .error := by
  rw [h.1]
  split <;> exact nofun

theorem mem_exponent (cs : List Char) :
    ∀ c ∈ (exponent cs).1, isDigitPart c = true ∨ c ∈ ['e', 'E', '+', '-'] := by
  have hdigits (ds : List Char) :
      ∀ c ∈ ds.takeWhile isDigitPart, isDigitPart c = true ∨ c ∈ ['e', 'E', '+', '-'] :=
    fun c hc => .inl (List.mem_takeWhile_imp hc)
  rcases exponent_cases cs with hnone | ⟨e, s, cs, rfl, he, hs⟩ | ⟨e, s, d, cs, rfl, he, hs, hd⟩
  · rw [hnone]
    exact List.forall_mem_nil _
  · rw [exponent_digit he hs]
    refine List.forall_mem_cons.2 ⟨.inr ?_, List.forall_mem_cons.2 ⟨.inl ?_, hdigits cs⟩⟩
    · rcases he with rfl | rfl <;> simp
    · exact isDigitPart_of_isDigit hs
  · rw [exponent_signed he hs hd]
    refine List.forall_mem_cons.2 ⟨.inr ?_, List.forall_mem_cons.2 ⟨.inr ?_,
      List.forall_mem_cons.2 ⟨.inl (isDigitPart_of_isDigit hd), hdigits cs⟩⟩⟩
    · rcases he with rfl | rfl <;> simp
    · rcases hs with rfl | rfl <;> simp

/-- An exponent does not change the kind. -/
theorem isPlain_withExponent {kind : Kind} {text : List Char} (rest : List Char)
    (hkind : kind = if '.' ∈ text then .realLiteral else .intLiteral) (hquote : '"' ∉ text) :
    (withExponent kind text rest).IsPlain := by
  have hpoint : '.' ∉ (exponent rest).1 := fun h => by
    have := mem_exponent rest '.' h
    simp [isDigitPart] at this
  have hquote' : '"' ∉ (exponent rest).1 := fun h => by
    have := mem_exponent rest '"' h
    simp [isDigitPart] at this
  refine ⟨?_, ?_⟩
  · simp [withExponent, hkind, hpoint]
  · simp [withExponent, hquote, hquote']

theorem not_mem_of_isDigits {d : List Char} (hd : IsDigits d) {c : Char}
    (hc : isDigitPart c = false) : c ∉ d := fun hmem =>
  Bool.false_ne_true (hc.symm.trans (hd.forall_isDigitPart c hmem))

/-! ## Decimal literals -/

theorem decimalTails_eq :
    decimalTails = (1 + exponents) + oneOf ['.'] * (digits * (1 + exponents)) := by
  rw [decimalTails, add_mul, one_mul, mul_assoc]

theorem begins_optional_exponents {P : Char → Prop} (h : ∀ c ∈ ['e', 'E'], P c) :
    Begins (1 + exponents) P :=
  .add (.one P) (begins_exponents.mono h)

theorem isDigitPart_of_mem_exponentMarks : ∀ c ∈ ['e', 'E'], isDigitPart c = false := by
  simp [isDigitPart]

/-- Behind the digits the longest fraction and exponent are taken. -/
theorem exists_decimalTail {d : List Char} (hd : IsDigits d) (cs : List Char) :
    ∃ t, (decimal d cs).text = d ++ t ∧ IsLongestPrefix decimalTails t cs ∧
      (decimal d cs).IsPlain := by
  have hpoint : '.' ∉ d := not_mem_of_isDigits hd rfl
  have hquote : '"' ∉ d := not_mem_of_isDigits hd rfl
  rw [decimalTails_eq]
  by_cases hfraction : ∃ e ds, cs = '.' :: e :: ds ∧ e.isDigit = true
  · obtain ⟨e, ds, rfl, he⟩ := hfraction
    have hlongest : IsLongestPrefix (digits * (1 + exponents))
        (e :: ds.takeWhile isDigitPart ++ (exponent (ds.dropWhile isDigitPart)).1) (e :: ds) := by
      have h := longest_digits_mul (d := e :: ds.takeWhile isDigitPart)
        ⟨he, fun c hc => List.mem_takeWhile_imp hc⟩ (head?_dropWhile_eq_false isDigitPart ds)
        (begins_optional_exponents isDigitPart_of_mem_exponentMarks)
        (longest_exponent (ds.dropWhile isDigitPart))
      rwa [List.cons_append, List.cons_append, List.takeWhile_append_dropWhile] at h
    rw [decimal_fraction d he]
    refine ⟨_, List.append_assoc _ _ _, ?_, isPlain_withExponent _ ?_ ?_⟩
    · refine (IsLongestPrefix.mark List.mem_cons_self hlongest).add_right_of_begins
        (begins_optional_exponents fun _ h => h) ?_
      rintro _ ⟨⟩
      decide
    · simp
    · have hrun : '"' ∉ ds.takeWhile isDigitPart := fun h => by
        have := List.mem_takeWhile_imp h
        simp [isDigitPart] at this
      have he' : '"' ≠ e := by
        rintro rfl
        cases he
      simp [hquote, hrun, he']
  · rw [(decimal_cases d cs).resolve_left hfraction]
    refine ⟨(exponent cs).1, rfl, (longest_exponent cs).add_left fun q hq => ?_,
      isPlain_withExponent cs (by simp [hpoint]) hquote⟩
    rintro ⟨tail, rfl⟩
    obtain ⟨_, ⟨a, ha, rfl⟩, _, htail, rfl⟩ := Language.mem_mul.1 hq
    obtain ⟨ds, hds, x, -, rfl⟩ := Language.mem_mul.1 htail
    obtain ⟨e, ds, rfl, he, -⟩ := IsDigits.exists_cons hds
    obtain rfl : a = '.' := List.mem_singleton.1 ha
    exact absurd ⟨e, _, rfl, he⟩ hfraction

/-! ## Based literals -/

/-- The digits of a based literal are the longest in front, and so is what is looked for behind
them, provided that it begins with a mark. -/
theorem exists_mantissa (cs : List Char) :
    ∃ f after, cs = f ++ after ∧ '"' ∉ f ∧
      (∀ lead, basedTail (lead ++ cs.takeWhile isHexPart) (cs.dropWhile isHexPart) =
        closeBased (if '.' ∈ f then .realLiteral else .intLiteral) (lead ++ f) after) ∧
      ∀ T t, Begins T (fun c => isHexPart c = false ∧ c ≠ '.') → IsLongestPrefix T t after →
        IsLongestPrefix (mantissas * T) (f ++ t) cs := by
  have hno {c : Char} (hc : isHexPart c = false) (ds : List Char) : c ∉ ds.takeWhile isHexPart :=
    fun hmem => Bool.false_ne_true (hc.symm.trans (List.mem_takeWhile_imp hmem))
  have hdistrib (T : Language Char) :
      mantissas * T = hexDigits * (T + oneOf ['.'] * (hexDigits * T)) := by
    rw [mantissas, mul_assoc, add_mul, one_mul, mul_assoc]
  have hbegins {T : Language Char} (hT : Begins T (fun c => isHexPart c = false ∧ c ≠ '.')) :
      Begins (T + oneOf ['.'] * (hexDigits * T)) (isHexPart · = false) :=
    .add (hT.mono fun _ h => h.1) (.mark (by simp [isHexPart, isHexDigit]))
  rcases eq_cons_or_head?_ne '.' (cs.dropWhile isHexPart) with ⟨ds, hds⟩ | hds
  · -- There is a point, and there are any number of digits behind it.
    refine ⟨cs.takeWhile isHexPart ++ '.' :: ds.takeWhile isHexPart, ds.dropWhile isHexPart,
      ?_, ?_, fun lead => ?_, fun T t hT ht => ?_⟩
    · rw [List.append_assoc, List.cons_append, List.takeWhile_append_dropWhile, ← hds,
        List.takeWhile_append_dropWhile]
    · simp [hno (c := '"') rfl]
    · rw [hds, if_pos (by simp), basedTail, List.append_assoc]
    · have hpoint : IsLongestPrefix (T + oneOf ['.'] * (hexDigits * T))
          ('.' :: (ds.takeWhile isHexPart ++ t)) (cs.dropWhile isHexPart) := by
        rw [hds]
        refine IsLongestPrefix.add_right_of_begins (.mark List.mem_cons_self ?_) hT ?_
        · exact IsLongestPrefix.runs_mul (hT.mono fun _ h => h.1) ht
        · rintro _ ⟨⟩ h
          exact h.2 rfl
      rw [hdistrib, List.append_assoc, List.cons_append]
      exact .runs_mul (hbegins hT) hpoint
  · refine ⟨cs.takeWhile isHexPart, cs.dropWhile isHexPart, List.takeWhile_append_dropWhile.symm,
      hno rfl cs, fun lead => ?_, fun T t hT ht => ?_⟩
    · rw [basedTail_of_head?_ne _ hds, if_neg (hno rfl cs)]
    · rw [hdistrib]
      refine .runs_mul (hbegins hT) (ht.add_left fun q hq hfront => ?_)
      exact absurd hfront (not_isPrefix_mark (fun c hc => mt List.mem_singleton.1 (hds c hc)) hq)

/-! ## Bit strings -/

/-- No quotation mark closes the text on its line: behind each that would another one stands. -/
def IsUnclosedText (body : List Char) : Prop :=
  ∀ s tail, '\n' ∉ s → body = doubled '"' s ++ '"' :: tail → tail.head? = some '"'

theorem closed_eq_false_iff {body : List Char} :
    (Body.quoted '"' body).closed = false ↔ IsUnclosedText body := by
  constructor
  · intro hopen s tail hs hbody
    by_contra hhead
    have hclosed : Body.quoted '"' (doubled '"' s ++ '"' :: tail) =
        ⟨doubled '"' s ++ ['"'], true, tail⟩ :=
      Body.quoted_doubled (by decide) hs fun d hd hquote => hhead (hquote ▸ hd)
    rw [← hbody] at hclosed
    rw [hclosed] at hopen
    cases hopen
  · intro h
    obtain ⟨s, hs, htext, hrest, -⟩ := Body.exists_doubled '"' body
    by_contra hclosed
    rw [Bool.not_eq_false] at hclosed
    have hbody : body = doubled '"' s ++ '"' :: (Body.quoted '"' body).rest := by
      conv_lhs => rw [← Body.quoted_append '"' body, htext, if_pos hclosed]
      rw [List.append_assoc, List.singleton_append]
    exact hrest hclosed '"' (h s _ hs hbody) rfl

theorem begins_quotedTexts : Begins quotedTexts (· = '"') := by
  rintro _ ⟨s, -, rfl⟩ _ ⟨⟩
  rfl

/-- What a text in quotation is closed by is the last quotation mark that can close it. -/
theorem longest_quotedText {body : List Char} (h : (Body.quoted '"' body).closed = true) :
    IsLongestPrefix quotedTexts ('"' :: (Body.quoted '"' body).text) ('"' :: body) where
  mem := by
    obtain ⟨s, hs, htext, -, -⟩ := Body.exists_doubled '"' body
    exact ⟨s, hs, by rw [htext, if_pos h]⟩
  isPrefix := (List.prefix_cons_inj _).2 ⟨_, Body.quoted_append '"' body⟩
  length_le := by
    rintro _ ⟨s, hs, rfl⟩ ⟨tail, htail⟩
    obtain rfl : body = doubled '"' s ++ '"' :: tail := by
      rw [List.cons_append, List.append_assoc, List.singleton_append] at htail
      exact (List.cons.inj htail).2.symm
    have hlast : 0 < (Body.quoted '"' ('"' :: tail)).text.length := by
      rw [List.length_pos_iff]
      exact Body.quoted_text_ne_nil (by decide) tail
    rw [Body.quoted_doubled_append (by decide) hs, Body.prepend]
    simp only [List.length_cons, List.length_append, List.length_nil]
    omega

theorem longest_bitStringTail {base body : List Char} (isBase : isBaseSpecifier base = true)
    (h : (Body.quoted '"' body).closed = true) :
    IsLongestPrefix bitStringTails (base ++ '"' :: (Body.quoted '"' body).text)
      (base ++ '"' :: body) :=
  .run (fun _ hr => isAlphabetic_of_isBaseSpecifier hr)
    (begins_quotedTexts.mono fun _ hc => hc ▸ rfl) isBase (by rintro _ ⟨⟩; rfl)
    (longest_quotedText h)

/-! ## Malformed numbers -/

/-- The digits in front are followed by a number sign, and the longest digits of a based literal
behind that are not. -/
def IsUnclosedBased (cs : List Char) : Prop :=
  ∃ d f after, IsLongestPrefix digits d cs ∧ cs = d ++ '#' :: (f ++ after) ∧
    IsLongestPrefix mantissas f (f ++ after) ∧ ∀ c ∈ after.head?, c ≠ '#'

/-- The digits in front are followed by a base and a quotation mark, and the text behind that is not
closed. -/
def IsUnclosedBitString (cs : List Char) : Prop :=
  ∃ d base body, IsLongestPrefix digits d cs ∧ isBaseSpecifier base = true ∧
    cs = d ++ (base ++ '"' :: body) ∧ IsUnclosedText body

section Tail

variable {d rest : List Char}

theorem eq_of_longest_digits (hd : IsDigits d) (hrest : ∀ c ∈ rest.head?, isDigitPart c = false)
    {d' rest' : List Char} (h : IsLongestPrefix digits d' (d ++ rest))
    (heq : d ++ rest = d' ++ rest') : rest = rest' := by
  rw [h.unique (longest_digits hd hrest)] at heq
  exact List.append_cancel_left heq

theorem isUnclosedBased_append (hd : IsDigits d)
    (hrest : ∀ c ∈ rest.head?, isDigitPart c = false) :
    IsUnclosedBased (d ++ rest) ↔ ∃ f after, rest = '#' :: (f ++ after) ∧
      IsLongestPrefix mantissas f (f ++ after) ∧ ∀ c ∈ after.head?, c ≠ '#' := by
  constructor
  · rintro ⟨d', f, after, hd', heq, hf⟩
    exact ⟨f, after, eq_of_longest_digits hd hrest hd' heq, hf⟩
  · rintro ⟨f, after, rfl, hf⟩
    exact ⟨d, f, after, longest_digits hd hrest, rfl, hf⟩

theorem isUnclosedBitString_append (hd : IsDigits d)
    (hrest : ∀ c ∈ rest.head?, isDigitPart c = false) :
    IsUnclosedBitString (d ++ rest) ↔ ∃ base body, isBaseSpecifier base = true ∧
      rest = base ++ '"' :: body ∧ IsUnclosedText body := by
  constructor
  · rintro ⟨d', base, body, hd', isBase, heq, hbody⟩
    exact ⟨base, body, isBase, eq_of_longest_digits hd hrest hd' heq, hbody⟩
  · rintro ⟨base, body, isBase, rfl, hbody⟩
    exact ⟨d, base, body, longest_digits hd hrest, isBase, rfl, hbody⟩

/-! ## Reading -/

/-- The lexeme is malformed just if the number in front is, and otherwise it is the longest number
in front. -/
def IsNumberRead (l : Lexeme) (cs : List Char) : Prop :=
  (l.kind = .error ↔ IsUnclosedBased cs ∨ IsUnclosedBitString cs) ∧
    (l.kind ≠ .error → IsLongestPrefix numbers l.text cs ∧ IsNumberKind l.text l.kind)

/-- Behind the digits in front, the rest of a number is looked for. -/
theorem longest_number (hd : IsDigits d) (hrest : ∀ c ∈ rest.head?, isDigitPart c = false)
    {t : List Char}
    (h : IsLongestPrefix (decimalTails + basedTails + bitStringTails) t rest) :
    IsLongestPrefix numbers (d ++ t) (d ++ rest) :=
  numbers_eq ▸ longest_digits_mul hd hrest begins_tails h

/-- A number that is none of the malformed ones is read as the longest one if it is a plain one. -/
theorem Lexeme.IsPlain.isNumberRead {l : Lexeme} (h : l.IsPlain)
    (hbased : ¬ IsUnclosedBased (d ++ rest)) (hbit : ¬ IsUnclosedBitString (d ++ rest))
    (hlongest : IsLongestPrefix numbers l.text (d ++ rest)) : IsNumberRead l (d ++ rest) :=
  ⟨iff_of_false h.ne_error (not_or.2 ⟨hbased, hbit⟩), fun _ => ⟨hlongest, h.isNumberKind⟩⟩

theorem isNumberRead_based (hd : IsDigits d) (cs : List Char) :
    IsNumberRead (numberTail d ('#' :: cs)) (d ++ '#' :: cs) := by
  have hrest : ∀ c ∈ ('#' :: cs).head?, isDigitPart c = false := by rintro _ ⟨⟩; rfl
  obtain ⟨f, after, hcs, hquote, hread, hlongest⟩ := exists_mantissa cs
  have hmantissa : IsLongestPrefix mantissas f cs := by
    have h := hlongest 1 [] (.one _) (.one after)
    rwa [mul_one, List.append_nil] at h
  have htail : numberTail d ('#' :: cs) =
      closeBased (if '.' ∈ f then .realLiteral else .intLiteral) (d ++ '#' :: f) after := by
    have h := hread (d ++ ['#'])
    rwa [List.append_assoc, List.append_assoc] at h
  rw [htail]
  rcases eq_cons_or_head?_ne '#' after with ⟨r, rfl⟩ | hafter
  · have hplain : (withExponent (if '.' ∈ f then .realLiteral else .intLiteral)
        (d ++ '#' :: f ++ ['#']) r).IsPlain := by
      refine isPlain_withExponent r ?_ ?_
      · simp [not_mem_of_isDigits hd (c := '.') rfl]
      · simp [not_mem_of_isDigits hd (c := '"') rfl, hquote]
    refine hplain.isNumberRead ?_ ?_ ?_
    · -- The digits behind the sign are the longest ones, and a sign follows them.
      rw [isUnclosedBased_append hd hrest]
      rintro ⟨f', after', hcs', hf', hafter'⟩
      rw [← (List.cons.inj hcs').2] at hf'
      obtain rfl := hf'.unique hmantissa
      have hsame := List.append_cancel_left (hcs.symm.trans (List.cons.inj hcs').2)
      rw [← hsame] at hafter'
      exact hafter' '#' rfl rfl
    · rw [isUnclosedBitString_append hd hrest]
      rintro ⟨base, body, isBase, hbase, -⟩
      obtain ⟨a, bs, rfl, ha, -⟩ := exists_cons_of_isBaseSpecifier isBase
      exact ne_of_holds ha rfl (List.cons.inj hbase).1.symm
    · have hexponent : IsLongestPrefix (oneOf ['#'] * (1 + exponents))
          ('#' :: (exponent r).1) ('#' :: r) := .mark List.mem_cons_self (longest_exponent r)
      have hbehind := hlongest _ _ (.mark (by simp [isHexPart, isHexDigit])) hexponent
      have hbased : IsLongestPrefix basedTails ('#' :: (f ++ '#' :: (exponent r).1)) ('#' :: cs) :=
        .mark List.mem_cons_self hbehind
      have hplain := hbased.add_right_of_begins begins_decimalTails (by rintro _ ⟨⟩; decide)
      have hnumber := longest_number hd hrest
        (hplain.add_left_of_begins begins_bitStringTails (by rintro _ ⟨⟩; decide))
      simpa [withExponent] using hnumber
  · rw [closeBased_of_head?_ne _ _ hafter]
    refine ⟨iff_of_true rfl (.inl ?_), fun h => absurd rfl h⟩
    rw [isUnclosedBased_append hd hrest]
    exact ⟨f, after, by rw [hcs], hcs ▸ hmantissa, hafter⟩

theorem isNumberRead_bitString (hd : IsDigits d) {base : List Char}
    (isBase : isBaseSpecifier base = true) (body : List Char) :
    IsNumberRead (numberTail d (base ++ '"' :: body)) (d ++ (base ++ '"' :: body)) := by
  obtain ⟨a, bs, rfl, ha, hbs⟩ := exists_cons_of_isBaseSpecifier isBase
  have hrest : ∀ c ∈ (a :: bs ++ '"' :: body).head?, isDigitPart c = false := by
    rintro _ ⟨⟩
    exact isDigitPart_eq_false_of_isAlphabetic ha
  have hsign : ∀ c ∈ (a :: bs ++ '"' :: body).head?, c ≠ '#' := by
    rintro _ ⟨⟩
    exact ne_of_holds ha rfl
  have htail : numberTail d (a :: bs ++ '"' :: body) =
      (Body.quoted '"' body).lexeme (d ++ (a :: bs ++ ['"'])) .bitStringLiteral
        .unterminatedString := by
    rw [numberTail_of_head?_ne d hsign, sizedBase?_append_quote isBase]
  have hbased : ¬ IsUnclosedBased (d ++ (a :: bs ++ '"' :: body)) := by
    rw [isUnclosedBased_append hd hrest]
    rintro ⟨f, after, hcs, -⟩
    exact hsign '#' (by rw [hcs]; rfl) rfl
  rw [htail, Body.lexeme]
  split
  · next hclosed =>
    have hbit : ¬ IsUnclosedBitString (d ++ (a :: bs ++ '"' :: body)) := by
      rw [isUnclosedBitString_append hd hrest]
      rintro ⟨base, body', isBase', hbase, hopen⟩
      -- The base ends where the quotation mark stands.
      obtain ⟨-, hbody⟩ := run_append_inj (isAlphabetic_of_isBaseSpecifier isBase)
        (by rintro _ ⟨⟩; rfl) (isAlphabetic_of_isBaseSpecifier isBase') (by rintro _ ⟨⟩; rfl) hbase
      rw [← (List.cons.inj hbody).2, ← closed_eq_false_iff] at hopen
      exact Bool.false_ne_true (hopen.symm.trans hclosed)
    have htext : d ++ (a :: bs ++ ['"']) ++ (Body.quoted '"' body).text =
        d ++ (a :: bs ++ '"' :: (Body.quoted '"' body).text) := by simp
    have hlongest := longest_bitStringTail isBase hclosed
    have hmem : d ++ (a :: bs ++ ['"']) ++ (Body.quoted '"' body).text ∈ bitStrings := by
      rw [htext, bitStrings, mul_assoc]
      exact Language.append_mem_mul hd hlongest.mem
    refine ⟨iff_of_false (by rintro ⟨⟩) (not_or.2 ⟨hbased, hbit⟩), fun _ => ⟨?_, ?_⟩⟩
    · rw [htext]
      refine longest_number hd hrest (hlongest.add_right_of_begins begins_plainTails ?_)
      rintro _ ⟨⟩ hinitial
      exact hinitial (toLower_mem_of_isBaseSpecifier isBase)
    · exact ⟨fun _ => rfl, fun hno => absurd hmem hno⟩
  · next hopen =>
    refine ⟨iff_of_true rfl (.inr ?_), fun h => absurd rfl h⟩
    rw [isUnclosedBitString_append hd hrest]
    exact ⟨a :: bs, body, isBase, rfl, closed_eq_false_iff.1 (Bool.eq_false_iff.2 hopen)⟩

theorem isNumberRead_decimal (hd : IsDigits d) (hrest : ∀ c ∈ rest.head?, isDigitPart c = false)
    (hsign : ∀ c ∈ rest.head?, c ≠ '#') (hbase : sizedBase? rest = none) :
    IsNumberRead (numberTail d rest) (d ++ rest) := by
  have hno {base body : List Char} (isBase : isBaseSpecifier base = true) :
      rest ≠ base ++ '"' :: body := by
    rintro rfl
    rw [sizedBase?_append_quote isBase] at hbase
    cases hbase
  have htail : numberTail d rest = decimal d rest := by
    rw [numberTail_of_head?_ne d hsign, hbase]
  obtain ⟨t, htext, hlongest, hplain⟩ := exists_decimalTail hd rest
  rw [htail]
  refine hplain.isNumberRead ?_ ?_ ?_
  · rw [isUnclosedBased_append hd hrest]
    rintro ⟨f, after, rfl, -⟩
    exact hsign '#' rfl rfl
  · rw [isUnclosedBitString_append hd hrest]
    rintro ⟨base, body, isBase, hrest, -⟩
    exact hno isBase hrest
  · rw [htext]
    refine longest_number hd hrest ((hlongest.add_left_of_begins begins_basedTails ?_).add_left ?_)
    · exact fun c hc hmem => hsign c hc (List.mem_singleton.1 hmem)
    · rintro q hq ⟨tail, htail⟩
      obtain ⟨base, isBase, _, ⟨s, -, rfl⟩, rfl⟩ := Language.mem_mul.1 hq
      rw [List.append_assoc] at htail
      exact absurd htail.symm (hno isBase)

/-- A number is read as the grammar tells. -/
theorem isNumberRead_number {c : Char} (hc : c.isDigit = true) (cs : List Char) :
    IsNumberRead (number c cs) (c :: cs) := by
  have hd : IsDigits (c :: cs.takeWhile isDigitPart) := ⟨hc, fun d hd => List.mem_takeWhile_imp hd⟩
  have hrest := head?_dropWhile_eq_false isDigitPart cs
  have hwhole : c :: cs = c :: cs.takeWhile isDigitPart ++ cs.dropWhile isDigitPart := by
    rw [List.cons_append, List.takeWhile_append_dropWhile]
  rw [number, hwhole]
  rcases eq_cons_or_head?_ne '#' (cs.dropWhile isDigitPart) with ⟨r, hr⟩ | hsign
  · rw [hr]
    exact isNumberRead_based hd r
  · cases hbase : sizedBase? (cs.dropWhile isDigitPart) with
    | none => exact isNumberRead_decimal hd hrest hsign hbase
    | some entry =>
      obtain ⟨base, isBase, -, hr⟩ := exists_base_of_sizedBase? hbase
      rw [hr]
      exact isNumberRead_bitString hd isBase entry.2

end Tail

/-- *Numbers are read by longest match.* A token that begins with a digit is malformed just if the
digits are followed by a number sign, but the longest digits of a based literal behind that are not,
or if they are followed by a base and a quotation mark, but the text behind that is not closed.
Otherwise the token is the longest number in front of what the source holds from there on, and its
text tells of which kind it is. -/
theorem Token.number_exact {source : String} {t : Token} (ht : t ∈ readAll source)
    (hdigit : ∃ c ∈ (t.onward source).head?, c.isDigit = true) :
    (t.kind = .error ↔
      IsUnclosedBased (t.onward source) ∨ IsUnclosedBitString (t.onward source)) ∧
    (t.kind ≠ .error →
      IsLongestPrefix numbers (t.text source).toList (t.onward source) ∧
        IsNumberKind (t.text source).toList t.kind) := by
  obtain ⟨d, hhead, hd⟩ := hdigit
  rcases exists_read ht with ⟨-, hend⟩ | ⟨previous, c, cs, honward, hkind, htext, -⟩
  · rw [hend] at hhead
    cases hhead
  · rw [honward] at hhead
    obtain rfl : c = d := Option.some.inj hhead
    rw [honward, hkind, htext, Lexeme.read_of_isDigit hd]
    exact isNumberRead_number hd cs

/-- A based literal with a fraction and an exponent. The letters behind it do not go on with it. -/
theorem Token.number_exact_based :
    let source := "16#F.1#e+2ub"
    let t : Token := ⟨.realLiteral, ⟨0, 10⟩⟩
    (t ∈ readAll source ∧ ∃ c ∈ (t.onward source).head?, c.isDigit = true) ∧
      ¬ (IsUnclosedBased (t.onward source) ∨ IsUnclosedBitString (t.onward source)) ∧
      IsLongestPrefix numbers (t.text source).toList (t.onward source) ∧
      IsNumberKind (t.text source).toList t.kind := by
  intro source t
  have ht : t ∈ readAll source := by decide +kernel
  have hdigit : ∃ c ∈ (t.onward source).head?, c.isDigit = true :=
    ⟨'1', by decide +kernel, rfl⟩
  obtain ⟨herror, hnumber⟩ := number_exact ht hdigit
  exact ⟨⟨ht, hdigit⟩, mt herror.2 nofun, hnumber nofun⟩

end VhdlLayout
