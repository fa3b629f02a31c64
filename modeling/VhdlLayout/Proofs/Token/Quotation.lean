import Mathlib
import VhdlLayout.Proofs.Text.LongestPrefix
import VhdlLayout.Proofs.Token.Lexemes
import VhdlLayout.Proofs.Token.Recasing

/-!
# Quoted texts

Strings, bit strings and extended identifiers hold a text of one line between two
delimiters, in which each delimiter is written twice (`doubled`). Nothing is lost
by this, however many delimiters the text holds and wherever they stand:

* `Body.quoted_doubled`: what is doubled is read up to the delimiter that is not;
* `Body.exists_doubled`: and that is all that can be read;
* `Quotation.lossless`: what a quotation is written as is one token, and each such
  token of a source is what exactly one quotation is written as.

A bit string has a base in front of its quotation marks, and perhaps a length in
front of the base. The two are read by different functions, a base alone as a word
(`Lexeme.ofRun`) and one behind a length as a part of a number (`numberTail`), but
they know the same bases.
-/

namespace VhdlLayout

/-! ## Doubled delimiters -/

/-- The text with each of its delimiters written twice. -/
def doubled (delim : Char) (s : List Char) : List Char :=
  s.flatMap fun c => if c = delim then [c, c] else [c]

section Doubled

variable {delim : Char} {s rest : List Char}

theorem doubled_cons_self (delim : Char) (s : List Char) :
    doubled delim (delim :: s) = delim :: delim :: doubled delim s := by
  rw [doubled, List.flatMap_cons, if_pos rfl]
  rfl

theorem doubled_cons_of_ne {c : Char} (h : c ≠ delim) (s : List Char) :
    doubled delim (c :: s) = c :: doubled delim s := by
  rw [doubled, List.flatMap_cons, if_neg h]
  rfl

theorem mem_doubled {c : Char} : c ∈ doubled delim s ↔ c ∈ s := by
  have hcopy (d : Char) : c ∈ (if d = delim then [d, d] else [d]) ↔ c = d := by
    split <;> simp
  simp [doubled, hcopy]

/-- The text with one of each two delimiters left out. -/
def undoubled (delim : Char) : List Char → List Char
  | [] => []
  | [c] => [c]
  | c :: d :: cs => if c = delim then c :: undoubled delim cs else c :: undoubled delim (d :: cs)

theorem undoubled_cons_of_ne {c : Char} (h : c ≠ delim) (cs : List Char) :
    undoubled delim (c :: cs) = c :: undoubled delim cs := by
  cases cs with
  | nil => rfl
  | cons d cs => rw [undoubled, if_neg h]

theorem undoubled_doubled (delim : Char) (s : List Char) :
    undoubled delim (doubled delim s) = s := by
  induction s with
  | nil => rfl
  | cons c s ih =>
    by_cases h : c = delim
    · rw [h, doubled_cons_self, undoubled, if_pos rfl, ih]
    · rw [doubled_cons_of_ne h, undoubled_cons_of_ne h, ih]

theorem doubled_injective (delim : Char) : Function.Injective (doubled delim) :=
  Function.LeftInverse.injective (undoubled_doubled delim)

namespace Body

/-- What begins with the delimiter is not empty. -/
theorem quoted_text_ne_nil (hdelim : delim ≠ '\n') (cs : List Char) :
    (quoted delim (delim :: cs)).text ≠ [] := by
  rcases eq_cons_or_head?_ne delim cs with ⟨rest, rfl⟩ | hcs
  · rw [quoted_double hdelim]
    exact List.cons_ne_nil _ _
  · rw [quoted_close hdelim hcs]
    exact List.cons_ne_nil _ _

/-- A doubled text does not close a body. -/
theorem quoted_doubled_append (hdelim : delim ≠ '\n') (hs : '\n' ∉ s) (cs : List Char) :
    quoted delim (doubled delim s ++ cs) = (quoted delim cs).prepend (doubled delim s) := by
  induction s with
  | nil => rfl
  | cons c s ih =>
    obtain ⟨hc, hs⟩ := not_or.1 (mt List.mem_cons.2 hs)
    by_cases h : c = delim
    · rw [h, doubled_cons_self, List.cons_append, List.cons_append, quoted_double hdelim, ih hs]
      rfl
    · rw [doubled_cons_of_ne h, List.cons_append, quoted_cons (Ne.symm hc) h, ih hs]
      rfl

/-- It is read up to the delimiter behind it. -/
theorem quoted_doubled (hdelim : delim ≠ '\n') (hs : '\n' ∉ s)
    (hrest : ∀ d ∈ rest.head?, d ≠ delim) :
    quoted delim (doubled delim s ++ delim :: rest) = ⟨doubled delim s ++ [delim], true, rest⟩ := by
  rw [quoted_doubled_append hdelim hs, quoted_close hdelim hrest]
  rfl

/-- A body is a doubled text, with the delimiter that closes it behind if there is one. It ends
before anything but another delimiter if it is closed, and with its line if it is not. -/
theorem exists_doubled (delim : Char) (cs : List Char) :
    ∃ s, '\n' ∉ s ∧
      (quoted delim cs).text =
        doubled delim s ++ (if (quoted delim cs).closed then [delim] else []) ∧
      ((quoted delim cs).closed = true → ∀ d ∈ (quoted delim cs).rest.head?, d ≠ delim) ∧
      ((quoted delim cs).closed = false → IsBreak (quoted delim cs).rest) := by
  fun_induction quoted delim cs with
  | case1 => exact ⟨[], List.not_mem_nil, rfl, by rintro ⟨⟩, fun _ => by rintro _ ⟨⟩⟩
  | case2 cs => exact ⟨[], List.not_mem_nil, rfl, by rintro ⟨⟩, fun _ => by rintro _ ⟨⟩; rfl⟩
  | case3 => exact ⟨[], List.not_mem_nil, rfl, fun _ => by rintro _ ⟨⟩, by rintro ⟨⟩⟩
  | case4 cs hline ih =>
    obtain ⟨s, hs, htext, hrest⟩ := ih
    refine ⟨delim :: s, List.not_mem_cons_of_ne_of_not_mem (Ne.symm hline) hs, ?_, hrest⟩
    rw [prepend, htext, doubled_cons_self]
    rfl
  | case5 d cs hd =>
    exact ⟨[], List.not_mem_nil, rfl, fun _ => by rintro _ ⟨⟩; exact hd, by rintro ⟨⟩⟩
  | case6 c cs hline hc ih =>
    obtain ⟨s, hs, htext, hrest⟩ := ih
    refine ⟨c :: s, List.not_mem_cons_of_ne_of_not_mem (Ne.symm hline) hs, ?_, hrest⟩
    rw [prepend, htext, doubled_cons_of_ne hc]
    rfl

end Body

end Doubled

/-! ## Letters and digits -/

section Character

variable {c d : Char} {p : Char → Bool}

theorem ne_of_holds (h : p c = true) (hd : p d = false) : c ≠ d := by
  rintro rfl
  exact Bool.false_ne_true (hd.symm.trans h)

/-- Digits are few, so that they can be looked at one by one. -/
theorem holds_of_isDigitPart (hp : "0123456789_".toList.all p = true)
    (h : isDigitPart c = true) : p c = true := by
  have few : ∀ n < 0x80, isDigitPart (Char.ofNat n) = true →
      Char.ofNat n ∈ "0123456789_".toList := by decide +kernel
  have hlast : c.toNat < 0x80 := by
    rw [isDigitPart, Bool.or_eq_true, beq_iff_eq] at h
    rcases h with h | rfl
    · rw [Char.isDigit, Bool.and_eq_true, decide_eq_true_iff, decide_eq_true_iff] at h
      exact Nat.lt_of_le_of_lt h.2 (by decide)
    · decide
  have hmem := few c.toNat hlast
  rw [Char.ofNat_toNat] at hmem
  exact List.all_eq_true.1 hp c (hmem h)

theorem isDigitPart_of_isDigit (h : c.isDigit = true) : isDigitPart c = true := by
  rw [isDigitPart, h, Bool.true_or]

theorem isWordPart_of_isDigitPart (h : isDigitPart c = true) : isWordPart c = true :=
  holds_of_isDigitPart (by decide +kernel) h

theorem isDigitPart_eq_false_of_isAlphabetic (h : Unicode.isAlphabetic c = true) :
    isDigitPart c = false := by
  by_contra hdigit
  have hletter := holds_of_isDigitPart (p := (!Unicode.isAlphabetic ·)) (by decide +kernel)
    (Bool.eq_true_of_not_eq_false hdigit)
  rw [h] at hletter
  cases hletter

theorem isDigit_eq_false_of_isAlphabetic (h : Unicode.isAlphabetic c = true) :
    c.isDigit = false :=
  Bool.eq_false_iff.2 fun hdigit => Bool.false_ne_true <|
    (isDigitPart_eq_false_of_isAlphabetic h).symm.trans (isDigitPart_of_isDigit hdigit)

theorem isWordPart_of_isAlphabetic (h : Unicode.isAlphabetic c = true) : isWordPart c = true := by
  rw [isWordPart, h, Bool.true_or, Bool.true_or]

/-- What no blank has, no blank is. -/
theorem isBlank_eq_false (h : p c = true)
    (hp : [' ', '\t', '\r', '\n', '\x0b', '\x0c', '\u00a0'].all (!p ·)) : isBlank c = false := by
  simp only [List.all_cons, List.all_nil, Bool.and_true, Bool.and_eq_true, Bool.not_eq_true'] at hp
  obtain ⟨h1, h2, h3, h4, h5, h6, h7⟩ := hp
  simp [isBlank, ne_of_holds h h1, ne_of_holds h h2, ne_of_holds h h3, ne_of_holds h h4,
    ne_of_holds h h5, ne_of_holds h h6, ne_of_holds h h7]

theorem isBlank_eq_false_of_isAlphabetic (h : Unicode.isAlphabetic c = true) :
    isBlank c = false :=
  isBlank_eq_false h (by decide +kernel)

theorem isBlank_eq_false_of_isDigit (h : c.isDigit = true) : isBlank c = false :=
  isBlank_eq_false h (by decide)

namespace Lexeme

theorem read_of_isDigit (h : c.isDigit = true) (previous : Option Kind) (cs : List Char) :
    read previous c cs = number c cs := by
  rw [read, if_neg (ne_of_holds h rfl), if_neg (ne_of_holds h rfl), if_neg (ne_of_holds h rfl),
    if_pos h]

theorem read_of_isAlphabetic (h : Unicode.isAlphabetic c = true) (previous : Option Kind)
    (cs : List Char) : read previous c cs = word c cs := by
  have hdigit : ¬ c.isDigit = true := Bool.eq_false_iff.1 (isDigit_eq_false_of_isAlphabetic h)
  rw [read, if_neg (ne_of_holds h rfl), if_neg (ne_of_holds h rfl), if_neg (ne_of_holds h rfl),
    if_neg hdigit, if_pos h]

end Lexeme

/-- A digit and behind it any digits and underlines. -/
def IsDigits : List Char → Prop
  | [] => False
  | c :: cs => c.isDigit = true ∧ ∀ d ∈ cs, isDigitPart d = true

namespace IsDigits

variable {cs : List Char}

theorem exists_cons (h : IsDigits cs) :
    ∃ d ds, cs = d :: ds ∧ d.isDigit = true ∧ ∀ c ∈ ds, isDigitPart c = true := by
  cases cs with
  | nil => exact h.elim
  | cons d ds => exact ⟨d, ds, rfl, h⟩

theorem forall_isDigitPart (h : IsDigits cs) : ∀ c ∈ cs, isDigitPart c = true := by
  obtain ⟨d, ds, rfl, hd, hds⟩ := h.exists_cons
  exact List.forall_mem_cons.2 ⟨isDigitPart_of_isDigit hd, hds⟩

end IsDigits

end Character

/-! ## Bases -/

theorem isAlphabetic_of_isBaseSpecifier {base : List Char} (h : isBaseSpecifier base = true) :
    ∀ c ∈ base, Unicode.isAlphabetic c = true := by
  have letters : baseSpecifiers.all fun base => base.all Unicode.isAlphabetic := by decide
  intro c hc
  rw [isBaseSpecifier, List.contains_iff_mem] at h
  rw [← isAlphabetic_letter .lower]
  exact List.all_eq_true.1 (List.all_eq_true.1 letters _ h) _ (List.mem_map_of_mem hc)

/-- A base has one letter or two. -/
theorem isBaseSpecifier_cases {base : List Char} (h : isBaseSpecifier base = true) :
    (∃ a, base = [a]) ∨ ∃ a b, base = [a, b] := by
  have short : ∀ base ∈ baseSpecifiers, base.length = 1 ∨ base.length = 2 := by decide
  rw [isBaseSpecifier, List.contains_iff_mem] at h
  have hlength := short _ h
  rw [List.length_map] at hlength
  exact hlength.imp List.length_eq_one_iff.1 List.length_eq_two.1

theorem exists_cons_of_isBaseSpecifier {base : List Char} (h : isBaseSpecifier base = true) :
    ∃ a bs, base = a :: bs ∧ Unicode.isAlphabetic a = true ∧
      ∀ b ∈ bs, Unicode.isAlphabetic b = true := by
  have letters := isAlphabetic_of_isBaseSpecifier h
  rcases isBaseSpecifier_cases h with ⟨a, rfl⟩ | ⟨a, b, rfl⟩
  · exact ⟨a, [], rfl, List.forall_mem_cons.1 letters⟩
  · exact ⟨a, [b], rfl, List.forall_mem_cons.1 letters⟩

/-- Behind a length every base is known that there is. -/
theorem sizedBase?_append_quote {base : List Char} (h : isBaseSpecifier base = true)
    (cs : List Char) : sizedBase? (base ++ '"' :: cs) = some (base ++ ['"'], cs) := by
  rcases isBaseSpecifier_cases h with ⟨a, rfl⟩ | ⟨a, b, rfl⟩
  · exact sizedBase?_one h cs
  · exact sizedBase?_two h cs

/-- And no other. -/
theorem exists_base_of_sizedBase? {cs base body : List Char}
    (h : sizedBase? cs = some (base, body)) :
    ∃ letters, isBaseSpecifier letters = true ∧ base = letters ++ ['"'] ∧
      cs = letters ++ '"' :: body := by
  rcases sizedBase?_cases cs with hnone | ⟨a, rest, rfl, ha⟩ | ⟨a, b, rest, rfl, hab⟩
  · cases hnone.symm.trans h
  · rw [sizedBase?_one ha] at h
    cases h
    exact ⟨[a], ha, rfl, rfl⟩
  · rw [sizedBase?_two hab] at h
    cases h
    exact ⟨[a, b], hab, rfl, rfl⟩

/-! ## Quotations -/

/-- What is quoted, by what stands in front of the text. -/
inductive QuotationForm where
  | string
  | extendedIdent
  /-- A bit string has a base in front, and a length in front of that unless it is empty. -/
  | bitString (length base : List Char) (isDigits : length = [] ∨ IsDigits length)
      (isBase : isBaseSpecifier base = true)

namespace QuotationForm

/-- The kind of token that is quoted in this form. -/
def kind : QuotationForm → Kind
  | string => .stringLiteral
  | extendedIdent => .extendedIdent
  | bitString .. => .bitStringLiteral

/-- The character that opens and closes the text. -/
def delim : QuotationForm → Char
  | extendedIdent => '\\'
  | _ => '"'

/-- What stands in front of the opening delimiter. -/
def lead : QuotationForm → List Char
  | bitString length base .. => length ++ base
  | _ => []

/-- What is wrong if the text is not closed. -/
def fault : QuotationForm → Fault
  | extendedIdent => .unterminatedExtendedIdentifier
  | _ => .unterminatedString

end QuotationForm

/-- A text of one line in quotation. -/
@[ext]
structure Quotation where
  form : QuotationForm
  content : List Char
  newLine_not_mem : '\n' ∉ content

/-- How the quotation is written. -/
def Quotation.text (q : Quotation) : List Char :=
  q.form.lead ++ q.form.delim :: (doubled q.form.delim q.content ++ [q.form.delim])

namespace QuotationForm

variable (form : QuotationForm)

theorem delim_ne_newLine : form.delim ≠ '\n' := by
  cases form <;> simp [delim]

/-- Behind what stands in front of it a text is read as a body in quotation. -/
theorem exists_read (previous : Option Kind) (body : List Char) :
    ∃ c cs, form.lead ++ form.delim :: body = c :: cs ∧ isBlank c = false ∧
      Lexeme.read previous c cs =
        (Body.quoted form.delim body).lexeme (form.lead ++ [form.delim]) form.kind form.fault := by
  cases form with
  | string => exact ⟨'"', body, rfl, rfl, rfl⟩
  | extendedIdent => exact ⟨'\\', body, rfl, rfl, rfl⟩
  | bitString length base isDigits isBase =>
    obtain ⟨a, bs, rfl, ha, hbs⟩ := exists_cons_of_isBaseSpecifier isBase
    cases length with
    | nil =>
      refine ⟨a, bs ++ '"' :: body, rfl, isBlank_eq_false_of_isAlphabetic ha, ?_⟩
      have hrun : ∀ c ∈ bs, isWordPart c = true :=
        fun c hc => isWordPart_of_isAlphabetic (hbs c hc)
      have hmark : ∀ c ∈ ('"' :: body).head?, isWordPart c = false := by rintro _ ⟨⟩; decide
      rw [Lexeme.read_of_isAlphabetic ha, Lexeme.word, takeWhile_run hrun hmark,
        dropWhile_run hrun hmark, Lexeme.ofRun, if_pos isBase]
      rfl
    | cons d ds =>
      obtain ⟨hd, hds⟩ : IsDigits (d :: ds) := isDigits.resolve_left (List.cons_ne_nil _ _)
      refine ⟨d, ds ++ (a :: bs) ++ '"' :: body, rfl, isBlank_eq_false_of_isDigit hd, ?_⟩
      have hend : ∀ c ∈ (a :: bs ++ '"' :: body).head?, isDigitPart c = false := by
        rintro _ ⟨⟩
        exact isDigitPart_eq_false_of_isAlphabetic ha
      have hmark : ∀ c ∈ (a :: bs ++ '"' :: body).head?, c ≠ '#' := by
        rintro _ ⟨⟩
        exact ne_of_holds ha rfl
      rw [Lexeme.read_of_isDigit hd, number, List.append_assoc, takeWhile_run hds hend,
        dropWhile_run hds hend, numberTail_of_head?_ne _ hmark, sizedBase?_append_quote isBase]
      simp [lead, delim, kind, fault]

end QuotationForm

/-! ## Reading -/

/-- The kind of a text in quotation. -/
def Kind.isQuotation : Kind → Bool
  | .stringLiteral | .bitStringLiteral | .extendedIdent => true
  | _ => false

namespace Lexeme

theorem not_isQuotation {l : Lexeme} (hno : l.kind.isQuotation = false) {q : Prop}
    (h : l.kind.isQuotation = true) : q :=
  absurd (hno.symm.trans h) Bool.false_ne_true

/-- A number in quotation is a bit string with a length. -/
theorem exists_base_of_numberTail {digits cs : List Char}
    (h : (numberTail digits cs).kind.isQuotation = true) :
    ∃ base body, isBaseSpecifier base = true ∧ cs = base ++ '"' :: body ∧
      numberTail digits cs = (Body.quoted '"' body).lexeme (digits ++ (base ++ ['"']))
        .bitStringLiteral .unterminatedString := by
  revert h
  fun_cases numberTail digits cs with
  | case1 rest =>
    exact not_isQuotation (kind_basedTail (p := (·.isQuotation = false)) _ _ rfl rfl rfl)
  | case2 cs _ _ body hbase =>
    obtain ⟨base, isBase, rfl, hcs⟩ := exists_base_of_sizedBase? hbase
    exact fun _ => ⟨base, body, isBase, hcs, rfl⟩
  | case3 => exact not_isQuotation (kind_decimal (p := (·.isQuotation = false)) _ _ rfl rfl)

/-- A word in quotation is the base of a bit string. -/
theorem exists_body_of_ofRun {text cs : List Char} (h : (ofRun text cs).kind.isQuotation = true) :
    ∃ body, isBaseSpecifier text = true ∧ cs = '"' :: body ∧
      ofRun text cs =
        (Body.quoted '"' body).lexeme (text ++ ['"']) .bitStringLiteral .unterminatedString := by
  revert h
  fun_cases ofRun text cs with
  | case1 body isBase => exact fun _ => ⟨body, isBase, rfl, rfl⟩
  | case2 | case3 =>
    exact not_isQuotation (kind_ofWord (p := (·.isQuotation = false)) _ _ (fun _ => rfl) rfl)

/-- What is a text in quotation has been read as the body in quotation of some form. -/
theorem exists_form_of_isQuotation {previous : Option Kind} {c : Char} {cs : List Char}
    (h : (read previous c cs).kind.isQuotation = true) :
    ∃ (form : QuotationForm) (body : List Char), c :: cs = form.lead ++ form.delim :: body ∧
      read previous c cs =
        (Body.quoted form.delim body).lexeme (form.lead ++ [form.delim]) form.kind form.fault := by
  revert h
  fun_cases read previous c cs with
  | case1 =>
    exact not_isQuotation (kind_apostrophe (p := (·.isQuotation = false)) _ _ rfl rfl)
  | case2 _ hquote => exact fun _ => ⟨.string, cs, by rw [hquote]; rfl, rfl⟩
  | case3 _ _ hslash => exact fun _ => ⟨.extendedIdent, cs, by rw [hslash]; rfl, rfl⟩
  | case4 _ _ _ hdigit =>
    intro h
    obtain ⟨base, body, isBase, hcs, hread⟩ := exists_base_of_numberTail h
    refine ⟨.bitString (c :: cs.takeWhile isDigitPart) base
      (.inr ⟨hdigit, fun d hd => List.mem_takeWhile_imp hd⟩) isBase, body, ?_, ?_⟩
    · conv_lhs => rw [← List.takeWhile_append_dropWhile (p := isDigitPart) (l := cs), hcs]
      simp [QuotationForm.lead, QuotationForm.delim]
    · rw [number, hread]
      simp [QuotationForm.lead, QuotationForm.delim, QuotationForm.kind, QuotationForm.fault]
  | case5 =>
    intro h
    obtain ⟨body, isBase, hcs, hread⟩ := exists_body_of_ofRun h
    refine ⟨.bitString [] (c :: cs.takeWhile isWordPart) (.inl rfl) isBase, body, ?_, hread⟩
    conv_lhs => rw [← List.takeWhile_append_dropWhile (p := isWordPart) (l := cs), hcs]
    rfl
  | case6 =>
    exact not_isQuotation (kind_mark (p := (·.isQuotation = false)) _ _ rfl (fun _ => rfl) rfl)

end Lexeme

/-! ## What is written determines what is quoted -/

namespace QuotationForm

theorem isDigitPart_of_mem_length {length : List Char} (h : length = [] ∨ IsDigits length) :
    ∀ c ∈ length, isDigitPart c = true := by
  rcases h with rfl | h
  · exact List.forall_mem_nil _
  · exact h.forall_isDigitPart

theorem isWordPart_of_mem_lead (form : QuotationForm) : ∀ c ∈ form.lead, isWordPart c = true := by
  cases form with
  | string => exact List.forall_mem_nil _
  | extendedIdent => exact List.forall_mem_nil _
  | bitString length base isDigits isBase =>
    intro c hc
    rcases List.mem_append.1 hc with hc | hc
    · exact isWordPart_of_isDigitPart (isDigitPart_of_mem_length isDigits c hc)
    · exact isWordPart_of_isAlphabetic (isAlphabetic_of_isBaseSpecifier isBase c hc)

theorem isWordPart_delim (form : QuotationForm) : isWordPart form.delim = false := by
  cases form <;> rfl

/-- A form is known by what stands in front of the text and by the delimiter. -/
theorem eq_of_lead {form form' : QuotationForm} (hlead : form.lead = form'.lead)
    (hdelim : form.delim = form'.delim) : form = form' := by
  have nonempty {length base : List Char} (isBase : isBaseSpecifier base = true) :
      length ++ base ≠ [] := by
    obtain ⟨a, bs, rfl, -, -⟩ := exists_cons_of_isBaseSpecifier isBase
    exact List.append_ne_nil_of_right_ne_nil _ (List.cons_ne_nil a bs)
  cases form with
  | string =>
    cases form' with
    | string => rfl
    | extendedIdent => cases hdelim
    | bitString _ _ _ isBase => exact absurd hlead.symm (nonempty isBase)
  | extendedIdent =>
    cases form' with
    | extendedIdent => rfl
    | _ => cases hdelim
  | bitString length base isDigits isBase =>
    cases form' with
    | string => exact absurd hlead (nonempty isBase)
    | extendedIdent => cases hdelim
    | bitString length' base' isDigits' isBase' =>
      -- The length ends where the first letter stands.
      have letter {base : List Char} (isBase : isBaseSpecifier base = true) :
          ∀ d ∈ base.head?, isDigitPart d = false := by
        obtain ⟨a, bs, rfl, ha, -⟩ := exists_cons_of_isBaseSpecifier isBase
        rintro _ ⟨⟩
        exact isDigitPart_eq_false_of_isAlphabetic ha
      obtain ⟨rfl, rfl⟩ := run_append_inj (isDigitPart_of_mem_length isDigits) (letter isBase)
        (isDigitPart_of_mem_length isDigits') (letter isBase') hlead
      rfl

end QuotationForm

theorem Quotation.text_injective : Function.Injective Quotation.text := by
  intro q q' h
  have hdelim (q : Quotation) :
      ∀ d ∈ (q.form.delim :: (doubled q.form.delim q.content ++ [q.form.delim])).head?,
        isWordPart d = false := by
    rintro _ ⟨⟩
    exact q.form.isWordPart_delim
  obtain ⟨hlead, htail⟩ := run_append_inj q.form.isWordPart_of_mem_lead (hdelim q)
    q'.form.isWordPart_of_mem_lead (hdelim q') h
  obtain ⟨hopen, hcontent⟩ := List.cons.inj htail
  rw [hopen] at hcontent
  exact Quotation.ext (QuotationForm.eq_of_lead hlead hopen)
    (doubled_injective _ (List.append_cancel_right hcontent))

/-! ## Reading what is written -/

namespace Quotation

/-- Written and read again, a quotation is one lexeme. -/
theorem exists_read (q : Quotation) (previous : Option Kind) :
    ∃ c cs, q.text = c :: cs ∧ isBlank c = false ∧
      Lexeme.read previous c cs = { kind := q.form.kind, text := q.text, rest := [] } := by
  have hbody : Body.quoted q.form.delim (doubled q.form.delim q.content ++ [q.form.delim]) =
      ⟨doubled q.form.delim q.content ++ [q.form.delim], true, []⟩ :=
    Body.quoted_doubled q.form.delim_ne_newLine q.newLine_not_mem nofun
  obtain ⟨c, cs, htext, hc, hread⟩ :=
    q.form.exists_read previous (doubled q.form.delim q.content ++ [q.form.delim])
  refine ⟨c, cs, htext, hc, ?_⟩
  rw [hread, hbody, Body.lexeme, if_pos rfl, text, List.append_assoc, List.singleton_append]

/-- A lexeme in quotation is a quotation, and what follows does not go on with it. -/
theorem exists_of_read {previous : Option Kind} {c : Char} {cs : List Char}
    (h : (Lexeme.read previous c cs).kind.isQuotation = true) :
    ∃ q : Quotation, q.text = (Lexeme.read previous c cs).text ∧
      q.form.kind = (Lexeme.read previous c cs).kind ∧
      ∀ d ∈ (Lexeme.read previous c cs).rest.head?, d ≠ q.form.delim := by
  obtain ⟨form, body, -, hread⟩ := Lexeme.exists_form_of_isQuotation h
  obtain ⟨s, hs, htext, hclosed, -⟩ := Body.exists_doubled form.delim body
  rw [hread] at h ⊢
  cases hb : (Body.quoted form.delim body).closed with
  | false =>
    rw [Body.lexeme, hb] at h
    cases h
  | true =>
    rw [hb] at htext
    rw [Body.lexeme, if_pos hb]
    refine ⟨⟨form, s, hs⟩, ?_, rfl, hclosed hb⟩
    rw [text, htext, if_pos rfl, List.append_assoc, List.singleton_append]

/-- Each quotation is written as one token, and each such token of a source is what exactly one
quotation is written as: nothing is lost on either way, and no delimiter is left behind. -/
theorem lossless :
    (∀ q : Quotation, let source := String.ofList q.text
      Token.readAll source =
          [⟨q.form.kind, ⟨0, source.utf8ByteSize⟩⟩,
            ⟨.eof, ⟨source.utf8ByteSize, source.utf8ByteSize⟩⟩] ∧
        lexicalErrors source = []) ∧
    ∀ source, ∀ t ∈ Token.readAll source, t.kind.isQuotation = true →
      ∃ q : Quotation, (q.text = (t.text source).toList ∧ q.form.kind = t.kind ∧
          ∀ d ∈ (t.beyond source).head?, d ≠ q.form.delim) ∧
        ∀ q' : Quotation, q'.text = (t.text source).toList → q' = q := by
  constructor
  · intro q source
    obtain ⟨c, cs, htext, hc, hread⟩ := q.exists_read none
    have hsource : source.toList = c :: cs := String.toList_ofList.trans htext
    rw [Token.readAll, lexicalErrors, readings_of_lexeme hsource hc hread rfl]
    exact ⟨rfl, rfl⟩
  · intro source t ht hkind
    rcases Token.exists_read ht with ⟨hend, -⟩ | ⟨previous, c, cs, -, hk, htext, hbeyond⟩
    · rw [hend] at hkind
      cases hkind
    · rw [hk] at hkind
      obtain ⟨q, hq, hform, hrest⟩ := exists_of_read hkind
      rw [hk, htext, hbeyond]
      exact ⟨q, ⟨hq, hform, hrest⟩, fun q' hq' => text_injective (hq'.trans hq.symm)⟩

/-- A bit string with a length, a base in both cases and a quotation mark among its digits. -/
theorem lossless_length :
    let source := "12uB\"0\"\"1\" & x"
    let t : Token := ⟨.bitStringLiteral, ⟨0, 10⟩⟩
    (t ∈ Token.readAll source ∧ t.kind.isQuotation = true) ∧
      ∃ q : Quotation, (q.text = (t.text source).toList ∧ q.form.kind = t.kind ∧
          ∀ d ∈ (t.beyond source).head?, d ≠ q.form.delim) ∧
        ∀ q' : Quotation, q'.text = (t.text source).toList → q' = q := by
  intro source t
  have ht : t ∈ Token.readAll source ∧ t.kind.isQuotation = true := by decide +kernel
  exact ⟨ht, lossless.2 source t ht.1 ht.2⟩

end Quotation

end VhdlLayout
