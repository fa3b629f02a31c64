import Mathlib
import VhdlLayout.Proofs.Casing
import VhdlLayout.Proofs.Token.Rereading
import VhdlLayout.Proofs.Token.Tiling
import VhdlLayout.Proofs.Token.Word

/-!
# Lexemes in another case

No function that reads a lexeme looks at the case of a letter: exponents, bases and
reserved words are known in both, and elsewhere a letter counts as a letter only.
And none looks beyond the end of a line, but for block comments: neither a line feed
nor a carriage return goes on with anything.

So let a text be written in another case, and let the end of a line and any text
come behind it (`Casing.respell`). What is read off its front is the same lexeme in
that case (`Lexeme.read_respell`). A text that is not closed on its line is not
closed either way, but it ends at the line feed only, so that a carriage return in
front of that is taken into it.
-/

namespace VhdlLayout

/-! ## Texts -/

/-- The text is empty or begins with the end of a line. -/
inductive IsLineEnd : List Char → Prop
  | nil : IsLineEnd []
  | lf (ds : List Char) : IsLineEnd ('\n' :: ds)
  | crlf (ds : List Char) : IsLineEnd ('\r' :: '\n' :: ds)

theorem IsLineEnd.head?_ne {ds : List Char} (h : IsLineEnd ds) {e : Char} (hlf : e ≠ '\n')
    (hcr : e ≠ '\r') : ∀ d ∈ ds.head?, d ≠ e := by
  cases h with
  | nil => nofun
  | lf | crlf => rintro _ ⟨⟩ rfl; first | exact hlf rfl | exact hcr rfl

namespace Casing

/-- Of basic Latin characters alone it must be looked at whether something depends on case. -/
theorem blind {α : Type*} {f : Char → α}
    (h : ∀ n < 0x80, f (Char.ofNat n).toLower = f (Char.ofNat n)) (casing : Casing) (c : Char) :
    f (casing.letter c) = f c := by
  have lower (c : Char) : f c.toLower = f c := by
    by_cases hc : c.toNat < 0x80
    · rw [← Char.ofNat_toNat c]
      exact h c.toNat hc
    · rw [Unicode.toLower_of_le (Nat.not_lt.1 hc)]
  rw [← lower, toLower_letter, lower]

/-- The text in the chosen case, with `ds` behind it. -/
def respell (casing : Casing) (ds cs : List Char) : List Char := cs.map casing.letter ++ ds

variable {casing : Casing} {cs ds : List Char} {e : Char} {p : Char → Bool}

theorem respell_nil (casing : Casing) (ds : List Char) : casing.respell ds [] = ds := rfl

theorem respell_cons (casing : Casing) (ds : List Char) (c : Char) (cs : List Char) :
    casing.respell ds (c :: cs) = casing.letter c :: casing.respell ds cs := rfl

theorem respell_append (casing : Casing) (ds cs cs' : List Char) :
    casing.respell ds (cs ++ cs') = cs.map casing.letter ++ casing.respell ds cs' := by
  rw [respell, List.map_append, List.append_assoc, respell]

/-- The property depends on no case, and no character that ends a line has it. -/
structure IsInline (casing : Casing) (q : Char → Prop) : Prop where
  letter (c : Char) : q (casing.letter c) ↔ q c
  lf : ¬ q '\n'
  cr : ¬ q '\r'

theorem isInline_eq (casing : Casing) (he : e.isAlpha = false) (hlf : e ≠ '\n') (hcr : e ≠ '\r') :
    casing.IsInline (· = e) := ⟨fun _ => casing.letter_eq_iff he, hlf.symm, hcr.symm⟩

/-- A character with such a property stands in front only if one did so before. -/
theorem respell_eq_cons (hds : IsLineEnd ds) {q : Char → Prop} (hq : casing.IsInline q) {d : Char}
    {ds' : List Char} (h : casing.respell ds cs = d :: ds') (hd : q d) :
    ∃ c cs', cs = c :: cs' ∧ casing.letter c = d ∧ q c ∧ casing.respell ds cs' = ds' := by
  cases cs with
  | nil =>
    rw [respell_nil] at h
    cases hds <;> cases h
    · exact absurd hd hq.lf
    · exact absurd hd hq.cr
  | cons c cs =>
    obtain ⟨rfl, hnext⟩ := List.cons.inj h
    exact ⟨c, cs, rfl, rfl, (hq.letter c).1 hd, hnext⟩

theorem head?_respell_ne (hds : IsLineEnd ds) (he : e.isAlpha = false) (hlf : e ≠ '\n')
    (hcr : e ≠ '\r') (h : ∀ c ∈ cs.head?, c ≠ e) : ∀ c ∈ (casing.respell ds cs).head?, c ≠ e := by
  cases cs with
  | nil => exact hds.head?_ne hlf hcr
  | cons c cs =>
    rintro _ ⟨⟩
    exact mt (casing.letter_eq_iff he).1 (h c rfl)

theorem takeWhile_respell (hds : IsLineEnd ds) (hp : ∀ c, p (casing.letter c) = p c)
    (hlf : p '\n' = false) (hcr : p '\r' = false) (cs : List Char) :
    (casing.respell ds cs).takeWhile p = (cs.takeWhile p).map casing.letter := by
  induction cs with
  | nil => cases hds <;> simp [respell_nil, hlf, hcr]
  | cons c cs ih =>
    rw [respell_cons, List.takeWhile_cons, List.takeWhile_cons, hp, ih]
    split <;> rfl

theorem dropWhile_respell (hds : IsLineEnd ds) (hp : ∀ c, p (casing.letter c) = p c)
    (hlf : p '\n' = false) (hcr : p '\r' = false) (cs : List Char) :
    (casing.respell ds cs).dropWhile p = casing.respell ds (cs.dropWhile p) := by
  induction cs with
  | nil => cases hds <;> simp [respell_nil, hlf, hcr]
  | cons c cs ih =>
    rw [respell_cons, List.dropWhile_cons, List.dropWhile_cons, hp, ih]
    split <;> rfl

end Casing

theorem isDigit_letter (casing : Casing) (c : Char) : (casing.letter c).isDigit = c.isDigit :=
  Casing.blind (by decide) casing c

theorem isDigitPart_letter (casing : Casing) (c : Char) :
    isDigitPart (casing.letter c) = isDigitPart c := Casing.blind (by decide) casing c

theorem isHexPart_letter (casing : Casing) (c : Char) :
    isHexPart (casing.letter c) = isHexPart c := Casing.blind (by decide) casing c

theorem isAlphabetic_letter (casing : Casing) (c : Char) :
    Unicode.isAlphabetic (casing.letter c) = Unicode.isAlphabetic c :=
  Casing.blind (by decide) casing c

theorem isWordPart_letter (casing : Casing) (c : Char) :
    isWordPart (casing.letter c) = isWordPart c := Casing.blind (by decide) casing c

theorem endsLine_letter (casing : Casing) (c : Char) : endsLine (casing.letter c) = endsLine c :=
  Casing.blind (by decide) casing c

theorem isInline_digit (casing : Casing) : casing.IsInline (·.isDigit = true) where
  letter c := by rw [isDigit_letter]
  lf := by decide
  cr := by decide

theorem isInline_exponent (casing : Casing) : casing.IsInline fun c => c = 'e' ∨ c = 'E' where
  letter c := decide_eq_decide.1 <|
    Casing.blind (f := fun c => decide (c = 'e' ∨ c = 'E')) (by decide) casing c
  lf := by decide
  cr := by decide

theorem isInline_sign (casing : Casing) : casing.IsInline fun c => c = '+' ∨ c = '-' where
  letter c := or_congr (casing.letter_eq_iff rfl) (casing.letter_eq_iff rfl)
  lf := by decide
  cr := by decide

/-! ## Lexemes -/

/-- The fault with the text it tells in the chosen case. -/
def Fault.recased (casing : Casing) : Fault → Fault
  | .unexpectedCharacter c => .unexpectedCharacter (casing.letter c)
  | .invalidBasedLiteral text => .invalidBasedLiteral (casing.apply text)
  | fault => fault

/-- The text comes to an end before it is closed. -/
def Fault.isOpen : Fault → Bool
  | .unterminatedString | .unterminatedBlockComment | .unterminatedExtendedIdentifier => true
  | _ => false

theorem Fault.recased_of_isOpen {fault : Fault} (h : fault.isOpen = true) (casing : Casing) :
    fault.recased casing = fault := by
  cases fault <;> first | rfl | cases h

/-- The lexeme is a text that is not closed. -/
def Lexeme.isOpen (l : Lexeme) : Bool := l.fault.any Fault.isOpen

/-- The lexeme and the text behind it in the chosen case, with `ds` behind that. -/
def Lexeme.recased (casing : Casing) (ds : List Char) (l : Lexeme) : Lexeme where
  kind := l.kind
  text := l.text.map casing.letter
  rest := casing.respell ds l.rest
  fault := l.fault.map (Fault.recased casing)

/-- The second lexeme is the first one in the chosen case. Only if the first one is not closed where
its text ends, the second one has a carriage return as well that comes behind. -/
def Lexeme.IsRecased (casing : Casing) (ds : List Char) (l l' : Lexeme) : Prop :=
  l' = l.recased casing ds ∨ ∃ es, ds = '\r' :: es ∧ l.isOpen = true ∧ l.rest = [] ∧
    l' = { l.recased casing es with text := l.text.map casing.letter ++ ['\r'] }

theorem utf8Size_letter (casing : Casing) (c : Char) : (casing.letter c).utf8Size = c.utf8Size :=
  Casing.blind (by decide) casing c

theorem byteLength_map_letter (casing : Casing) (cs : List Char) :
    byteLength (cs.map casing.letter) = byteLength cs := by
  induction cs with
  | nil => rfl
  | cons c cs ih => rw [List.map_cons, byteLength_cons, byteLength_cons, utf8Size_letter, ih]

theorem ofList_map_letter (casing : Casing) (cs : List Char) :
    String.ofList (cs.map casing.letter) = casing.apply (String.ofList cs) := by
  apply String.toList_injective
  rw [String.toList_ofList, casing.toList_apply, String.toList_ofList]

variable {casing : Casing} {ds : List Char}

/-! ## Quoted bodies -/

namespace Body

/-- The body in the chosen case, with `ds` behind what follows it. -/
def recased (casing : Casing) (ds : List Char) (b : Body) : Body :=
  ⟨b.text.map casing.letter, b.closed, casing.respell ds b.rest⟩

/-- The second body is the first one in the chosen case. Only if the first one is not closed where
its text ends, the second one has a carriage return as well that comes behind. -/
def IsRecased (casing : Casing) (ds : List Char) (b b' : Body) : Prop :=
  b' = b.recased casing ds ∨ ∃ es, ds = '\r' :: es ∧ b.closed = false ∧ b.rest = [] ∧
    b' = ⟨b.text.map casing.letter ++ ['\r'], false, es⟩

theorem IsRecased.prepend {b b' : Body} (h : b.IsRecased casing ds b') (cs : List Char) :
    (b.prepend cs).IsRecased casing ds (b'.prepend (cs.map casing.letter)) := by
  rcases h with rfl | ⟨es, hds, hb, hrest, rfl⟩
  · exact .inl (by simp [recased, Body.prepend])
  · exact .inr ⟨es, hds, hb, hrest, by simp [Body.prepend]⟩

theorem IsRecased.lexeme {b b' : Body} (h : b.IsRecased casing ds b') (lead : List Char)
    (kind : Kind) {fault : Fault} (hopen : fault.isOpen = true) :
    (b.lexeme lead kind fault).IsRecased casing ds
      (b'.lexeme (lead.map casing.letter) kind fault) := by
  have hfault := Fault.recased_of_isOpen hopen casing
  rcases h with rfl | ⟨es, hds, hb, hrest, rfl⟩
  · refine .inl ?_
    rw [Body.lexeme, Body.lexeme]
    cases hclosed : b.closed <;> simp [recased, hclosed, Lexeme.recased, hfault]
  · refine .inr ⟨es, hds, ?_, ?_, ?_⟩
    · simpa [Body.lexeme, hb, Lexeme.isOpen] using hopen
    · simp [Body.lexeme, hb, hrest]
    · simp [Body.lexeme, hb, hrest, Lexeme.recased, Casing.respell_nil, hfault]

variable (casing)

/-- A quoted body is closed, or not, by the same delimiter. -/
theorem quoted_respell {delim : Char} (hds : IsLineEnd ds) (hdelim : delim.isAlpha = false)
    (hcr : delim ≠ '\r') (cs : List Char) :
    (quoted delim cs).IsRecased casing ds (quoted delim (casing.respell ds cs)) := by
  have hsame : casing.letter delim = delim := casing.letter_of_isAlpha_eq_false hdelim
  fun_induction quoted delim cs with
  | case1 =>
    rw [Casing.respell_nil]
    cases hds with
    | nil => exact .inl rfl
    | lf => exact .inl (quoted_of_isBreak delim (by rintro _ ⟨⟩; rfl))
    | crlf =>
      -- The carriage return is taken into the body before the line ends.
      refine .inr ⟨_, rfl, rfl, rfl, ?_⟩
      rw [quoted_cons (by decide) hcr.symm, quoted_of_isBreak delim (by rintro _ ⟨⟩; rfl)]
      rfl
  | case2 cs =>
    have hline : casing.letter '\n' = '\n' := casing.letter_of_isAlpha_eq_false rfl
    rw [Casing.respell_cons, hline, quoted_of_isBreak delim (by rintro _ ⟨⟩; rfl)]
    exact .inl (by rw [recased, Casing.respell_cons, hline]; rfl)
  | case3 hline =>
    rw [Casing.respell_cons, Casing.respell_nil, hsame,
      quoted_close hline (hds.head?_ne hline hcr)]
    exact .inl (by rw [recased, List.map_singleton, hsame]; rfl)
  | case4 cs hline ih =>
    have := ih.prepend [delim, delim]
    rw [Casing.respell_cons, Casing.respell_cons, hsame, quoted_double hline]
    rwa [List.map_cons, List.map_singleton, hsame] at this
  | case5 d cs hd hline =>
    have hother : casing.letter d ≠ delim := mt (casing.letter_eq_iff hdelim).1 hd
    rw [Casing.respell_cons, hsame, quoted_close hline (by rintro _ ⟨⟩; exact hother)]
    exact .inl (by rw [recased, List.map_singleton, hsame])
  | case6 c cs hline hd ih =>
    rw [Casing.respell_cons, quoted_cons (mt (casing.letter_eq_iff rfl).1 hline)
      (mt (casing.letter_eq_iff hdelim).1 hd)]
    exact ih.prepend [c]

/-- The lexeme with a quoted body is closed, or malformed, in any case. -/
theorem lexeme_quoted_respell {delim : Char} (hds : IsLineEnd ds) (hdelim : delim.isAlpha = false)
    (hcr : delim ≠ '\r') (lead : List Char) (kind : Kind) {fault : Fault}
    (hopen : fault.isOpen = true) (cs : List Char) :
    ((quoted delim cs).lexeme lead kind fault).IsRecased casing ds
      ((quoted delim (casing.respell ds cs)).lexeme (lead.map casing.letter) kind fault) :=
  (quoted_respell casing hds hdelim hcr cs).lexeme lead kind hopen

theorem lexeme_delimited_respell {delim : Char} (hds : IsLineEnd ds)
    (hdelim : delim.isAlpha = false) (hcr : delim ≠ '\r') (kind : Kind) {fault : Fault}
    (hopen : fault.isOpen = true) (cs : List Char) :
    ((quoted delim cs).lexeme [delim] kind fault).IsRecased casing ds
      ((quoted delim (casing.respell ds cs)).lexeme [delim] kind fault) := by
  have hlexeme := lexeme_quoted_respell casing hds hdelim hcr [delim] kind hopen cs
  rwa [List.map_singleton, casing.letter_of_isAlpha_eq_false hdelim] at hlexeme

/-- A block comment is closed, or not, by the same mark. -/
theorem blockComment_respell (cs : List Char) :
    blockComment (casing.respell [] cs) = (blockComment cs).recased casing [] := by
  have hstar : casing.letter '*' = '*' := casing.letter_of_isAlpha_eq_false rfl
  have hslash : casing.letter '/' = '/' := casing.letter_of_isAlpha_eq_false rfl
  fun_induction blockComment cs with
  | case1 => rfl
  | case2 =>
    rw [Casing.respell_cons, Casing.respell_cons, hstar, hslash, recased, List.map_cons,
      List.map_singleton, hstar, hslash]
    rfl
  | case3 c cs hno ih =>
    have hmark : casing.letter c = '*' → ∀ d ∈ (casing.respell [] cs).head?, d ≠ '/' := fun hc =>
      Casing.head?_respell_ne .nil rfl (by decide) (by decide) fun d hd => by
        rintro rfl
        obtain ⟨rest, hrest⟩ := List.head?_eq_some_iff.1 hd
        exact hno rest ((casing.letter_eq_iff rfl).1 hc) hrest
    rw [Casing.respell_cons, blockComment_cons hmark, ih]
    rfl

end Body

/-! ## Numbers -/

variable (casing)

theorem exponent_respell (hds : IsLineEnd ds) (cs : List Char) :
    exponent (casing.respell ds cs) =
      ((exponent cs).1.map casing.letter, casing.respell ds (exponent cs).2) := by
  have takes (cs : List Char) := Casing.takeWhile_respell hds (isDigitPart_letter casing) rfl rfl cs
  have drops (cs : List Char) := Casing.dropWhile_respell hds (isDigitPart_letter casing) rfl rfl cs
  have hopen := isInline_exponent casing
  have hsign := isInline_sign casing
  have hdigit := isInline_digit casing
  rcases exponent_cases cs with hnone | ⟨e, s, cs, rfl, he, hs⟩ | ⟨e, s, d, cs, rfl, he, hs, hd⟩
  · -- Where there is no exponent, the end of the line makes none.
    rw [hnone]
    rcases exponent_cases (casing.respell ds cs) with
      hnone' | ⟨e, s, cs', h, he, hs⟩ | ⟨e, s, d, cs', h, he, hs, hd⟩
    · exact hnone'
    · obtain ⟨e, cs, rfl, -, he, hnext⟩ := Casing.respell_eq_cons hds hopen h he
      obtain ⟨s, cs, rfl, -, hs, -⟩ := Casing.respell_eq_cons hds hdigit hnext hs
      rw [exponent_digit he hs] at hnone
      cases hnone
    · obtain ⟨e, cs, rfl, -, he, hnext⟩ := Casing.respell_eq_cons hds hopen h he
      obtain ⟨s, cs, rfl, -, hs, hlast⟩ := Casing.respell_eq_cons hds hsign hnext hs
      obtain ⟨d, cs, rfl, -, hd, -⟩ := Casing.respell_eq_cons hds hdigit hlast hd
      rw [exponent_signed he hs hd] at hnone
      cases hnone
  · rw [Casing.respell_cons, Casing.respell_cons, exponent_digit he hs,
      exponent_digit ((hopen.letter e).2 he) ((hdigit.letter s).2 hs), takes, drops]
    rfl
  · rw [Casing.respell_cons, Casing.respell_cons, Casing.respell_cons, exponent_signed he hs hd,
      exponent_signed ((hopen.letter e).2 he) ((hsign.letter s).2 hs) ((hdigit.letter d).2 hd),
      takes, drops]
    rfl

theorem withExponent_respell (hds : IsLineEnd ds) (kind : Kind) (text cs : List Char) :
    withExponent kind (text.map casing.letter) (casing.respell ds cs) =
      (withExponent kind text cs).recased casing ds := by
  simp [withExponent, exponent_respell casing hds, Lexeme.recased]

theorem closeBased_respell (hds : IsLineEnd ds) (kind : Kind) (text cs : List Char) :
    closeBased kind (text.map casing.letter) (casing.respell ds cs) =
      (closeBased kind text cs).recased casing ds := by
  rcases eq_cons_or_head?_ne '#' cs with ⟨rest, rfl⟩ | hcs
  · have hmark : casing.letter '#' = '#' := casing.letter_of_isAlpha_eq_false rfl
    have := withExponent_respell casing hds kind (text ++ ['#']) rest
    rw [List.map_append, List.map_singleton, hmark] at this
    rwa [Casing.respell_cons, hmark]
  · rw [closeBased_of_head?_ne kind text hcs, closeBased_of_head?_ne kind _
      (Casing.head?_respell_ne hds rfl (by decide) (by decide) hcs), Lexeme.recased]
    simp [Fault.recased, ofList_map_letter]

theorem basedTail_respell (hds : IsLineEnd ds) (digits cs : List Char) :
    basedTail (digits.map casing.letter) (casing.respell ds cs) =
      (basedTail digits cs).recased casing ds := by
  rcases eq_cons_or_head?_ne '.' cs with ⟨rest, rfl⟩ | hcs
  · have hpoint : casing.letter '.' = '.' := casing.letter_of_isAlpha_eq_false rfl
    have := closeBased_respell casing hds .realLiteral
      (digits ++ '.' :: rest.takeWhile isHexPart) (rest.dropWhile isHexPart)
    rw [List.map_append, List.map_cons, hpoint,
      ← Casing.takeWhile_respell hds (isHexPart_letter casing) rfl rfl,
      ← Casing.dropWhile_respell hds (isHexPart_letter casing) rfl rfl] at this
    rwa [Casing.respell_cons, hpoint]
  · rw [basedTail_of_head?_ne digits hcs, basedTail_of_head?_ne _
      (Casing.head?_respell_ne hds rfl (by decide) (by decide) hcs), closeBased_respell casing hds]

theorem decimal_respell (hds : IsLineEnd ds) (digits cs : List Char) :
    decimal (digits.map casing.letter) (casing.respell ds cs) =
      (decimal digits cs).recased casing ds := by
  have hpoint : casing.letter '.' = '.' := casing.letter_of_isAlpha_eq_false rfl
  by_cases hfraction : ∃ d rest, cs = '.' :: d :: rest ∧ d.isDigit = true
  · obtain ⟨d, rest, rfl, hd⟩ := hfraction
    have := withExponent_respell casing hds .realLiteral
      (digits ++ '.' :: d :: rest.takeWhile isDigitPart) (rest.dropWhile isDigitPart)
    rw [List.map_append, List.map_cons, List.map_cons, hpoint,
      ← Casing.takeWhile_respell hds (isDigitPart_letter casing) rfl rfl,
      ← Casing.dropWhile_respell hds (isDigitPart_letter casing) rfl rfl] at this
    rw [Casing.respell_cons, Casing.respell_cons, hpoint, decimal_fraction digits hd,
      decimal_fraction _ ((isDigit_letter casing d).trans hd), this]
  · rw [(decimal_cases digits cs).resolve_left hfraction, ← withExponent_respell casing hds]
    refine (decimal_cases _ _).resolve_left ?_
    rintro ⟨d, rest, h, hd⟩
    obtain ⟨_, cs, rfl, -, rfl, hnext⟩ :=
      Casing.respell_eq_cons hds (casing.isInline_eq rfl (by decide) (by decide)) h rfl
    obtain ⟨d, cs, rfl, -, hd, -⟩ := Casing.respell_eq_cons hds (isInline_digit casing) hnext hd
    exact hfraction ⟨d, cs, rfl, hd⟩

theorem isBaseSpecifier_map_letter (cs : List Char) :
    isBaseSpecifier (cs.map casing.letter) = isBaseSpecifier cs := by
  rw [isBaseSpecifier, List.map_map, isBaseSpecifier]
  congr 2
  exact funext casing.toLower_letter

theorem isInline_baseInitial :
    casing.IsInline (·.toLower ∈ baseInitials) where
  letter c := by rw [casing.toLower_letter]
  lf := by decide
  cr := by decide

theorem isInline_baseEnd (a : Char) :
    casing.IsInline fun b => isBaseSpecifier [a, b] = true where
  letter b := by rw [isBaseSpecifier, isBaseSpecifier]; simp [casing.toLower_letter]
  lf := by simp [isBaseSpecifier, baseSpecifiers]
  cr := by simp [isBaseSpecifier, baseSpecifiers]

theorem sizedBase?_respell (hds : IsLineEnd ds) (cs : List Char) :
    sizedBase? (casing.respell ds cs) =
      (sizedBase? cs).map fun (base, body) => (base.map casing.letter, casing.respell ds body) := by
  have hquote : casing.letter '"' = '"' := casing.letter_of_isAlpha_eq_false rfl
  have hinitial := isInline_baseInitial casing
  have hmark : casing.IsInline (· = '"') := casing.isInline_eq rfl (by decide) (by decide)
  rcases sizedBase?_cases cs with hnone | ⟨a, rest, rfl, ha⟩ | ⟨a, b, rest, rfl, hab⟩
  · -- No base and no quote begins with the end of a line, so there is none behind it either.
    rw [hnone]
    rcases sizedBase?_cases (casing.respell ds cs) with
      hnone' | ⟨_, rest, h, ha⟩ | ⟨_, _, rest, h, hab⟩
    · exact hnone'
    · obtain ⟨a, cs, rfl, rfl, -, hnext⟩ :=
        Casing.respell_eq_cons hds hinitial h (toLower_mem_of_isBaseSpecifier ha)
      obtain ⟨_, cs, rfl, -, rfl, -⟩ := Casing.respell_eq_cons hds hmark hnext rfl
      rw [← List.map_singleton, isBaseSpecifier_map_letter] at ha
      rw [sizedBase?_one ha] at hnone
      cases hnone
    · obtain ⟨a, cs, rfl, rfl, -, hnext⟩ :=
        Casing.respell_eq_cons hds hinitial h (toLower_mem_of_isBaseSpecifier hab)
      obtain ⟨b, cs, rfl, rfl, -, hlast⟩ :=
        Casing.respell_eq_cons hds (isInline_baseEnd casing _) hnext hab
      obtain ⟨_, cs, rfl, -, rfl, -⟩ := Casing.respell_eq_cons hds hmark hlast rfl
      have hab' := isBaseSpecifier_map_letter casing [a, b]
      rw [sizedBase?_two (hab'.symm.trans hab)] at hnone
      cases hnone
  · have ha' := (isBaseSpecifier_map_letter casing [a]).trans ha
    rw [Casing.respell_cons, Casing.respell_cons, hquote, sizedBase?_one ha, sizedBase?_one ha']
    simp [hquote]
  · have hab' := (isBaseSpecifier_map_letter casing [a, b]).trans hab
    rw [Casing.respell_cons, Casing.respell_cons, Casing.respell_cons, hquote, sizedBase?_two hab,
      sizedBase?_two hab']
    simp [hquote]

/-- A number is one in any case, and does not go beyond its line. -/
theorem numberTail_respell (hds : IsLineEnd ds) (digits cs : List Char) :
    (numberTail digits cs).IsRecased casing ds
      (numberTail (digits.map casing.letter) (casing.respell ds cs)) := by
  rcases eq_cons_or_head?_ne '#' cs with ⟨rest, rfl⟩ | hcs
  · have hmark : casing.letter '#' = '#' := casing.letter_of_isAlpha_eq_false rfl
    have := basedTail_respell casing hds (digits ++ '#' :: rest.takeWhile isHexPart)
      (rest.dropWhile isHexPart)
    rw [List.map_append, List.map_cons, hmark,
      ← Casing.takeWhile_respell hds (isHexPart_letter casing) rfl rfl,
      ← Casing.dropWhile_respell hds (isHexPart_letter casing) rfl rfl] at this
    rw [Casing.respell_cons, hmark]
    exact .inl this
  · rw [numberTail_of_head?_ne digits hcs, numberTail_of_head?_ne _
      (Casing.head?_respell_ne hds rfl (by decide) (by decide) hcs), sizedBase?_respell casing hds]
    cases hbase : sizedBase? cs with
    | none => exact .inl (decimal_respell casing hds digits cs)
    | some entry =>
      obtain ⟨base, body⟩ := entry
      dsimp only [Option.map_some]
      rw [← List.map_append]
      exact Body.lexeme_quoted_respell casing hds rfl (by decide) _ _ rfl body

theorem number_respell (hds : IsLineEnd ds) (c : Char) (cs : List Char) :
    (number c cs).IsRecased casing ds
      (number (casing.letter c) (casing.respell ds cs)) := by
  rw [number, number, Casing.takeWhile_respell hds (isDigitPart_letter casing) rfl rfl,
    Casing.dropWhile_respell hds (isDigitPart_letter casing) rfl rfl]
  exact numberTail_respell casing hds _ _

namespace Lexeme

/-! ## Words -/

theorem ofString?_apply (text : String) :
    Word.ofString? (casing.apply text) = Word.ofString? text := by
  rw [Word.ofString?, utf8ByteSize_eq_byteLength, casing.toList_apply, byteLength_map_letter,
    ← utf8ByteSize_eq_byteLength, casing.toLower_apply, Word.ofString?]

theorem ofWord_respell (ds text rest : List Char) :
    ofWord (text.map casing.letter) (casing.respell ds rest) =
      (ofWord text rest).recased casing ds := by
  rw [ofWord, ofList_map_letter, ofString?_apply, ofWord]
  cases Word.ofString? (String.ofList text) <;> rfl

theorem ofRun_respell (hds : IsLineEnd ds) (text cs : List Char) :
    (ofRun text cs).IsRecased casing ds
      (ofRun (text.map casing.letter) (casing.respell ds cs)) := by
  rcases eq_cons_or_head?_ne '"' cs with ⟨rest, rfl⟩ | hcs
  · have hquote : casing.letter '"' = '"' := casing.letter_of_isAlpha_eq_false rfl
    have hword := ofWord_respell casing ds text ('"' :: rest)
    rw [Casing.respell_cons, hquote] at hword ⊢
    rw [ofRun, ofRun, isBaseSpecifier_map_letter]
    split
    · have hlexeme := Body.lexeme_quoted_respell casing hds (show '"'.isAlpha = false from rfl)
        (by decide) (text ++ ['"']) .bitStringLiteral
        (show Fault.unterminatedString.isOpen = true from rfl) rest
      rwa [List.map_append, List.map_singleton, hquote] at hlexeme
    · exact .inl hword
  · rw [ofRun_of_head?_ne text hcs,
      ofRun_of_head?_ne _ (Casing.head?_respell_ne hds rfl (by decide) (by decide) hcs)]
    exact .inl (ofWord_respell casing ds text cs)

theorem word_respell (hds : IsLineEnd ds) (c : Char) (cs : List Char) :
    (word c cs).IsRecased casing ds (word (casing.letter c) (casing.respell ds cs)) := by
  have hcr : isWordPart '\r' = false := by decide
  rw [word, word, Casing.takeWhile_respell hds (isWordPart_letter casing) isWordPart_newLine hcr,
    Casing.dropWhile_respell hds (isWordPart_letter casing) isWordPart_newLine hcr]
  exact ofRun_respell casing hds _ _

/-! ## Ticks and characters -/

/-- An apostrophe is a tick unless a character and another apostrophe follow on the line. -/
theorem apostrophe_eq_tick {previous : Option Kind} {cs : List Char}
    (h : ∀ c rest, cs = c :: '\'' :: rest → c = '\n' ∨ previous.any Kind.endsName) :
    apostrophe previous cs = { kind := .delimiter .tick, text := ['\''], rest := cs } := by
  fun_cases apostrophe previous cs with
  | case1 | case3 => rfl
  | case2 c rest hc => exact absurd (h c rest rfl) hc

theorem apostrophe_respell (hds : IsLineEnd ds) (previous : Option Kind) (cs : List Char) :
    apostrophe previous (casing.respell ds cs) =
      (apostrophe previous cs).recased casing ds := by
  have hquote : casing.letter '\'' = '\'' := casing.letter_of_isAlpha_eq_false rfl
  have hline {c : Char} : casing.letter c = '\n' ↔ c = '\n' := casing.letter_eq_iff rfl
  by_cases h : ∃ c rest, cs = c :: '\'' :: rest ∧ ¬(c = '\n' ∨ previous.any Kind.endsName)
  · obtain ⟨c, rest, rfl, hc⟩ := h
    have hc' : ¬(casing.letter c = '\n' ∨ previous.any Kind.endsName) := by rwa [hline]
    rw [Casing.respell_cons, Casing.respell_cons, hquote, apostrophe, apostrophe, if_neg hc,
      if_neg hc']
    simp [recased, hquote]
  · have htick : ∀ c rest, cs = c :: '\'' :: rest → c = '\n' ∨ previous.any Kind.endsName :=
      fun c rest hcs => by_contra fun hc => h ⟨c, rest, hcs, hc⟩
    rw [apostrophe_eq_tick htick, apostrophe_eq_tick]
    · simp [recased, hquote]
    intro c rest hcs
    cases cs with
    | nil =>
      -- Not even an apostrophe behind the line feed makes a character of it.
      rw [Casing.respell_nil] at hcs
      cases hds <;> cases hcs
      exact .inl rfl
    | cons d ds =>
      obtain ⟨rfl, hnext⟩ := List.cons.inj hcs
      obtain ⟨_, rest, rfl, -, rfl, -⟩ := Casing.respell_eq_cons hds
        (casing.isInline_eq rfl (by decide) (by decide)) hnext rfl
      rw [hline]
      exact htick d rest rfl

/-! ## Marks -/

theorem isPrefixOf_respell (hds : IsLineEnd ds) {xs : List Char}
    (hxs : ∀ x ∈ xs, casing.IsInline (· = x)) (cs : List Char) :
    xs.isPrefixOf (casing.respell ds cs) = xs.isPrefixOf cs := by
  induction xs generalizing cs with
  | nil => rfl
  | cons x xs ih =>
    obtain ⟨hx, hxs⟩ := List.forall_mem_cons.1 hxs
    cases cs with
    | nil =>
      rw [Casing.respell_nil, Bool.eq_iff_iff, List.isPrefixOf_iff_prefix]
      refine iff_of_false (fun ⟨rest, h⟩ => ?_) (by simp)
      have hline : casing.respell ds [] = x :: (xs ++ rest) := h.symm
      obtain ⟨_, _, hnil, -⟩ := Casing.respell_eq_cons hds hx hline rfl
      cases hnil
    | cons c cs =>
      rw [Casing.respell_cons, List.isPrefixOf_cons_cons, List.isPrefixOf_cons_cons, ih hxs,
        Bool.beq_comm, Bool.beq_comm (a := x)]
      congr 1
      exact Bool.eq_iff_iff.2 (by simpa using hx.letter c)

theorem isInline_of_mem_spelling {entry : List Char × Delimiter}
    (h : entry ∈ Delimiter.spellings) : ∀ x ∈ entry.1, casing.IsInline (· = x) := by
  have marks : Delimiter.spellings.all fun entry =>
      entry.1.all fun x => !x.isAlpha && x != '\n' && x != '\r' := by decide
  intro x hx
  have hmark := List.all_eq_true.1 (List.all_eq_true.1 marks entry h) x hx
  simp only [Bool.and_eq_true, Bool.not_eq_true', bne_iff_ne] at hmark
  exact casing.isInline_eq hmark.1.1 hmark.1.2 hmark.2

theorem read?_respell (hds : IsLineEnd ds) (cs : List Char) :
    Delimiter.read? (casing.respell ds cs) = Delimiter.read? cs := by
  rw [Delimiter.read?, Delimiter.read?]
  refine List.find?_congr fun entry hentry => ?_
  exact isPrefixOf_respell casing hds (isInline_of_mem_spelling casing hentry) cs

theorem map_letter_spelling {entry : List Char × Delimiter} (h : entry ∈ Delimiter.spellings) :
    entry.1.map casing.letter = entry.1 := by
  conv_rhs => rw [← List.map_id entry.1]
  exact List.map_congr_left fun x hx =>
    ((isInline_of_mem_spelling casing h x hx).letter x).2 rfl

/-- A mark is the same one in any case and before the end of a line, unless it opens a block comment
that may go on behind the line. -/
theorem mark_respell (hds : IsLineEnd ds) {c : Char} {cs : List Char}
    (hblock : ds = [] ∨ ¬(c = '/' ∧ ∃ rest, cs = '*' :: rest)) :
    (mark c cs).IsRecased casing ds (mark (casing.letter c) (casing.respell ds cs)) := by
  have same {e : Char} (he : e.isAlpha = false) : casing.letter e = e :=
    casing.letter_of_isAlpha_eq_false he
  rcases mark_cases c cs with ⟨rest, rfl, rfl⟩ | ⟨rest, rfl, rfl⟩ | ⟨hdash, hslash⟩
  · have hline (c : Char) : (!endsLine (casing.letter c)) = !endsLine c := by rw [endsLine_letter]
    rw [Casing.respell_cons, same rfl, mark_dashes, mark_dashes,
      Casing.takeWhile_respell hds hline rfl rfl, Casing.dropWhile_respell hds hline rfl rfl]
    refine .inl ?_
    rw [recased, List.map_cons, List.map_cons, same rfl]
    rfl
  · obtain rfl := hblock.resolve_right fun h => h ⟨rfl, rest, rfl⟩
    have hbody : (Body.blockComment rest).IsRecased casing []
        (Body.blockComment (casing.respell [] rest)) := .inl (Body.blockComment_respell casing rest)
    have hlexeme := hbody.lexeme ['/', '*'] .comment
      (show Fault.unterminatedBlockComment.isOpen = true from rfl)
    rw [List.map_cons, List.map_singleton, same rfl, same rfl] at hlexeme
    rwa [Casing.respell_cons, same rfl, same rfl, mark_slash_star, mark_slash_star]
  · rw [mark_of_head?_ne hdash hslash, mark_of_head?_ne
      (fun hc => Casing.head?_respell_ne hds rfl (by decide) (by decide)
        (hdash ((casing.letter_eq_iff rfl).1 hc)))
      (fun hc => Casing.head?_respell_ne hds rfl (by decide) (by decide)
        (hslash ((casing.letter_eq_iff rfl).1 hc))),
      ← Casing.respell_cons, read?_respell casing hds]
    refine .inl ?_
    cases hread : Delimiter.read? (c :: cs) with
    | none => rfl
    | some entry =>
      obtain ⟨rest, hrest⟩ := Delimiter.read?_prefix hread
      have htext := map_letter_spelling casing (List.mem_of_find?_eq_some hread)
      have hdrop : (casing.respell ds (c :: cs)).drop entry.1.length =
          casing.respell ds ((c :: cs).drop entry.1.length) := by
        rw [← hrest, Casing.respell_append, htext, List.drop_left, List.drop_left]
      simp only [recased, hdrop, htext, Option.map_none]

/-- *Lexemes are the same in any case*, and before the end of a line, but for the carriage return that
a text takes which is not closed on its line. A block comment may go on behind the line. -/
theorem read_respell (hds : IsLineEnd ds) (previous : Option Kind) {c : Char} {cs : List Char}
    (hblock : ds = [] ∨ ¬(c = '/' ∧ ∃ rest, cs = '*' :: rest)) :
    (read previous c cs).IsRecased casing ds
      (read previous (casing.letter c) (casing.respell ds cs)) := by
  have same {e : Char} (he : e.isAlpha = false) : casing.letter e = e :=
    casing.letter_of_isAlpha_eq_false he
  -- The first character tells which function reads the lexeme, in either case the same one.
  by_cases hquote : c = '\''
  · subst hquote
    rw [same rfl]
    exact .inl (apostrophe_respell casing hds previous cs)
  by_cases hstring : c = '"'
  · subst hstring
    rw [same rfl]
    exact Body.lexeme_delimited_respell casing hds rfl (by decide) .stringLiteral rfl cs
  by_cases hextended : c = '\\'
  · subst hextended
    rw [same rfl]
    exact Body.lexeme_delimited_respell casing hds rfl (by decide) .extendedIdent rfl cs
  have other {e : Char} (he : e.isAlpha = false) (h : c ≠ e) : casing.letter c ≠ e :=
    mt (casing.letter_eq_iff he).1 h
  rw [read, if_neg hquote, if_neg hstring, if_neg hextended, read, if_neg (other rfl hquote),
    if_neg (other rfl hstring), if_neg (other rfl hextended), isDigit_letter, isAlphabetic_letter]
  split
  · exact number_respell casing hds c cs
  · split
    · exact word_respell casing hds c cs
    · exact mark_respell casing hds hblock

end Lexeme

end VhdlLayout
