import Mathlib
import VhdlLayout.Token.Lexeme

/-!
# Lexemes read again

Where a lexeme ends may depend on what follows it: a word goes on as long as
letters do, a number looks for an exponent, a quotation mark for a second one.
A new line settles all these questions. So a lexeme is the same one if it is
read again with nothing behind it, or with a new line and anything else behind
that (`Lexeme.read_append_break`). Only a block comment that is not closed would
go on; but nothing followed it in the first place.

The proof goes along the functions that read a lexeme. Each takes some text off
the front (`Rereads`), and takes the same text when nothing but a new line
follows.
-/

namespace VhdlLayout

/-- The text is empty or begins with a new line. -/
def IsBreak (ds : List Char) : Prop := ∀ d ∈ ds.head?, d = '\n'

theorem IsBreak.eq_nil_or_cons {ds : List Char} (h : IsBreak ds) :
    ds = [] ∨ ∃ es, ds = '\n' :: es := by
  cases ds with
  | nil => exact .inl rfl
  | cons d es =>
    obtain rfl : d = '\n' := h d rfl
    exact .inr ⟨es, rfl⟩

theorem IsBreak.head?_ne {ds : List Char} (hds : IsBreak ds) {c : Char} (hc : c ≠ '\n') :
    ∀ d ∈ ds.head?, d ≠ c := fun d hd h => hc (h ▸ hds d hd)

theorem eq_cons_or_head?_ne (c : Char) (cs : List Char) :
    (∃ rest, cs = c :: rest) ∨ ∀ d ∈ cs.head?, d ≠ c := by
  cases cs with
  | nil => exact .inr nofun
  | cons d ds =>
    by_cases h : d = c
    · exact .inl ⟨ds, by rw [h]⟩
    · exact .inr (by rintro _ ⟨⟩; exact h)

/-- Behind `lead`, the function `f` takes some text off the front of `cs`, and the lexeme is the
same one if that text is read again before a break. -/
def Rereads (lead : List Char) (f : List Char → Lexeme) (cs : List Char) : Prop :=
  ∃ taken, (f cs).text = lead ++ taken ∧
    ∀ ds, IsBreak ds → f (taken ++ ds) = { f cs with rest := ds }

/-- What is taken off is at the front. -/
theorem isPrefix_of_append {l : Lexeme} {lead taken cs : List Char}
    (happend : l.text ++ l.rest = lead ++ cs) (htext : l.text = lead ++ taken) : taken <+: cs := by
  rw [htext, List.append_assoc] at happend
  exact ⟨l.rest, List.append_cancel_left happend⟩

/-- What is taken off the front begins as the text does, and otherwise there is a break. -/
theorem head?_append_of_isPrefix {taken cs ds : List Char} (h : taken <+: cs) (hds : IsBreak ds)
    {q : Char → Prop} (hq : ∀ c ∈ cs.head?, q c) (hbreak : q '\n') :
    ∀ c ∈ (taken ++ ds).head?, q c := by
  obtain ⟨rest, rfl⟩ := h
  cases taken with
  | nil =>
    intro c hc
    rw [hds c hc]
    exact hbreak
  | cons t ts => exact hq

section Runs

variable {p : Char → Bool} {cs taken ds : List Char}

theorem head?_append_dropWhile (htaken : taken <+: cs.dropWhile p) (hp : p '\n' = false)
    (hds : IsBreak ds) : ∀ c ∈ (taken ++ ds).head?, p c = false := by
  refine head?_append_of_isPrefix htaken hds (fun c hc => ?_) hp
  have := List.head?_dropWhile_not p cs
  rwa [Option.mem_def.1 hc] at this

/-- A run of characters is the same run before what followed it, or before a break. -/
theorem takeWhile_append_of_isPrefix (htaken : taken <+: cs.dropWhile p) (hp : p '\n' = false)
    (hds : IsBreak ds) : (cs.takeWhile p ++ (taken ++ ds)).takeWhile p = cs.takeWhile p := by
  have hhead := head?_append_dropWhile htaken hp hds
  rw [List.takeWhile_append_of_pos fun c hc => List.mem_takeWhile_imp hc]
  cases h : taken ++ ds with
  | nil => rw [List.takeWhile_nil, List.append_nil]
  | cons c es =>
    rw [h] at hhead
    rw [List.takeWhile_cons_of_neg (by simp [hhead c rfl]), List.append_nil]

theorem dropWhile_append_of_isPrefix (htaken : taken <+: cs.dropWhile p) (hp : p '\n' = false)
    (hds : IsBreak ds) : (cs.takeWhile p ++ (taken ++ ds)).dropWhile p = taken ++ ds := by
  have hhead := head?_append_dropWhile htaken hp hds
  rw [List.dropWhile_append_of_pos fun c hc => List.mem_takeWhile_imp hc]
  cases h : taken ++ ds with
  | nil => rfl
  | cons c es =>
    rw [h] at hhead
    exact List.dropWhile_cons_of_neg (by simp [hhead c rfl])

theorem takeWhile_append_break (cs : List Char) (hp : p '\n' = false) (hds : IsBreak ds) :
    (cs.takeWhile p ++ ds).takeWhile p = cs.takeWhile p :=
  takeWhile_append_of_isPrefix List.nil_prefix hp hds

theorem dropWhile_append_break (cs : List Char) (hp : p '\n' = false) (hds : IsBreak ds) :
    (cs.takeWhile p ++ ds).dropWhile p = ds :=
  dropWhile_append_of_isPrefix List.nil_prefix hp hds

end Runs

namespace Rereads

variable {lead : List Char} {f g : List Char → Lexeme} {cs : List Char}

/-- The function takes nothing off the front. -/
theorem nothing (htext : (f cs).text = lead)
    (hbreak : ∀ ds, IsBreak ds → f ds = { f cs with rest := ds }) : Rereads lead f cs := by
  refine ⟨[], ?_, hbreak⟩
  rw [htext, List.append_nil]

/-- The function takes off what stands at the front, and then what another one takes off. -/
theorem append {xs : List Char} (hfg : ∀ cs, f (xs ++ cs) = g cs) (h : Rereads (lead ++ xs) g cs) :
    Rereads lead f (xs ++ cs) := by
  obtain ⟨taken, htext, hagain⟩ := h
  refine ⟨xs ++ taken, ?_, fun ds hds => ?_⟩
  · rw [hfg, htext, List.append_assoc]
  · rw [List.append_assoc, hfg, hfg, hagain ds hds]

theorem cons {c : Char} (hfg : ∀ cs, f (c :: cs) = g cs) (h : Rereads (lead ++ [c]) g cs) :
    Rereads lead f (c :: cs) := append hfg h

/-- The function takes off a run of characters, and then what another one takes off that knows the
run. -/
theorem run {p : Char → Bool} (hp : p '\n' = false) {g : List Char → List Char → Lexeme}
    (hfg : ∀ cs, f cs = g (cs.takeWhile p) (cs.dropWhile p))
    (happend : (f cs).text ++ (f cs).rest = lead ++ cs)
    (h : Rereads (lead ++ cs.takeWhile p) (g (cs.takeWhile p)) (cs.dropWhile p)) :
    Rereads lead f cs := by
  obtain ⟨taken, htext, hagain⟩ := h
  have htaken : taken <+: cs.dropWhile p := by
    refine isPrefix_of_append (l := f cs) ?_ (by rw [hfg, htext])
    rw [happend, List.append_assoc, List.takeWhile_append_dropWhile]
  refine ⟨cs.takeWhile p ++ taken, ?_, fun ds hds => ?_⟩
  · rw [hfg, htext, List.append_assoc]
  · rw [hfg, hfg, List.append_assoc, takeWhile_append_of_isPrefix htaken hp hds,
      dropWhile_append_of_isPrefix htaken hp hds, hagain ds hds]

end Rereads

/-! ## Quoted bodies -/

theorem Body.lexeme_rest (b : Body) (ds lead : List Char) (kind : Kind) (fault : Fault) :
    ({ b with rest := ds } : Body).lexeme lead kind fault =
      { b.lexeme lead kind fault with rest := ds } := by
  rw [lexeme, lexeme]
  split <;> rfl

theorem Body.lexeme_text (b : Body) (lead : List Char) (kind : Kind) (fault : Fault) :
    (b.lexeme lead kind fault).text = lead ++ b.text := by
  rw [lexeme]
  split <;> rfl

namespace Body

variable {delim : Char}

/-- No quoted body goes past its line. -/
theorem quoted_of_isBreak (delim : Char) {ds : List Char} (hds : IsBreak ds) :
    quoted delim ds = ⟨[], false, ds⟩ := by
  rcases hds.eq_nil_or_cons with rfl | ⟨es, rfl⟩
  · rfl
  · unfold quoted
    exact if_pos rfl

/-- A delimiter closes the body if no second one follows. -/
theorem quoted_close (hdelim : delim ≠ '\n') {cs : List Char} (h : ∀ d ∈ cs.head?, d ≠ delim) :
    quoted delim (delim :: cs) = ⟨[delim], true, cs⟩ := by
  unfold quoted
  rw [if_neg hdelim, if_pos rfl]
  cases cs with
  | nil => rfl
  | cons d ds => exact if_neg (h d rfl)

theorem quoted_double (hdelim : delim ≠ '\n') (cs : List Char) :
    quoted delim (delim :: delim :: cs) = (quoted delim cs).prepend [delim, delim] := by
  rw [quoted.eq_def]
  simp [hdelim]

theorem quoted_cons {c : Char} (hc : c ≠ '\n') (hdelim : c ≠ delim) (cs : List Char) :
    quoted delim (c :: cs) = (quoted delim cs).prepend [c] := by
  rw [quoted.eq_def]
  simp [hc, hdelim]

/-- A quoted body ends at the same delimiter, or at the end of the same line. -/
theorem quoted_text_append (hdelim : delim ≠ '\n') (cs : List Char) {ds : List Char}
    (hds : IsBreak ds) :
    quoted delim ((quoted delim cs).text ++ ds) = { quoted delim cs with rest := ds } := by
  have hclose : ∀ d ∈ ds.head?, d ≠ delim := fun d hd h => hdelim (h ▸ hds d hd)
  fun_induction quoted delim cs with
  | case1 | case2 => exact quoted_of_isBreak delim hds
  | case3 => exact quoted_close hdelim hclose
  | case4 cs _ ih =>
    rw [prepend, List.append_assoc, List.cons_append, List.cons_append, List.nil_append,
      quoted_double hdelim, ih, prepend]
  | case5 => exact quoted_close hdelim hclose
  | case6 c cs hc hdelim' ih =>
    rw [prepend, List.append_assoc, List.cons_append, List.nil_append, quoted_cons hc hdelim', ih,
      prepend]

end Body

theorem rereads_quoted {delim : Char} (hdelim : delim ≠ '\n') (lead : List Char) (kind : Kind)
    (fault : Fault) (cs : List Char) :
    Rereads lead (fun cs => (Body.quoted delim cs).lexeme lead kind fault) cs := by
  refine ⟨(Body.quoted delim cs).text, Body.lexeme_text _ _ _ _, fun ds hds => ?_⟩
  dsimp only
  rw [Body.quoted_text_append hdelim cs hds, Body.lexeme_rest]

/-! ## Block comments -/

namespace Body

theorem blockComment_cons {c : Char} {cs : List Char} (h : c = '*' → ∀ d ∈ cs.head?, d ≠ '/') :
    blockComment (c :: cs) = (blockComment cs).prepend [c] := by
  rw [blockComment.eq_def]
  dsimp only
  split
  · exact absurd rfl (h rfl '/' rfl)
  · rfl

theorem text_ne_nil_of_closed {cs : List Char} (h : (blockComment cs).closed = true) :
    (blockComment cs).text ≠ [] := by
  fun_cases blockComment cs with
  | case1 => cases h
  | case2 => nofun
  | case3 => nofun

/-- A block comment ends at the same mark. -/
theorem blockComment_text_append {cs : List Char} (h : (blockComment cs).closed = true)
    (ds : List Char) :
    blockComment ((blockComment cs).text ++ ds) = { blockComment cs with rest := ds } := by
  fun_induction blockComment cs with
  | case1 => cases h
  | case2 => rfl
  | case3 c cs hno ih =>
    have hmark : c = '*' → ∀ d ∈ ((blockComment cs).text ++ ds).head?, d ≠ '/' := by
      rintro rfl d hd rfl
      obtain ⟨t, ts, htext⟩ := List.exists_cons_of_ne_nil (text_ne_nil_of_closed h)
      have hcs := blockComment_append cs
      rw [htext] at hd hcs
      obtain rfl : t = '/' := Option.some.inj hd
      exact hno _ rfl hcs.symm
    rw [prepend, List.append_assoc, List.singleton_append, blockComment_cons hmark, ih h, prepend]

theorem rest_blockComment {cs : List Char} (h : (blockComment cs).closed = false) :
    (blockComment cs).rest = [] := by
  fun_induction blockComment cs with
  | case1 => rfl
  | case2 => cases h
  | case3 c cs _ ih => exact ih h

end Body

/-! ## Numbers -/

theorem isDigitPart_newLine : isDigitPart '\n' = false := rfl

theorem isHexPart_newLine : isHexPart '\n' = false := rfl

theorem exponent_of_isBreak {ds : List Char} (hds : IsBreak ds) : exponent ds = ([], ds) := by
  rcases hds.eq_nil_or_cons with rfl | ⟨es, rfl⟩
  · rfl
  · simp [exponent]

theorem exponent_digit {e s : Char} (he : e = 'e' ∨ e = 'E') (hs : s.isDigit = true)
    (cs : List Char) :
    exponent (e :: s :: cs) = (e :: s :: cs.takeWhile isDigitPart, cs.dropWhile isDigitPart) := by
  have hsign : ¬(s = '+' ∨ s = '-') := by
    rintro (rfl | rfl)
    · cases hs
    · cases hs
  cases cs with
  | nil => simp [exponent, he, hs]
  | cons d ds => simp [exponent, he, hs, hsign]

theorem exponent_signed {e s d : Char} (he : e = 'e' ∨ e = 'E') (hs : s = '+' ∨ s = '-')
    (hd : d.isDigit = true) (cs : List Char) :
    exponent (e :: s :: d :: cs) =
      (e :: s :: d :: cs.takeWhile isDigitPart, cs.dropWhile isDigitPart) := by
  simp [exponent, he, hs, hd]

/-- There is no exponent, or an `e` with a digit behind it, or one with a sign and a digit. -/
theorem exponent_cases (cs : List Char) :
    exponent cs = ([], cs) ∨
    (∃ e s ds, cs = e :: s :: ds ∧ (e = 'e' ∨ e = 'E') ∧ s.isDigit = true) ∨
    ∃ e s d ds, cs = e :: s :: d :: ds ∧ (e = 'e' ∨ e = 'E') ∧ (s = '+' ∨ s = '-') ∧
      d.isDigit = true := by
  fun_cases exponent cs <;> simp_all

theorem exponent_append_break (cs : List Char) {ds : List Char} (hds : IsBreak ds) :
    exponent ((exponent cs).1 ++ ds) = ((exponent cs).1, ds) := by
  rcases exponent_cases cs with h | ⟨e, s, rest, rfl, he, hs⟩ | ⟨e, s, d, rest, rfl, he, hs, hd⟩
  · rw [h]
    exact exponent_of_isBreak hds
  · rw [exponent_digit he hs, List.cons_append, List.cons_append, exponent_digit he hs,
      takeWhile_append_break rest isDigitPart_newLine hds,
      dropWhile_append_break rest isDigitPart_newLine hds]
  · rw [exponent_signed he hs hd, List.cons_append, List.cons_append, List.cons_append,
      exponent_signed he hs hd, takeWhile_append_break rest isDigitPart_newLine hds,
      dropWhile_append_break rest isDigitPart_newLine hds]

theorem head?_exponent (cs : List Char) : ∀ c ∈ (exponent cs).1.head?, c = 'e' ∨ c = 'E' := by
  rcases exponent_cases cs with h | ⟨e, s, rest, rfl, he, hs⟩ | ⟨e, s, d, rest, rfl, he, hs, hd⟩
  · rw [h]
    nofun
  · rw [exponent_digit he hs]
    rintro c ⟨⟩
    exact he
  · rw [exponent_signed he hs hd]
    rintro c ⟨⟩
    exact he

theorem withExponent_append_break (kind : Kind) (text cs : List Char) {ds : List Char}
    (hds : IsBreak ds) :
    withExponent kind text ((exponent cs).1 ++ ds) =
      { withExponent kind text cs with rest := ds } := by
  simp only [withExponent, exponent_append_break cs hds]

theorem rereads_withExponent (kind : Kind) (text cs : List Char) :
    Rereads text (withExponent kind text) cs :=
  ⟨(exponent cs).1, rfl, fun _ hds => withExponent_append_break kind text cs hds⟩

theorem closeBased_of_head?_ne (kind : Kind) (text : List Char) {cs : List Char}
    (h : ∀ c ∈ cs.head?, c ≠ '#') :
    closeBased kind text cs =
      { kind := .error, text, rest := cs,
        fault := some (.invalidBasedLiteral (String.ofList text)) } := by
  fun_cases closeBased kind text cs
  · exact absurd rfl (h '#' rfl)
  · rfl

theorem rereads_closeBased (kind : Kind) (text cs : List Char) :
    Rereads text (closeBased kind text) cs := by
  rcases eq_cons_or_head?_ne '#' cs with ⟨rest, rfl⟩ | hcs
  · exact .cons (fun _ => rfl) (rereads_withExponent kind (text ++ ['#']) rest)
  · have hopen := closeBased_of_head?_ne kind text hcs
    refine .nothing (by rw [hopen]) fun ds hds => ?_
    rw [hopen, closeBased_of_head?_ne kind text (hds.head?_ne (by decide))]

theorem basedTail_of_head?_ne (digits : List Char) {cs : List Char} (h : ∀ c ∈ cs.head?, c ≠ '.') :
    basedTail digits cs = closeBased .intLiteral digits cs := by
  fun_cases basedTail digits cs
  · exact absurd rfl (h '.' rfl)
  · rfl

theorem rereads_basedTail (digits cs : List Char) : Rereads digits (basedTail digits) cs := by
  rcases eq_cons_or_head?_ne '.' cs with ⟨rest, rfl⟩ | hcs
  · refine .cons (fun _ => rfl) (.run isHexPart_newLine
      (g := fun run => closeBased .realLiteral (digits ++ '.' :: run)) (fun _ => rfl) ?_ ?_)
    · rw [basedTail_append, List.append_cons]
    · rw [← List.append_cons]
      exact rereads_closeBased _ _ _
  · obtain ⟨taken, htext, hagain⟩ := rereads_closeBased .intLiteral digits cs
    have htaken := isPrefix_of_append (closeBased_append _ _ _) htext
    refine ⟨taken, ?_, fun ds hds => ?_⟩
    · rw [basedTail_of_head?_ne digits hcs, htext]
    · rw [basedTail_of_head?_ne digits hcs, basedTail_of_head?_ne digits
        (head?_append_of_isPrefix htaken hds hcs (by decide)), hagain ds hds]

theorem decimal_of_head?_ne (digits : List Char) {cs : List Char} (h : ∀ c ∈ cs.head?, c ≠ '.') :
    decimal digits cs = withExponent .intLiteral digits cs := by
  fun_cases decimal digits cs
  · exact absurd rfl (h '.' rfl)
  · exact absurd rfl (h '.' rfl)
  · rfl

theorem decimal_fraction (digits : List Char) {d : Char} (hd : d.isDigit = true) (cs : List Char) :
    decimal digits ('.' :: d :: cs) =
      withExponent .realLiteral (digits ++ '.' :: d :: cs.takeWhile isDigitPart)
        (cs.dropWhile isDigitPart) := by
  have hpart : isDigitPart d = true := by rw [isDigitPart, hd, Bool.true_or]
  rw [decimal, if_pos hd, List.takeWhile_cons_of_pos hpart, List.dropWhile_cons_of_pos hpart]

/-- A number that is neither a based literal nor a bit string has a fraction, or goes on with an
exponent if with anything. -/
theorem decimal_cases (digits cs : List Char) :
    (∃ d ds, cs = '.' :: d :: ds ∧ d.isDigit = true) ∨
      decimal digits cs = withExponent .intLiteral digits cs := by
  fun_cases decimal digits cs with
  | case1 d ds hd => exact .inl ⟨d, ds, rfl, hd⟩
  | case2 => exact .inr rfl
  | case3 => exact .inr rfl

theorem rereads_decimal (digits cs : List Char) : Rereads digits (decimal digits) cs := by
  rcases decimal_cases digits cs with ⟨d, rest, rfl, hd⟩ | hcs
  · have hfraction : Rereads digits (decimal digits) (['.', d] ++ rest) := by
      refine .append (fun _ => rfl) (.run isDigitPart_newLine
        (g := fun run => withExponent .realLiteral (digits ++ '.' :: d :: run))
        (decimal_fraction digits hd) ?_ ?_)
      · rw [decimal_append, List.append_assoc]
      · rw [List.append_assoc]
        exact rereads_withExponent _ _ _
    exact hfraction
  · refine ⟨(exponent cs).1, by rw [hcs, withExponent], fun ds hds => ?_⟩
    have hpoint : ∀ c ∈ ((exponent cs).1 ++ ds).head?, c ≠ '.' :=
      head?_append_of_isPrefix (List.prefix_refl _) hds (fun c hc => by
        rcases head?_exponent cs c hc with rfl | rfl <;> decide) (by decide)
    rw [hcs, decimal_of_head?_ne digits hpoint, withExponent_append_break _ _ _ hds]

/-- What such a number goes on with begins with a point or an `e`. -/
theorem head?_decimal {digits cs taken : List Char}
    (h : (decimal digits cs).text = digits ++ taken) : ∀ c ∈ taken.head?, c ∈ ['.', 'e', 'E'] := by
  rcases decimal_cases digits cs with ⟨d, rest, rfl, hd⟩ | hcs
  · rw [decimal_fraction digits hd, withExponent, List.append_assoc] at h
    rw [← List.append_cancel_left h]
    rintro c ⟨⟩
    exact List.mem_cons_self
  · rw [hcs, withExponent] at h
    rw [← List.append_cancel_left h]
    intro c hc
    rcases head?_exponent cs c hc with rfl | rfl <;> decide

/-- The characters that the base of a bit string may begin with, in small letters. -/
def baseInitials : List Char := ['b', 'o', 'x', 'd', 'u', 's']

theorem toLower_mem_of_isBaseSpecifier {c : Char} {cs : List Char}
    (h : isBaseSpecifier (c :: cs) = true) : c.toLower ∈ baseInitials := by
  have initials : ∀ base ∈ baseSpecifiers, base.headD 'b' ∈ baseInitials := by decide
  rw [isBaseSpecifier, List.contains_iff_mem] at h
  exact initials _ h

theorem sizedBase?_one {a : Char} (h : isBaseSpecifier [a] = true) (cs : List Char) :
    sizedBase? (a :: '"' :: cs) = some ([a, '"'], cs) := by
  rw [sizedBase?_eq]
  exact if_pos h

theorem sizedBase?_two {a b : Char} (h : isBaseSpecifier [a, b] = true) (cs : List Char) :
    sizedBase? (a :: b :: '"' :: cs) = some ([a, b, '"'], cs) := by
  have hb : b ≠ '"' := by
    rintro rfl
    simp [isBaseSpecifier, baseSpecifiers] at h
  simp [sizedBase?_eq, h]

theorem sizedBase?_cases (cs : List Char) :
    sizedBase? cs = none ∨ (∃ a rest, cs = a :: '"' :: rest ∧ isBaseSpecifier [a] = true) ∨
      ∃ a b rest, cs = a :: b :: '"' :: rest ∧ isBaseSpecifier [a, b] = true := by
  fun_cases sizedBase? cs <;> simp_all [isBaseSpecifier_singleton, isBaseSpecifier_pair]

theorem sizedBase?_eq_none {cs : List Char} (h : ∀ c ∈ cs.head?, c.toLower ∉ baseInitials) :
    sizedBase? cs = none := by
  rcases sizedBase?_cases cs with hnone | ⟨a, rest, rfl, ha⟩ | ⟨a, b, rest, rfl, hab⟩
  · exact hnone
  · exact absurd (toLower_mem_of_isBaseSpecifier ha) (h a rfl)
  · exact absurd (toLower_mem_of_isBaseSpecifier hab) (h a rfl)

theorem ne_of_isBaseSpecifier {c d : Char} {cs : List Char} (h : isBaseSpecifier (c :: cs) = true)
    (hd : d.toLower ∉ baseInitials) : c ≠ d := by
  rintro rfl
  exact hd (toLower_mem_of_isBaseSpecifier h)

/-- The base of a bit string is known by itself and by the quotation mark behind it. -/
theorem sizedBase?_eq_some {cs base body : List Char} (h : sizedBase? cs = some (base, body)) :
    ∃ b bs, base = b :: bs ∧ b ≠ '#' ∧ ∀ ds, sizedBase? (b :: bs ++ ds) = some (b :: bs, ds) := by
  rcases sizedBase?_cases cs with hnone | ⟨a, rest, rfl, ha⟩ | ⟨a, b, rest, rfl, hab⟩
  · cases hnone.symm.trans h
  · rw [sizedBase?_one ha] at h
    cases h
    exact ⟨a, ['"'], rfl, ne_of_isBaseSpecifier ha (by decide), sizedBase?_one ha⟩
  · rw [sizedBase?_two hab] at h
    cases h
    exact ⟨a, [b, '"'], rfl, ne_of_isBaseSpecifier hab (by decide), sizedBase?_two hab⟩

theorem numberTail_of_head?_ne (digits : List Char) {cs : List Char} (h : ∀ c ∈ cs.head?, c ≠ '#') :
    numberTail digits cs =
      match sizedBase? cs with
      | some (base, body) =>
        (Body.quoted '"' body).lexeme (digits ++ base) .bitStringLiteral .unterminatedString
      | none => decimal digits cs := by
  unfold numberTail
  split
  · exact absurd rfl (h '#' rfl)
  · rfl

theorem rereads_numberTail (digits cs : List Char) : Rereads digits (numberTail digits) cs := by
  rcases eq_cons_or_head?_ne '#' cs with ⟨rest, rfl⟩ | hcs
  · refine .cons (fun _ => rfl) (.run isHexPart_newLine
      (g := fun run => basedTail (digits ++ '#' :: run)) (fun _ => rfl) ?_ ?_)
    · rw [numberTail_append, List.append_cons]
    · rw [← List.append_cons]
      exact rereads_basedTail _ _
  · cases hbase : sizedBase? cs with
    | some p =>
      obtain ⟨base, body⟩ := p
      obtain ⟨b, bs, rfl, hb, hagain⟩ := sizedBase?_eq_some hbase
      rw [← sizedBase?_append hbase]
      have hquote : '"' ≠ '\n' := by decide
      refine .append (fun ds => ?_)
        (rereads_quoted hquote _ .bitStringLiteral .unterminatedString body)
      have hmark : ∀ c ∈ (b :: bs ++ ds).head?, c ≠ '#' := by
        rintro c ⟨⟩
        exact hb
      rw [numberTail_of_head?_ne digits hmark, hagain]
    | none =>
      obtain ⟨taken, htext, hagain⟩ := rereads_decimal digits cs
      have hhead := head?_decimal htext
      have hinitial : ∀ ds, IsBreak ds → ∀ c ∈ (taken ++ ds).head?, c ∈ ['\n', '.', 'e', 'E'] :=
        fun ds hds => head?_append_of_isPrefix (List.prefix_refl taken) hds
          (fun c hc => List.mem_cons_of_mem _ (hhead c hc)) List.mem_cons_self
      refine ⟨taken, ?_, fun ds hds => ?_⟩
      · rw [numberTail_of_head?_ne digits hcs, hbase]
        exact htext
      · have hmark : ∀ c ∈ ['\n', '.', 'e', 'E'], c ≠ '#' ∧ c.toLower ∉ baseInitials := by
          simp [baseInitials]
        rw [numberTail_of_head?_ne digits fun c hc => (hmark c (hinitial ds hds c hc)).1,
          numberTail_of_head?_ne digits hcs, hbase,
          sizedBase?_eq_none fun c hc => (hmark c (hinitial ds hds c hc)).2]
        exact hagain ds hds

theorem rereads_number (c : Char) (cs : List Char) : Rereads [c] (number c) cs :=
  .run isDigitPart_newLine (g := fun run => numberTail (c :: run)) (fun _ => rfl)
    (number_append c cs) (rereads_numberTail _ _)

namespace Lexeme

/-! ## Words -/

theorem isWordPart_newLine : isWordPart '\n' = false := by decide

theorem ofWord_rest (text rest ds : List Char) :
    ofWord text ds = { ofWord text rest with rest := ds } := by
  rw [ofWord, ofWord]
  split <;> rfl

theorem ofRun_of_head?_ne (text : List Char) {cs : List Char} (h : ∀ c ∈ cs.head?, c ≠ '"') :
    ofRun text cs = ofWord text cs := by
  fun_cases ofRun text cs
  · exact absurd rfl (h '"' rfl)
  · rfl
  · rfl

theorem rereads_ofRun (text cs : List Char) : Rereads text (ofRun text) cs := by
  by_cases h : ∃ rest, cs = '"' :: rest ∧ isBaseSpecifier text = true
  · -- The word is the base of a bit string.
    obtain ⟨rest, rfl, hbase⟩ := h
    exact .cons (fun _ => if_pos hbase) (rereads_quoted (by decide) _ _ _ rest)
  · have hword : ofRun text cs = ofWord text cs := by
      fun_cases ofRun text cs with
      | case1 rest hbase => exact absurd ⟨rest, rfl, hbase⟩ h
      | case2 | case3 => rfl
    refine .nothing (by rw [hword, ofWord_text]) fun ds hds => ?_
    rw [hword, ofRun_of_head?_ne text (hds.head?_ne (by decide))]
    exact ofWord_rest _ _ _

theorem rereads_word (c : Char) (cs : List Char) : Rereads [c] (word c) cs :=
  .run isWordPart_newLine (g := fun run => ofRun (c :: run)) (fun _ => rfl) (word_append c cs)
    (rereads_ofRun _ _)

/-! ## Ticks and characters -/

theorem apostrophe_of_isBreak (previous : Option Kind) {ds : List Char} (hds : IsBreak ds) :
    apostrophe previous ds = { kind := .delimiter .tick, text := ['\''], rest := ds } := by
  rcases hds.eq_nil_or_cons with rfl | ⟨es, rfl⟩
  · rfl
  · unfold apostrophe
    split
    · next c rest h =>
      obtain ⟨rfl, rfl⟩ := List.cons.inj h
      exact if_pos (.inl rfl)
    · rfl

theorem rereads_apostrophe (previous : Option Kind) (cs : List Char) :
    Rereads ['\''] (apostrophe previous) cs := by
  by_cases h : ∃ c rest, cs = c :: '\'' :: rest ∧ ¬(c = '\n' ∨ previous.any Kind.endsName)
  · obtain ⟨c, rest, rfl, hc⟩ := h
    refine ⟨[c, '\''], by rw [apostrophe, if_neg hc]; rfl, fun ds hds => ?_⟩
    rw [List.cons_append, List.cons_append, List.nil_append, apostrophe, if_neg hc, apostrophe,
      if_neg hc]
  · have htick : apostrophe previous cs =
        { kind := .delimiter .tick, text := ['\''], rest := cs } := by
      fun_cases apostrophe previous cs with
      | case1 | case3 => rfl
      | case2 c rest hc => exact absurd ⟨c, rest, rfl, hc⟩ h
    refine .nothing (by rw [htick]) fun ds hds => ?_
    rw [htick, apostrophe_of_isBreak previous hds]

/-! ## Marks -/

/-- A text without line feeds stands at the front only if it does so before a break. -/
theorem isPrefix_of_append_break {xs text ds : List Char} (h : xs <+: text ++ ds)
    (hxs : '\n' ∉ xs) (hds : IsBreak ds) : xs <+: text := by
  rcases hds.eq_nil_or_cons with rfl | ⟨es, rfl⟩
  · rwa [List.append_nil] at h
  · rcases List.prefix_or_prefix_of_prefix h (text.prefix_append ('\n' :: es)) with hx | ⟨ys, rfl⟩
    · exact hx
    · rw [List.prefix_append_right_inj] at h
      cases ys with
      | nil => rw [List.append_nil]
      | cons y ys =>
        obtain ⟨rfl, _⟩ := List.cons_prefix_cons.1 h
        exact absurd (List.mem_append_right text List.mem_cons_self) hxs

theorem newLine_not_mem_spelling {entry : List Char × Delimiter} (h : entry ∈ Delimiter.spellings) :
    '\n' ∉ entry.1 := by
  revert entry
  decide

/-- The spelling that has been read is the first to fit its own text, too. -/
theorem read?_append_break {cs text ds : List Char} {d : Delimiter}
    (h : Delimiter.read? cs = some (text, d)) (hds : IsBreak ds) :
    Delimiter.read? (text ++ ds) = some (text, d) := by
  have htext := Delimiter.read?_prefix h
  rw [Delimiter.read?, List.find?_eq_some_iff_append] at h ⊢
  obtain ⟨_, before, after, hspellings, hbefore⟩ := h
  refine ⟨by simp, before, after, hspellings, fun entry hentry => ?_⟩
  have hmem : entry ∈ Delimiter.spellings := hspellings ▸ List.mem_append_left _ hentry
  have hno := hbefore entry hentry
  rw [Bool.not_eq_true', ← Bool.not_eq_true, List.isPrefixOf_iff_prefix] at hno ⊢
  exact fun hp =>
    hno ((isPrefix_of_append_break hp (newLine_not_mem_spelling hmem) hds).trans htext)

theorem read?_cons_break {c : Char} {cs ds : List Char} (h : Delimiter.read? (c :: cs) = none)
    (hds : IsBreak ds) : Delimiter.read? (c :: ds) = none := by
  rw [Delimiter.read?, List.find?_eq_none] at h ⊢
  intro entry hentry hp
  have hfits : entry.1 <+: [c] ++ ds := List.isPrefixOf_iff_prefix.1 hp
  have hone := isPrefix_of_append_break hfits (newLine_not_mem_spelling hentry) hds
  exact h entry hentry (List.isPrefixOf_iff_prefix.2 (hone.trans ⟨cs, rfl⟩))

/-- Where no comment begins, a mark is a delimiter or no token. -/
theorem mark_of_head?_ne {c : Char} {cs : List Char} (hdash : c = '-' → ∀ d ∈ cs.head?, d ≠ '-')
    (hslash : c = '/' → ∀ d ∈ cs.head?, d ≠ '*') :
    mark c cs =
      match Delimiter.read? (c :: cs) with
      | some (text, d) => { kind := .delimiter d, text, rest := (c :: cs).drop text.length }
      | none =>
        { kind := .error, text := [c], rest := cs, fault := some (.unexpectedCharacter c) } := by
  unfold mark
  split
  · exact absurd rfl (hdash rfl '-' rfl)
  · exact absurd rfl (hslash rfl '*' rfl)
  · rfl

theorem mark_dashes (rest : List Char) :
    mark '-' ('-' :: rest) =
      { kind := .comment, text := '-' :: '-' :: rest.takeWhile (!endsLine ·)
        rest := rest.dropWhile (!endsLine ·) } := rfl

theorem mark_slash_star (rest : List Char) :
    mark '/' ('*' :: rest) =
      (Body.blockComment rest).lexeme ['/', '*'] .comment .unterminatedBlockComment := rfl

/-- What begins with a dash or a slash and is no delimiter is a comment. -/
theorem mark_cases (c : Char) (cs : List Char) :
    (∃ rest, c = '-' ∧ cs = '-' :: rest) ∨ (∃ rest, c = '/' ∧ cs = '*' :: rest) ∨
      (c = '-' → ∀ d ∈ cs.head?, d ≠ '-') ∧ (c = '/' → ∀ d ∈ cs.head?, d ≠ '*') := by
  by_cases hdash : ∃ rest, c = '-' ∧ cs = '-' :: rest
  · exact .inl hdash
  by_cases hslash : ∃ rest, c = '/' ∧ cs = '*' :: rest
  · exact .inr (.inl hslash)
  refine .inr (.inr ⟨fun hc => ?_, fun hc => ?_⟩)
  · exact (eq_cons_or_head?_ne '-' cs).resolve_left fun ⟨rest, h⟩ => hdash ⟨rest, hc, h⟩
  · exact (eq_cons_or_head?_ne '*' cs).resolve_left fun ⟨rest, h⟩ => hslash ⟨rest, hc, h⟩

theorem eq_of_rest_eq_nil {l : Lexeme} (h : l.rest = []) : { l with rest := [] } = l := by
  rw [← h]

/-- A mark is the same one before a break; before nothing, if nothing stood behind it. -/
theorem mark_append_break (c : Char) (cs : List Char) :
    ∃ taken, (mark c cs).text = c :: taken ∧ ∀ ds, IsBreak ds → ((mark c cs).rest = [] → ds = []) →
      mark c (taken ++ ds) = { mark c cs with rest := ds } := by
  rcases mark_cases c cs with ⟨rest, rfl, rfl⟩ | ⟨rest, rfl, rfl⟩ | ⟨hdash, hslash⟩
  · refine ⟨'-' :: rest.takeWhile (!endsLine ·), rfl, fun ds hds _ => ?_⟩
    rw [List.cons_append, mark_dashes, mark_dashes, takeWhile_append_break rest (by decide) hds,
      dropWhile_append_break rest (by decide) hds]
  · refine ⟨'*' :: (Body.blockComment rest).text, ?_, fun ds _ hds => ?_⟩
    · rw [mark_slash_star, Body.lexeme_text]
      rfl
    · rw [List.cons_append, mark_slash_star, mark_slash_star]
      cases hclosed : (Body.blockComment rest).closed with
      | true => rw [Body.blockComment_text_append hclosed, Body.lexeme_rest]
      | false =>
        -- The comment has taken all there is, and is given all there is again.
        have hrest := Body.rest_blockComment hclosed
        have htext := Body.blockComment_append rest
        rw [hrest, List.append_nil] at htext
        have hnil : (mark '/' ('*' :: rest)).rest = [] := by
          rw [mark_slash_star, Body.lexeme, hclosed]
          exact hrest
        rw [hds hnil, List.append_nil, htext]
        rw [mark_slash_star] at hnil
        exact (eq_of_rest_eq_nil hnil).symm
  · have hmark := mark_of_head?_ne hdash hslash
    cases hread : Delimiter.read? (c :: cs) with
    | none =>
      rw [hread] at hmark
      refine ⟨[], by rw [hmark], fun ds hds _ => ?_⟩
      rw [hmark, List.nil_append, mark_of_head?_ne (fun _ => hds.head?_ne (by decide))
        (fun _ => hds.head?_ne (by decide)), read?_cons_break hread hds]
    | some entry =>
      obtain ⟨text, d⟩ := entry
      rw [hread] at hmark
      have hfront := List.prefix_cons_iff.1 (Delimiter.read?_prefix hread)
      obtain ⟨taken, rfl, htaken⟩ := hfront.resolve_left (Delimiter.read?_ne_nil hread)
      refine ⟨taken, by rw [hmark], fun ds hds _ => ?_⟩
      have hagain := read?_append_break hread hds
      rw [hmark, mark_of_head?_ne
        (fun hc => head?_append_of_isPrefix htaken hds (hdash hc) (by decide))
        (fun hc => head?_append_of_isPrefix htaken hds (hslash hc) (by decide)),
        ← List.cons_append, hagain]
      dsimp only
      rw [List.drop_left]

/-- *Lexemes are read again.* A lexeme is the same one before a break; before nothing, if nothing
stood behind it. -/
theorem read_append_break (previous : Option Kind) (c : Char) (cs : List Char) :
    ∃ taken, (read previous c cs).text = c :: taken ∧
      ∀ ds, IsBreak ds → ((read previous c cs).rest = [] → ds = []) →
        read previous c (taken ++ ds) = { read previous c cs with rest := ds } := by
  have of_rereads {f : List Char → Lexeme} (hf : ∀ cs, read previous c cs = f cs)
      (h : Rereads [c] f cs) : ∃ taken, (read previous c cs).text = c :: taken ∧
        ∀ ds, IsBreak ds → ((read previous c cs).rest = [] → ds = []) →
          read previous c (taken ++ ds) = { read previous c cs with rest := ds } := by
    obtain ⟨taken, htext, hagain⟩ := h
    simp only [hf]
    exact ⟨taken, htext, fun ds hds _ => hagain ds hds⟩
  -- The first character tells which function reads the lexeme.
  by_cases hquote : c = '\''
  · subst hquote
    exact of_rereads (fun cs => if_pos rfl) (rereads_apostrophe previous cs)
  by_cases hstring : c = '"'
  · subst hstring
    exact of_rereads (fun cs => rfl) (rereads_quoted (by decide) _ _ _ cs)
  by_cases hextended : c = '\\'
  · subst hextended
    exact of_rereads (fun cs => rfl) (rereads_quoted (by decide) _ _ _ cs)
  by_cases hdigit : c.isDigit = true
  · exact of_rereads (fun cs => by rw [read, if_neg hquote, if_neg hstring, if_neg hextended,
      if_pos hdigit]) (rereads_number c cs)
  by_cases hletter : Unicode.isAlphabetic c = true
  · exact of_rereads (fun cs => by rw [read, if_neg hquote, if_neg hstring, if_neg hextended,
      if_neg hdigit, if_pos hletter]) (rereads_word c cs)
  have hmark (cs : List Char) : read previous c cs = mark c cs := by
    rw [read, if_neg hquote, if_neg hstring, if_neg hextended, if_neg hdigit, if_neg hletter]
  simp only [hmark]
  exact mark_append_break c cs

end Lexeme

end VhdlLayout
