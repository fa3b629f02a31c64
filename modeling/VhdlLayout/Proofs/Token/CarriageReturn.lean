import Mathlib
import VhdlLayout.Proofs.Token.LineEnds
import VhdlLayout.Proofs.Token.Malformed

/-!
# Carriage returns before line feeds

A source may have a carriage return before each of its line feeds (`crlf`). What it
says is the same as without them, with one exception. A string, bit string or
extended identifier that is not closed on its line goes on to the line feed, and
takes the carriage return into its text; a line comment does not. So the source
says the same, and is taken for the same program, just if nothing in it is cut off
by a line feed (`crlf_spellings`).

* `Lexeme.read_crlfLines`: this holds of one lexeme. On its line it is read as
  before (`Lexeme.read_append_lineEnd_cases`), and a block comment goes on to the
  same mark (`Body.blockComment_crlfLines`);
* `Lexeme.said_crlfLines`: and of all, by induction on the lexemes;
* `Parting.find?_eq_none_iff`: the comparison goes through two lists of one length
  pair by pair as long as it can pass over nothing.
-/

namespace VhdlLayout

/-! ## Texts -/

/-- The text with a carriage return before each line feed. -/
def crlfLines (cs : List Char) : List Char :=
  cs.flatMap fun c => if c = '\n' then ['\r', '\n'] else [c]

/-- The source with a carriage return before each line feed. -/
def crlf (source : String) : String := String.ofList (crlfLines source.toList)

section Text

variable {c e : Char} {xs cs : List Char}

theorem crlfLines_newLine (cs : List Char) :
    crlfLines ('\n' :: cs) = '\r' :: '\n' :: crlfLines cs := rfl

theorem crlfLines_cons (hc : c ≠ '\n') (cs : List Char) :
    crlfLines (c :: cs) = c :: crlfLines cs := by
  rw [crlfLines, List.flatMap_cons, if_neg hc]
  rfl

theorem crlfLines_append (cs cs' : List Char) :
    crlfLines (cs ++ cs') = crlfLines cs ++ crlfLines cs' :=
  List.flatMap_append

theorem crlfLines_of_not_mem (h : '\n' ∉ xs) : crlfLines xs = xs := by
  induction xs with
  | nil => rfl
  | cons c xs ih =>
    obtain ⟨hc, hxs⟩ := not_or.1 (mt List.mem_cons.2 h)
    rw [crlfLines_cons (Ne.symm hc), ih hxs]

/-- No character comes to the front but a carriage return. -/
theorem head?_crlfLines_ne (he : e ≠ '\r') (h : ∀ d ∈ cs.head?, d ≠ e) :
    ∀ d ∈ (crlfLines cs).head?, d ≠ e := by
  cases cs with
  | nil => nofun
  | cons c cs =>
    by_cases hc : c = '\n'
    · rw [hc, crlfLines_newLine]
      rintro _ ⟨⟩
      exact he.symm
    · rw [crlfLines_cons hc]
      exact h

theorem dropWhile_crlfLines (cs : List Char) :
    (crlfLines cs).dropWhile isBlank = crlfLines (cs.dropWhile isBlank) := by
  induction cs with
  | nil => rfl
  | cons c cs ih =>
    by_cases hc : c = '\n'
    · rw [hc, crlfLines_newLine, List.dropWhile_cons_of_pos rfl, List.dropWhile_cons_of_pos rfl,
        List.dropWhile_cons_of_pos rfl, ih]
    · rw [crlfLines_cons hc, List.dropWhile_cons, List.dropWhile_cons, ih]
      split
      · rfl
      · rw [crlfLines_cons hc]

/-- The first line of a text, and the line feed behind it if there is one. -/
theorem exists_isBreak (cs : List Char) : ∃ xs ds, cs = xs ++ ds ∧ '\n' ∉ xs ∧ IsBreak ds := by
  refine ⟨cs.takeWhile (· != '\n'), cs.dropWhile (· != '\n'), List.takeWhile_append_dropWhile.symm,
    fun h => by simpa using List.mem_takeWhile_imp h, fun d hd => ?_⟩
  have hfront := List.head?_dropWhile_not (· != '\n') cs
  rw [Option.mem_def.1 hd] at hfront
  simpa using hfront

theorem IsBreak.isLineEnd {ds : List Char} (h : IsBreak ds) : IsLineEnd ds := by
  rcases h.eq_nil_or_cons with rfl | ⟨es, rfl⟩
  · exact .nil
  · exact .lf es

theorem IsBreak.isLineEnd_crlfLines {ds : List Char} (h : IsBreak ds) :
    IsLineEnd (crlfLines ds) := by
  rcases h.eq_nil_or_cons with rfl | ⟨es, rfl⟩
  · exact .nil
  · exact .crlf (crlfLines es)

end Text

/-- A block comment ends at the same mark. -/
theorem Body.blockComment_crlfLines (cs : List Char) :
    (blockComment (crlfLines cs)).closed = (blockComment cs).closed ∧
      (blockComment (crlfLines cs)).rest = crlfLines (blockComment cs).rest := by
  fun_induction blockComment cs with
  | case1 => exact ⟨rfl, rfl⟩
  | case2 => exact ⟨rfl, rfl⟩
  | case3 c cs hno ih =>
    by_cases hc : c = '\n'
    · rw [hc, crlfLines_newLine, blockComment_cons fun h => absurd h (by decide),
        blockComment_cons fun h => absurd h (by decide)]
      exact ih
    · have hmark : c = '*' → ∀ d ∈ (crlfLines cs).head?, d ≠ '/' := fun hstar =>
        head?_crlfLines_ne (by decide) fun d hd hslash => by
          obtain ⟨rest, hrest⟩ := List.head?_eq_some_iff.1 hd
          exact hno rest hstar (hslash ▸ hrest)
      rw [crlfLines_cons hc, blockComment_cons hmark]
      exact ih

/-! ## Lexemes -/

namespace Lexeme

/-- The lexeme is a text that the end of its line has cut off. -/
def isCutOff (l : Lexeme) : Bool := l.isOpen && l.rest.head? == some '\n'

/-- The text that the lexeme has if there is a carriage return before the line feed. -/
def crlfText (l : Lexeme) : List Char := if l.isCutOff then l.text ++ ['\r'] else l.text

/-- If the lexeme is a text that is not closed, it is no token, and ends with its line. -/
def EndsOpen (l : Lexeme) : Prop := l.isOpen = true → l.kind = .error ∧ IsBreak l.rest

/-- That is what the fault of such a text says. -/
theorem IsDiagnosed.endsOpen {l : Lexeme} (h : l.IsDiagnosed) : l.EndsOpen := by
  intro hopen
  obtain ⟨fault, hfault, hopen⟩ := (Option.any_eq_true _ _).1 hopen
  have hfits := h.fits fault hfault
  refine ⟨h.isSome_fault.1 (Option.isSome_of_mem hfault), ?_⟩
  cases fault with
  | unterminatedString | unterminatedExtendedIdentifier => exact hfits.2
  | unterminatedBlockComment =>
    rw [hfits.2.2]
    rintro _ ⟨⟩
  | unexpectedCharacter | invalidBasedLiteral => cases hopen

theorem endsOpen_read (previous : Option Kind) (c : Char) (cs : List Char) :
    (read previous c cs).EndsOpen :=
  (isDiagnosed_read previous c cs).endsOpen

/-- With carriage returns before the line feeds behind it, a lexeme is the same, but for the one
that it takes if the end of its line cuts it off. Of a comment only the text may change. -/
theorem read_crlfLines (previous : Option Kind) {c : Char} {cs : List Char} (hc : c ≠ '\n')
    (hfault : (read previous c cs).fault ≠ some .unterminatedBlockComment) :
    (read previous c (crlfLines cs)).kind = (read previous c cs).kind ∧
      ((read previous c cs).kind ≠ .comment →
        (read previous c (crlfLines cs)).text = (read previous c cs).crlfText) ∧
      (read previous c (crlfLines cs)).rest =
        if (read previous c cs).isCutOff then (crlfLines (read previous c cs).rest).tail
        else crlfLines (read previous c cs).rest := by
  by_cases hblock : c = '/' ∧ ∃ rest, cs = '*' :: rest
  · -- A block comment goes on behind the line. It is closed, as its fault would be seen.
    obtain ⟨rfl, rest, rfl⟩ := hblock
    have hread (cs : List Char) : read previous '/' ('*' :: cs) =
        (Body.blockComment cs).lexeme ['/', '*'] .comment .unterminatedBlockComment := rfl
    obtain ⟨hclosed', hrest⟩ := Body.blockComment_crlfLines rest
    have hclosed : (Body.blockComment rest).closed = true := by
      by_contra hopen
      rw [hread, Body.lexeme, if_neg hopen] at hfault
      exact hfault rfl
    rw [crlfLines_cons (by decide), hread, hread, Body.lexeme, Body.lexeme, hclosed', hclosed,
      if_pos rfl, if_pos rfl]
    exact ⟨rfl, fun hkind => absurd rfl hkind, hrest⟩
  · -- Anything else stays on its line.
    obtain ⟨xs, ds, rfl, hxs, hds⟩ := exists_isBreak cs
    have hline : ¬(c = '/' ∧ ∃ rest, xs = '*' :: rest) := by
      rintro ⟨hslash, rest, rfl⟩
      exact hblock ⟨hslash, _, rfl⟩
    have hleft : '\n' ∉ (read previous c xs).rest := fun h =>
      (List.mem_cons.1 (subset_rest_read previous c xs h)).elim (Ne.symm hc) hxs
    have hsame : read previous c (xs ++ ds) =
        { read previous c xs with rest := (read previous c xs).rest ++ ds } := by
      refine (read_append_lineEnd_cases hds.isLineEnd previous hline).resolve_right ?_
      rintro ⟨es, rfl, -⟩
      exact absurd (hds '\r' rfl) (by decide)
    rw [crlfLines_append, crlfLines_of_not_mem hxs]
    rcases read_append_lineEnd_cases hds.isLineEnd_crlfLines previous hline with
      hsame' | ⟨es, hcr, hopen, hrest, hcut⟩
    · -- It is not cut off: before the carriage return it would not have come to an end.
      have hwhole : (read previous c (xs ++ ds)).isCutOff = false := by
        rw [isCutOff, Bool.and_eq_false_iff, or_iff_not_imp_left, Bool.not_eq_false, hsame]
        intro hopen
        obtain ⟨-, hbreak⟩ := endsOpen_read previous c xs hopen
        have hrest : (read previous c xs).rest = [] := by
          refine hbreak.eq_nil_or_cons.resolve_right ?_
          rintro ⟨es, hes⟩
          exact hleft (hes ▸ List.mem_cons_self)
        have hbreak' := endsOpen_read previous c (xs ++ crlfLines ds)
        rw [hsame', hrest] at hbreak'
        rcases hds.eq_nil_or_cons with rfl | ⟨es, rfl⟩
        · rw [hrest]
          rfl
        · exact absurd ((hbreak' hopen).2 '\r' rfl) (by decide)
      rw [crlfText, hwhole, if_neg Bool.false_ne_true, if_neg Bool.false_ne_true, hsame, hsame',
        crlfLines_append, crlfLines_of_not_mem hleft]
      exact ⟨rfl, fun _ => rfl, rfl⟩
    · -- It is cut off, by the line feed behind the carriage return.
      have hwhole : (read previous c (xs ++ ds)).isCutOff = true := by
        rcases hds.eq_nil_or_cons with rfl | ⟨ds, rfl⟩
        · cases hcr
        · rw [isCutOff, hsame, hrest, Bool.and_eq_true]
          exact ⟨hopen, rfl⟩
      rw [crlfText, hwhole, if_pos rfl, if_pos rfl, hsame, hcut, hrest, List.nil_append, hcr]
      exact ⟨rfl, fun _ => rfl, rfl⟩

/-- What the lexeme is, and how it is written before a carriage return. -/
def crlfSpelling (l : Lexeme) : Kind × String := (l.kind, String.ofList l.crlfText)

/-- What a text with carriage returns says is what it says without, but for what is cut off. -/
theorem said_crlfLines {previous : Option Kind} {cs : List Char}
    (hfault : ∀ l ∈ all previous cs, l.fault ≠ some .unterminatedBlockComment) :
    (said previous (crlfLines cs)).map spelling = (said previous cs).map crlfSpelling := by
  fun_induction all previous cs with
  | case1 previous cs hcs =>
    have hcs' := dropWhile_crlfLines cs
    rw [hcs] at hcs'
    rw [said_of_dropWhile_eq_nil previous hcs, said_of_dropWhile_eq_nil previous hcs']
    rfl
  | case2 previous cs c rest hcs ih =>
    have hblank := isBlank_of_dropWhile_eq_cons hcs
    have hc : c ≠ '\n' := by
      rintro rfl
      cases hblank
    have hcs' := dropWhile_crlfLines cs
    rw [hcs, crlfLines_cons hc] at hcs'
    obtain ⟨hhead, htail⟩ := List.forall_mem_cons.1 hfault
    obtain ⟨hkind, htext, hrest⟩ := read_crlfLines previous hc hhead
    -- What is left of the line end that has cut off the lexeme is blank as the whole of it is.
    have hsaid (kind : Option Kind) : said kind (read previous c (crlfLines rest)).rest =
        said kind (crlfLines (read previous c rest).rest) := by
      rw [hrest]
      split
      · next hcut =>
        obtain ⟨es, hes⟩ : ∃ es, (read previous c rest).rest = '\n' :: es := by
          rw [isCutOff, Bool.and_eq_true, beq_iff_eq] at hcut
          exact List.head?_eq_some_iff.1 hcut.2
        rw [hes, crlfLines_newLine, List.tail_cons, said_blank (c := '\r') rfl]
      · rfl
    have hbehind := ih htail
    by_cases hcomment : (read previous c rest).kind = .comment
    · rw [hcomment] at hbehind
      rw [said_of_comment hcs hcomment, said_of_comment hcs' (hkind.trans hcomment), hsaid]
      exact hbehind
    · rw [Reader.previousAfter, if_neg hcomment] at hbehind
      rw [said_of_ne_comment hcs hcomment, said_of_ne_comment hcs' (hkind ▸ hcomment),
        List.map_cons, List.map_cons, hkind, hsaid, hbehind, spelling, hkind, htext hcomment,
        crlfSpelling]

end Lexeme

/-! ## Sources -/

/-- Where the walk can pass over nothing it finds no parting just if the tokens match pair by
pair. -/
theorem Parting.find?_eq_none_iff {same : Token → Token → Bool} {os fs : List Token}
    (h : List.Forall₂ (fun o f => same o f = true ∨
      f.kind.isOptional = false ∧ f.kind.isIdentifier = false) os fs) :
    find? same os fs = none ↔ List.Forall₂ (fun o f => same o f = true) os fs := by
  induction h with
  | nil => exact iff_of_true rfl .nil
  | @cons o f os fs hfirst _ ih =>
    rw [find?, List.forall₂_cons]
    cases hsame : same o f with
    | true => simpa using ih
    | false =>
      obtain ⟨hopt, hident⟩ := hfirst.resolve_left (by rw [hsame]; exact Bool.false_ne_true)
      simp [hopt, hident]

/-- A text with one more carriage return is another one. -/
theorem Unicode.sameIgnoringCase_append_return (s : String) :
    sameIgnoringCase s (s ++ "\r") = false := by
  have hreturn : lowercase '\r' = ['\r'] := by decide +kernel
  rw [sameIgnoringCase, beq_eq_false_iff_ne, String.toList_append, lowercaseAll, lowercaseAll,
    List.flatMap_append, ne_comm]
  change List.flatMap lowercase s.toList ++ List.flatMap lowercase ['\r'] ≠ _
  rw [List.flatMap_singleton, hreturn]
  exact fun h => List.cons_ne_nil _ _ (List.append_right_eq_self.1 h)

/-- The reading is of a text that the end of its line has cut off. -/
def Reading.isCutOff (source : String) (r : Reading) : Bool := (r.lexeme source).isCutOff

section Source

variable {source : String} {r : Reading}

/-- What is cut off is no token. -/
theorem kind_of_isCutOff (hr : r ∈ readings source) (hcut : r.isCutOff source = true) :
    r.token.kind = .error := by
  have hopen : (r.lexeme source).isOpen = true := (Bool.and_eq_true _ _ ▸ hcut).1
  exact ((isDiagnosed_of_mem_readings hr).endsOpen hopen).1

theorem forall_isCutOff_iff :
    (∀ r ∈ relevantReadings source, r.isCutOff source = false) ↔
      ∀ r ∈ readings source, r.isCutOff source = false := by
  refine ⟨fun h r hr => ?_, fun h r hr => h r (List.mem_filter.1 hr).1⟩
  by_contra hcut
  have hcut := Bool.eq_true_of_not_eq_false hcut
  have hkind := kind_of_isCutOff hr hcut
  exact absurd ((h r (List.mem_filter.2 ⟨hr, by rw [hkind]; rfl⟩)).symm.trans hcut)
    Bool.false_ne_true

namespace TokenStream

/-- What a source says with carriage returns before its line feeds, by what is read without. -/
theorem spellings_crlf
    (hblock : ∀ e ∈ lexicalErrors source, e.fault ≠ .unterminatedBlockComment) :
    (read (crlf source)).spellings = (relevantReadings source).map fun r =>
      (r.token.kind, r.token.text source ++ if r.isCutOff source then "\r" else "") := by
  have hclosed : ∀ l ∈ Lexeme.all none source.toList, l.fault ≠ some .unterminatedBlockComment := by
    intro l hl hfault
    obtain ⟨e, he, hopen⟩ := exists_error_of_mem_all hl hfault
    exact hblock e he hopen
  rw [spellings_read, crlf, String.toList_ofList, Lexeme.said_crlfLines hclosed,
    ← relevantReadings_said, List.map_map]
  refine List.map_congr_left fun r _ => Prod.ext rfl (String.toList_injective ?_)
  change (String.ofList (r.lexeme source).crlfText).toList = _
  rw [String.toList_ofList, String.toList_append, Lexeme.crlfText, Reading.isCutOff]
  split
  · rfl
  · exact (List.append_nil _).symm

/-- The two sources say the same just if nothing is cut off. -/
theorem spellings_crlf_eq_iff
    (hblock : ∀ e ∈ lexicalErrors source, e.fault ≠ .unterminatedBlockComment) :
    (read (crlf source)).spellings = (read source).spellings ↔
      ∀ r ∈ relevantReadings source, r.isCutOff source = false := by
  rw [spellings_crlf hblock, spellings, relevant_read, List.map_map, List.map_inj_left]
  refine forall₂_congr fun r _ => ?_
  cases r.isCutOff source <;> simp [read, text]

/-- The token with the carriage return that is written the same way is the same one, and the token
that has taken one is not. -/
theorem sameToken_crlf {f : Token} (hr : r ∈ readings source) (hkind : f.kind = r.token.kind)
    (htext : (read (crlf source)).text f =
      r.token.text source ++ if r.isCutOff source then "\r" else "") :
    sameToken (read source) (read (crlf source)) r.token f = !r.isCutOff source := by
  cases hcut : r.isCutOff source with
  | false =>
    rw [hcut, if_neg Bool.false_ne_true, String.append_empty] at htext
    exact sameToken_iff.2 ⟨hkind.symm, fun _ => htext ▸ Unicode.sameIgnoringCase_self _⟩
  | true =>
    rw [hcut, if_pos rfl] at htext
    rw [sameToken, kind_of_isCutOff hr hcut, htext]
    exact Bool.and_eq_false_imp.2 fun _ => Unicode.sameIgnoringCase_append_return _

/-- Neither does the walk find a parting then, and otherwise it finds one at the first that is. -/
theorem divergence?_crlf_eq_none_iff
    (hblock : ∀ e ∈ lexicalErrors source, e.fault ≠ .unterminatedBlockComment) :
    VhdlLayout.divergence? source (crlf source) = none ↔
      ∀ r ∈ relevantReadings source, r.isCutOff source = false := by
  have hpair : List.Forall₂ (fun r f => sameToken (read source) (read (crlf source)) r.token f =
        !r.isCutOff source ∧ (r.isCutOff source = true → f.kind = .error))
      (relevantReadings source) (read (crlf source)).relevant := by
    have hspell := (spellings_crlf hblock).symm
    rw [spellings, ← List.forall₂_eq_eq_eq, List.forall₂_map_left_iff,
      List.forall₂_map_right_iff] at hspell
    refine ((List.forall₂_and_left _ _).2 ⟨fun r hr => (List.mem_filter.1 hr).1, hspell⟩).imp ?_
    rintro r f ⟨hr, hrf⟩
    obtain ⟨hkind, htext⟩ := Prod.mk.inj hrf
    exact ⟨sameToken_crlf hr hkind.symm htext.symm,
      fun hcut => hkind.symm.trans (kind_of_isCutOff hr hcut)⟩
  rw [VhdlLayout.divergence?, divergence?, Option.map_eq_none_iff, relevant_read,
    Parting.find?_eq_none_iff, List.forall₂_map_left_iff]
  · constructor
    · intro hall
      refine ((List.forall₂_and_left (R := fun _ _ => True) _ _).1 (hpair.mp ?_ hall)).1
      rintro r f ⟨hsame, -⟩ hrf
      exact ⟨by simpa using hsame.symm.trans hrf, trivial⟩
    · intro hall
      refine ((List.forall₂_and_left _ _).2 ⟨hall, hpair⟩).imp ?_
      rintro r f ⟨hcut, hsame, -⟩
      rw [hsame, hcut]
      rfl
  · refine List.forall₂_map_left_iff.2 (hpair.imp ?_)
    rintro r f ⟨hsame, hkind⟩
    cases hcut : r.isCutOff source with
    | false => exact .inl (by rw [hsame, hcut]; rfl)
    | true =>
      rw [hkind hcut]
      exact .inr ⟨rfl, rfl⟩

end TokenStream

/-- *Only what is cut off shows how lines end.* In a source whose block comments are all closed, let
a carriage return come before each line feed. The relevant tokens are the same, malformed ones
included, and are written the same way, but for strings, bit strings and extended identifiers that a
line feed cuts off: these take the carriage return. So the tokens are all the same, and the source
does not part from the one with carriage returns, just if nothing in it is cut off. -/
theorem crlf_spellings (hblock : ∀ e ∈ lexicalErrors source, e.fault ≠ .unterminatedBlockComment) :
    (TokenStream.read (crlf source)).spellings =
        ((relevantReadings source).map fun r =>
          (r.token.kind, r.token.text source ++ if r.isCutOff source then "\r" else "")) ∧
      ((TokenStream.read (crlf source)).spellings = (TokenStream.read source).spellings ↔
        ∀ r ∈ readings source, r.isCutOff source = false) ∧
      (divergence? source (crlf source) = none ↔
        ∀ r ∈ readings source, r.isCutOff source = false) := by
  rw [← forall_isCutOff_iff]
  exact ⟨TokenStream.spellings_crlf hblock, TokenStream.spellings_crlf_eq_iff hblock,
    TokenStream.divergence?_crlf_eq_none_iff hblock⟩

end Source

/-- The comments are not cut off, the string is. -/
theorem crlf_spellings_string :
    let source := "/*\n*/ a -- b\n\"c\n;"
    (∀ e ∈ lexicalErrors source, e.fault ≠ .unterminatedBlockComment) ∧
      (TokenStream.read (crlf source)).spellings =
        [(.ident, "a"), (.error, "\"c\r"), (.delimiter .semicolon, ";")] ∧
      (TokenStream.read (crlf source)).spellings ≠ (TokenStream.read source).spellings ∧
      divergence? source (crlf source) ≠ none := by
  intro source
  have hblock : ∀ e ∈ lexicalErrors source, e.fault ≠ .unterminatedBlockComment := by
    decide +kernel
  have hcut : ¬ ∀ r ∈ readings source, r.isCutOff source = false := by decide +kernel
  obtain ⟨hspellings, hsame, hdivergence⟩ := crlf_spellings hblock
  exact ⟨hblock, hspellings.trans (by decide +kernel), mt hsame.1 hcut, mt hdivergence.1 hcut⟩

/-- How lines end is not cosmetic: a string that is not closed has another text, and the comparison
takes offence at it. -/
theorem exists_divergence?_crlf :
    ∃ source : String, '\r' ∉ source.toList ∧
      (∀ e ∈ lexicalErrors source, e.fault ≠ .unterminatedBlockComment) ∧
      (TokenStream.read source).spellings = [(.error, "\"abc")] ∧
      (TokenStream.read (crlf source)).spellings = [(.error, "\"abc\r")] ∧
      divergence? source (crlf source) ≠ none :=
  ⟨"\"abc\n", by decide +kernel⟩

end VhdlLayout
