import Mathlib
import VhdlLayout.Proofs.Equivalence.Extension
import VhdlLayout.Proofs.Token.Lexemes
import VhdlLayout.Proofs.Token.Rereading

/-!
# Texts that are laid out again

What a source says is told by its lexemes, comments left out (`Lexeme.said`):
where they stand plays no part. So a source may be laid out again. Its texts are
put one behind the other, with any layout between them that begins with a new
line (`LaidOut`), and what the new text says is what the source says.

A layout is made of blanks and of comments that come to an end (`IsLayout`). In
front of a lexeme it is not seen (`Lexeme.said_layout_append`); and before it each
text is read again as the lexeme that it was (`Lexeme.read_append_break`), since
the last lexeme before it that is no comment is the same as well.

* `Lexeme.said_of_laidOut`: so the text says the same, by induction on the lexemes;
* `TokenStream.spellings_read`: what a source says are its relevant tokens;
* `spellings_eq_of_laidOut`: these are the same after laying them out again, and
  neither text parts from the other.
-/

namespace VhdlLayout

/-! ## Layouts -/

/-- The text holds blanks and comments that come to an end, and nothing else. A line comment ends
with its line; the text of a block comment has the mark that closes it at its end only. -/
inductive IsLayout : List Char → Prop
  | nil : IsLayout []
  | blank {c : Char} {cs : List Char} : isBlank c = true → IsLayout cs → IsLayout (c :: cs)
  | lineComment {text cs : List Char} {c : Char} : (∀ d ∈ text, endsLine d = false) →
      endsLine c = true → IsLayout cs → IsLayout ('-' :: '-' :: (text ++ c :: cs))
  | blockComment {text cs : List Char} : ¬ ['*', '/'] <:+: text → IsLayout cs →
      IsLayout ('/' :: '*' :: (text ++ '*' :: '/' :: cs))

theorem isBlank_of_endsLine {c : Char} (h : endsLine c = true) : isBlank c = true := by
  rw [endsLine, Bool.or_eq_true, beq_iff_eq, beq_iff_eq] at h
  rcases h with rfl | rfl <;> rfl

/-- A block comment ends at the first mark that closes it. -/
theorem Body.blockComment_append_close {text : List Char} (h : ¬ ['*', '/'] <:+: text)
    (cs : List Char) :
    blockComment (text ++ '*' :: '/' :: cs) = ⟨text ++ ['*', '/'], true, cs⟩ := by
  induction text with
  | nil => rfl
  | cons c text ih =>
    have hmark : c = '*' → ∀ d ∈ (text ++ '*' :: '/' :: cs).head?, d ≠ '/' := by
      rintro rfl d hd rfl
      cases text with
      | nil => cases hd
      | cons t ts =>
        obtain rfl : t = '/' := Option.some.inj hd
        exact h ⟨[], ts, rfl⟩
    have htext : ¬ ['*', '/'] <:+: text := fun hi => h (List.infix_cons hi)
    rw [List.cons_append, blockComment_cons hmark, ih htext]
    rfl

namespace Lexeme

/-- A layout in front is not seen. -/
theorem said_layout_append {sep : List Char} (h : IsLayout sep) (previous : Option Kind)
    (cs : List Char) : said previous (sep ++ cs) = said previous cs := by
  induction h with
  | nil => rfl
  | blank hc _ ih => rw [List.cons_append, said_blank hc, ih]
  | @lineComment text rest c htext hc _ ih =>
    -- The comment stops before the character that ends its line, which is a blank.
    have hends : (!endsLine c) = false := by rw [hc]; rfl
    have hread : read previous '-' ('-' :: (text ++ c :: (rest ++ cs))) =
        { kind := .comment, text := '-' :: '-' :: text, rest := c :: (rest ++ cs) } := by
      have hall : ∀ d ∈ text, (!endsLine d) = true := fun d hd => by rw [htext d hd]; rfl
      change mark '-' ('-' :: (text ++ c :: (rest ++ cs))) = _
      rw [mark_dashes, List.takeWhile_append_of_pos hall, List.dropWhile_append_of_pos hall,
        List.takeWhile_cons_of_neg (by simp [hends]), List.dropWhile_cons_of_neg (by simp [hends]),
        List.append_nil]
    rw [List.cons_append, List.cons_append, List.append_assoc, List.cons_append,
      said_of_comment rfl (by rw [hread]), hread, said_blank (isBlank_of_endsLine hc), ih]
  | @blockComment text rest htext _ ih =>
    have hread : read previous '/' ('*' :: (text ++ '*' :: '/' :: (rest ++ cs))) =
        { kind := .comment, text := '/' :: '*' :: (text ++ ['*', '/']), rest := rest ++ cs } := by
      change mark '/' ('*' :: (text ++ '*' :: '/' :: (rest ++ cs))) = _
      rw [mark_slash_star, Body.blockComment_append_close htext]
      rfl
    rw [List.cons_append, List.cons_append, List.append_assoc, List.cons_append, List.cons_append,
      said_of_comment rfl (by rw [hread]), hread, ih]

end Lexeme

/-! ## Laying out again -/

/-- The text holds the given ones in order, and between two of them a new line and any layout. -/
inductive LaidOut : List String → List Char → Prop
  | nil : LaidOut [] []
  | last (text : String) : LaidOut [text] text.toList
  | cons {text next : String} {texts : List String} {sep cs : List Char} :
      IsLayout sep → LaidOut (next :: texts) cs →
      LaidOut (text :: next :: texts) (text.toList ++ '\n' :: (sep ++ cs))

/-- Behind the first text comes a break, and no more is said there than by the others. -/
theorem LaidOut.exists_append {text : String} {texts : List String} {cs : List Char}
    (h : LaidOut (text :: texts) cs) :
    ∃ ds cs', cs = text.toList ++ ds ∧ IsBreak ds ∧ (texts = [] → ds = []) ∧ LaidOut texts cs' ∧
      ∀ previous, Lexeme.said previous ds = Lexeme.said previous cs' := by
  cases h with
  | last => exact ⟨[], [], (List.append_nil _).symm, nofun, fun _ => rfl, .nil, fun _ => rfl⟩
  | @cons _ _ _ sep cs hsep h =>
    refine ⟨_, cs, rfl, ?_, nofun, h, fun previous => ?_⟩
    · rintro _ ⟨⟩
      rfl
    · rw [Lexeme.said_blank rfl, Lexeme.said_layout_append hsep]

namespace Lexeme

/-- What a lexeme is and how it is written. -/
def spelling (l : Lexeme) : Kind × String := (l.kind, String.ofList l.text)

/-- Lexemes that are laid out again say the same. -/
theorem said_of_laidOut {previous : Option Kind} {cs cs' : List Char}
    (h : LaidOut ((said previous cs).map fun l => l.spelling.2) cs') :
    (said previous cs').map spelling = (said previous cs).map spelling := by
  fun_induction all previous cs generalizing cs' with
  | case1 previous cs hcs =>
    rw [said_of_dropWhile_eq_nil previous hcs] at h ⊢
    cases h
    rw [said_of_dropWhile_eq_nil previous rfl]
  | case2 previous cs c rest hcs ih =>
    by_cases hkind : (read previous c rest).kind = .comment
    · rw [said_of_comment hcs hkind] at h ⊢
      rw [hkind] at ih
      exact ih h
    · rw [Reader.previousAfter, if_neg hkind] at ih
      rw [said_of_ne_comment hcs hkind] at h ⊢
      obtain ⟨ds, cs'', rfl, hds, hlast, hlaid, hsaid⟩ := h.exists_append
      obtain ⟨taken, htext, hagain⟩ := read_append_break previous c rest
      -- If nothing stands behind the lexeme, no text is left to be put behind it.
      have hrest : (read previous c rest).rest = [] → ds = [] := fun hnil => by
        rw [hnil] at hlast
        exact hlast (by rw [said_of_dropWhile_eq_nil _ rfl]; rfl)
      have hblank : ¬ isBlank c = true := Bool.eq_false_iff.1 (isBlank_of_dropWhile_eq_cons hcs)
      have hfront : (c :: (taken ++ ds)).dropWhile isBlank = c :: (taken ++ ds) :=
        List.dropWhile_cons_of_neg hblank
      have hread := hagain ds hds hrest
      change (said previous ((String.ofList (read previous c rest).text).toList ++ ds)).map _ = _
      rw [String.toList_ofList, htext, List.cons_append,
        said_of_ne_comment hfront (by rwa [hread]), hread, List.map_cons, List.map_cons, hsaid,
        ih hlaid]
      rfl

end Lexeme

/-! ## Tokens -/

namespace TokenStream

/-- The relevant tokens of the stream: what each is and how it is written. -/
def spellings (s : TokenStream) : List (Kind × String) := s.relevant.map fun t => (t.kind, s.text t)

theorem relevant_read (source : String) :
    (read source).relevant = (relevantReadings source).map Reading.token :=
  List.filter_map

theorem spellings_read (source : String) :
    (read source).spellings = (Lexeme.said none source.toList).map Lexeme.spelling := by
  rw [← relevantReadings_said, spellings, relevant_read, List.map_map, List.map_map]
  exact List.map_congr_left fun r _ => congrArg (r.token.kind, ·) String.ofList_toList.symm

/-- Streams do not part where the relevant tokens are the same and written the same way. -/
theorem divergence?_eq_none_of_spellings_eq {s s' : TokenStream} (h : s.spellings = s'.spellings) :
    s.divergence? s' = none := by
  refine divergence?_eq_none (.of_forall₂ ?_)
  rw [spellings, spellings, ← List.forall₂_eq_eq_eq, List.forall₂_map_left_iff,
    List.forall₂_map_right_iff] at h
  refine h.imp fun t t' htt => ?_
  obtain ⟨hkind, htext⟩ := Prod.mk.inj htt
  exact ⟨hkind, fun _ => htext ▸ Unicode.sameIgnoringCase_self _⟩

end TokenStream

/-- *Layout is cosmetic.* A text that has the relevant tokens of a source, valid or not, one behind
the other, with a new line and any layout between them, has the same relevant tokens, and neither
of the two parts from the other. -/
theorem spellings_eq_of_laidOut {source source' : String}
    (h : LaidOut ((TokenStream.read source).spellings.map Prod.snd) source'.toList) :
    (TokenStream.read source').spellings = (TokenStream.read source).spellings ∧
      divergence? source source' = none ∧ divergence? source' source = none := by
  have same : (TokenStream.read source').spellings = (TokenStream.read source).spellings := by
    rw [TokenStream.spellings_read, List.map_map] at h
    rw [TokenStream.spellings_read, TokenStream.spellings_read]
    exact Lexeme.said_of_laidOut h
  exact ⟨same, TokenStream.divergence?_eq_none_of_spellings_eq same.symm,
    TokenStream.divergence?_eq_none_of_spellings_eq same⟩

/-- A tick, a character, and three texts that are no tokens: a based literal, a string and a comment
that are not closed. -/
theorem spellings_eq_unclosed :
    let source := "x'('a')--c\n16#A \"b--\n/* ;"
    let source' := "x\n--'\n'\n/*/**/(\n'a'\n \t)\n16#A\n\"b--\n/* ;"
    (TokenStream.read source).spellings =
        [(.ident, "x"), (.delimiter .tick, "'"), (.delimiter .lparen, "("), (.charLiteral, "'a'"),
          (.delimiter .rparen, ")"), (.error, "16#A"), (.error, "\"b--"), (.error, "/* ;")] ∧
      LaidOut ((TokenStream.read source).spellings.map Prod.snd) source'.toList ∧
      (TokenStream.read source').spellings = (TokenStream.read source).spellings ∧
      divergence? source source' = none ∧ divergence? source' source = none := by
  intro source source'
  have tokens : (TokenStream.read source).spellings =
      [(.ident, "x"), (.delimiter .tick, "'"), (.delimiter .lparen, "("), (.charLiteral, "'a'"),
        (.delimiter .rparen, ")"), (.error, "16#A"), (.error, "\"b--"), (.error, "/* ;")] := by
    decide +kernel
  have line : IsLayout ['-', '-', '\'', '\n'] :=
    @IsLayout.lineComment ['\''] [] '\n' (by simp [endsLine]) rfl .nil
  have block : IsLayout ['/', '*', '/', '*', '*', '/'] :=
    @IsLayout.blockComment ['/', '*'] [] (by decide) .nil
  have blanks : IsLayout [' ', '\t'] := .blank rfl (.blank rfl .nil)
  have text : source'.toList =
      "x".toList ++ '\n' :: (['-', '-', '\'', '\n'] ++ ("'".toList ++ '\n' ::
        (['/', '*', '/', '*', '*', '/'] ++ ("(".toList ++ '\n' :: ([] ++ ("'a'".toList ++ '\n' ::
        ([' ', '\t'] ++ (")".toList ++ '\n' :: ([] ++ ("16#A".toList ++ '\n' ::
        ([] ++ ("\"b--".toList ++ '\n' :: ([] ++ "/* ;".toList))))))))))))) := by decide +kernel
  have laidOut : LaidOut ((TokenStream.read source).spellings.map Prod.snd) source'.toList := by
    rw [tokens, text]
    exact .cons line <| .cons block <| .cons .nil <| .cons blanks <| .cons .nil <| .cons .nil <|
      .cons .nil <| .last _
  exact ⟨tokens, laidOut, spellings_eq_of_laidOut laidOut⟩

end VhdlLayout
