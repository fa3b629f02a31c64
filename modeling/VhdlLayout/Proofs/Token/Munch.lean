import Mathlib
import VhdlLayout.Proofs.Text.LongestPrefix
import VhdlLayout.Proofs.Token.Lexemes
import VhdlLayout.Proofs.Token.Recasing

/-!
# Words, delimiters and comments

Words, delimiters and comments go on for as long as they can (`Token.maximal_munch`):

* a word is a run of letters, digits and underlines that nothing goes on with, and
  is reserved just if it spells a reserved word in letters of either case
  (`Word.ofString?_eq_some_iff`);
* a delimiter is the longest one in front, as longer ones are looked for first
  (`Delimiter.longest_read?`), and no comment begins there;
* a line comment goes on to the end of its line, and a block comment to the first
  mark that closes it (`Body.isClosedFrom_blockComment`).
-/

namespace VhdlLayout

/-! ## Reserved words -/

namespace Word

/-- Each word is found by its spelling. -/
theorem lookup_spelling (w : Word) : lexicon.lookup w.spelling = some w := by
  have found : ∀ entry ∈ lexicon, lexicon.lookup entry.1 = some entry.2 := by decide +kernel
  exact found _ (mem_lexicon_iff.2 rfl)

theorem utf8ByteSize_spelling (w : Word) : w.spelling.utf8ByteSize ≤ longest := by
  have short : ∀ entry ∈ lexicon, entry.1.utf8ByteSize ≤ longest := by decide +kernel
  exact short _ (mem_lexicon_iff.2 rfl)

theorem utf8ByteSize_toLower (text : String) : text.toLower.utf8ByteSize = text.utf8ByteSize := by
  rw [utf8ByteSize_eq_byteLength, utf8ByteSize_eq_byteLength, String.toLower, String.toList_map]
  exact byteLength_map_letter .lower text.toList

/-- A reserved word is what spells it in letters of either case. No text is too long for that which
is not too long for any word. -/
theorem ofString?_eq_some_iff {text : String} {w : Word} :
    ofString? text = some w ↔ text.toLower = w.spelling := by
  refine ⟨toLower_of_ofString?, fun h => ?_⟩
  have hshort : ¬ text.utf8ByteSize > longest := by
    rw [← utf8ByteSize_toLower, h, Nat.not_lt]
    exact w.utf8ByteSize_spelling
  rw [ofString?, if_neg hshort, h, lookup_spelling]

end Word

/-! ## Delimiters -/

namespace Delimiter

/-- How the delimiter is written. -/
def spelling : Delimiter → String
  | .ampersand => "&"
  | .tick => "'"
  | .lparen => "("
  | .rparen => ")"
  | .lbracket => "["
  | .rbracket => "]"
  | .star => "*"
  | .plus => "+"
  | .comma => ","
  | .minus => "-"
  | .dot => "."
  | .slash => "/"
  | .colon => ":"
  | .semicolon => ";"
  | .lt => "<"
  | .eq => "="
  | .gt => ">"
  | .bar => "|"
  | .at_ => "@"
  | .caret => "^"
  | .question => "?"
  | .arrow => "=>"
  | .doubleStar => "**"
  | .varAssign => ":="
  | .notEq => "/="
  | .gtEq => ">="
  | .ltEq => "<="
  | .diamond => "<>"
  | .condition => "??"
  | .matchEq => "?="
  | .matchNotEq => "?/="
  | .matchLt => "?<"
  | .matchLtEq => "?<="
  | .matchGt => "?>"
  | .matchGtEq => "?>="
  | .doubleLt => "<<"
  | .doubleGt => ">>"

/-- The delimiter is written so, or with its replacement character, which the bar has. -/
def IsWritten (d : Delimiter) (s : List Char) : Prop :=
  s = d.spelling.toList ∨ d = .bar ∧ s = ['!']

instance (d : Delimiter) (s : List Char) : Decidable (d.IsWritten s) :=
  inferInstanceAs (Decidable (_ ∨ _))

/-- The table has how each delimiter is written, but for the tick, and nothing else. -/
theorem mem_spellings_iff {s : List Char} {d : Delimiter} :
    (s, d) ∈ spellings ↔ d ≠ .tick ∧ d.IsWritten s := by
  have sound : ∀ entry ∈ spellings, entry.2 ≠ .tick ∧ entry.2.IsWritten entry.1 := by decide +kernel
  refine ⟨sound (s, d), ?_⟩
  rintro ⟨htick, rfl | ⟨rfl, rfl⟩⟩
  · cases d <;> first | decide +kernel | exact absurd rfl htick
  · decide

/-- How delimiters are written. -/
def written : Language Char := {s | ∃ d : Delimiter, d.IsWritten s}

/-- The delimiter that is read is the longest one in front. -/
theorem longest_read? {cs text : List Char} {d : Delimiter} (h : read? cs = some (text, d)) :
    (d ≠ .tick ∧ d.IsWritten text) ∧ IsLongestPrefix written text cs := by
  have hwritten := mem_spellings_iff.1 (List.mem_of_find?_eq_some h)
  refine ⟨hwritten, ⟨d, hwritten.2⟩, read?_prefix h, ?_⟩
  rintro s ⟨e, he⟩ hfront
  by_cases htick : e = .tick
  · subst htick
    obtain rfl : s = ['\''] := he.resolve_right nofun
    exact List.length_pos_iff.2 (read?_ne_nil h)
  obtain ⟨-, before, behind, htable, hbefore⟩ := List.find?_eq_some_iff_append.1 h
  have horder := longer_first
  have hmem : (s, e) ∈ spellings := mem_spellings_iff.2 ⟨htick, he⟩
  rw [htable] at horder hmem
  -- What fits does not stand before the entry that is taken, and what stands behind is no longer.
  rcases List.mem_append.1 hmem with hs | hs
  · have hno := hbefore _ hs
    rw [List.isPrefixOf_iff_prefix.2 hfront] at hno
    cases hno
  · rcases List.mem_cons.1 hs with hs | hs
    · cases hs
      exact Nat.le_refl _
    · exact (List.pairwise_cons.1 (List.pairwise_append.1 horder).2.1).1 _ hs

end Delimiter

/-! ## Comments -/

/-- The text ends with the first mark in `cs` from the place `start` on that closes a comment. -/
def IsClosedFrom (start : Nat) (text cs : List Char) : Prop :=
  ∃ i ≥ start, ['*', '/'] <+: cs.drop i ∧ (∀ j ≥ start, j < i → ¬ ['*', '/'] <+: cs.drop j) ∧
    text = cs.take (i + 2)

/-- One character further on everything is the same. -/
theorem IsClosedFrom.cons {start : Nat} {text cs : List Char} (h : IsClosedFrom start text cs)
    (c : Char) : IsClosedFrom (start + 1) (c :: text) (c :: cs) := by
  obtain ⟨i, hi, hclose, hfirst, rfl⟩ := h
  refine ⟨i + 1, Nat.succ_le_succ hi, hclose, fun j hj hlt => ?_, rfl⟩
  obtain ⟨j, rfl⟩ : ∃ k, j = k + 1 := Nat.exists_eq_add_of_le' (Nat.le_of_add_left_le hj)
  exact hfirst j (Nat.le_of_succ_le_succ hj) (Nat.lt_of_succ_lt_succ hlt)

/-- A block comment that is closed ends at the first mark that closes one. -/
theorem Body.isClosedFrom_blockComment {cs : List Char} (h : (blockComment cs).closed = true) :
    IsClosedFrom 0 (blockComment cs).text cs := by
  fun_induction blockComment cs with
  | case1 => cases h
  | case2 ds =>
    exact ⟨0, Nat.le_refl 0, ⟨ds, rfl⟩, fun j _ hj => absurd hj (Nat.not_lt_zero j), rfl⟩
  | case3 c cs hno ih =>
    obtain ⟨i, -, hclose, hfirst, htext⟩ := ih h
    refine ⟨i + 1, Nat.zero_le _, hclose, fun j _ hlt => ?_, ?_⟩
    · cases j with
      | zero =>
        rintro ⟨ds, hds⟩
        obtain ⟨rfl, hcs⟩ := List.cons.inj (show '*' :: '/' :: ds = c :: cs from hds)
        exact hno ds rfl hcs.symm
      | succ j => exact hfirst j (Nat.zero_le j) (Nat.lt_of_succ_lt_succ hlt)
    · rw [prepend, htext]
      rfl

/-- The text is that of a comment in front of `cs`: two dashes and the rest of the line, or a slash
and a star and what follows up to the first mark behind them that closes the comment. -/
def IsComment (text cs : List Char) : Prop :=
  (∃ line rest, text = '-' :: '-' :: line ∧ cs = '-' :: '-' :: rest ∧
      IsLongestPrefix (runs (!endsLine ·)) line rest) ∨
    ['/', '*'] <+: cs ∧ IsClosedFrom 2 text cs

/-! ## Words -/

/-- The text is a letter and any letters, digits and underlines. Nothing goes on with it behind, and
it is not the base of a bit string. -/
structure IsMaximalWord (text rest : List Char) : Prop where
  exists_run : ∃ c run, text = c :: run ∧ Unicode.isAlphabetic c = true ∧
    ∀ d ∈ run, isWordPart d = true
  isWordPart_head? : ∀ d ∈ rest.head?, isWordPart d = false
  not_base : ¬ (isBaseSpecifier text = true ∧ rest.head? = some '"')

/-! ## Lexemes -/

/-- How far the text of a token of the kind goes, where `rest` stands behind it. -/
def Kind.Munch (kind : Kind) (text rest : List Char) : Prop :=
  match kind with
  | .word _ | .ident => IsMaximalWord text rest ∧
      ∀ w : Word, kind = .word w ↔ (String.ofList text).toLower = w.spelling
  | .delimiter d => d = .tick ∨ d.IsWritten text ∧
      IsLongestPrefix Delimiter.written text (text ++ rest) ∧
      ¬ ['-', '-'] <+: text ++ rest ∧ ¬ ['/', '*'] <+: text ++ rest
  | .comment => IsComment text (text ++ rest)
  | _ => True

theorem Kind.Munch.of_isWord {kind : Kind} {text rest : List Char} (h : kind.Munch text rest)
    (hkind : kind = .ident ∨ kind.isWord = true) :
    IsMaximalWord text rest ∧
      ∀ w : Word, kind = .word w ↔ (String.ofList text).toLower = w.spelling := by
  rcases hkind with rfl | hword
  · exact h
  · cases kind with
    | word => exact h
    | _ => cases hword

namespace Lexeme

theorem munch_ofWord {text rest : List Char} (h : IsMaximalWord text rest) :
    (ofWord text rest).kind.Munch (ofWord text rest).text (ofWord text rest).rest := by
  have hkind (w : Word) : Word.ofString? (String.ofList text) = some w ↔
      (String.ofList text).toLower = w.spelling := Word.ofString?_eq_some_iff
  rw [ofWord]
  cases hword : Word.ofString? (String.ofList text) with
  | some v =>
    refine ⟨h, fun w => ?_⟩
    rw [← hkind w, hword]
    simp
  | none =>
    refine ⟨h, fun w => ?_⟩
    rw [← hkind w, hword]
    simp

theorem munch_word {c : Char} (hc : Unicode.isAlphabetic c = true) (cs : List Char) :
    (word c cs).kind.Munch (word c cs).text (word c cs).rest := by
  have hrun : ∃ d run, c :: cs.takeWhile isWordPart = d :: run ∧ Unicode.isAlphabetic d = true ∧
      ∀ e ∈ run, isWordPart e = true := ⟨c, _, rfl, hc, fun e he => List.mem_takeWhile_imp he⟩
  have hrest := head?_dropWhile_eq_false isWordPart cs
  rw [word]
  generalize c :: cs.takeWhile isWordPart = text at hrun ⊢
  generalize cs.dropWhile isWordPart = rest at hrest ⊢
  rcases eq_cons_or_head?_ne '"' rest with ⟨body, rfl⟩ | hquote
  · rw [ofRun]
    split
    · exact Body.kind_lexeme (p := fun kind => kind.Munch _ _) _ _ _ trivial trivial
    · next hbase => exact munch_ofWord ⟨hrun, hrest, fun h => hbase h.1⟩
  · rw [ofRun_of_head?_ne _ hquote]
    exact munch_ofWord ⟨hrun, hrest, fun h => hquote '"' h.2 rfl⟩

theorem munch_mark (c : Char) (cs : List Char) :
    (mark c cs).kind.Munch (mark c cs).text (mark c cs).rest := by
  rcases mark_cases c cs with ⟨rest, rfl, rfl⟩ | ⟨rest, rfl, rfl⟩ | ⟨hdash, hslash⟩
  · refine .inl ⟨rest.takeWhile (!endsLine ·), rest, rfl, ?_, .takeWhile _ rest⟩
    rw [mark_dashes, List.cons_append, List.cons_append, List.takeWhile_append_dropWhile]
  · rw [mark_slash_star, Body.lexeme]
    split
    · next hclosed =>
      have hwhole : ['/', '*'] ++ (Body.blockComment rest).text ++ (Body.blockComment rest).rest =
          '/' :: '*' :: rest := by
        rw [List.append_assoc, Body.blockComment_append]
        rfl
      have hfirst := ((Body.isClosedFrom_blockComment hclosed).cons '*').cons '/'
      rw [← hwhole] at hfirst
      refine .inr ⟨?_, hfirst⟩
      rw [hwhole]
      exact ⟨rest, rfl⟩
    · exact trivial
  · rw [mark_of_head?_ne hdash hslash]
    cases hread : Delimiter.read? (c :: cs) with
    | none => exact trivial
    | some entry =>
      obtain ⟨text, d⟩ := entry
      obtain ⟨⟨-, hwritten⟩, hlongest⟩ := Delimiter.longest_read? hread
      obtain ⟨rest, hrest⟩ := hlongest.isPrefix
      have hno {a b : Char} (hmark : c = a → ∀ d ∈ cs.head?, d ≠ b) : ¬ [a, b] <+: c :: cs := by
        rintro ⟨ds, hds⟩
        obtain ⟨rfl, hcs⟩ := List.cons.inj (show a :: b :: ds = c :: cs from hds)
        exact hmark rfl b (by rw [← hcs]; rfl) rfl
      have hwhole : text ++ (c :: cs).drop text.length = c :: cs := by
        rw [← hrest, List.drop_left]
      refine .inr ⟨hwritten, ?_⟩
      rw [hwhole]
      exact ⟨hlongest, hno hdash, hno hslash⟩

theorem munch_read (previous : Option Kind) (c : Char) (cs : List Char) :
    (read previous c cs).kind.Munch (read previous c cs).text (read previous c cs).rest := by
  fun_cases read previous c cs with
  | case1 => exact kind_apostrophe (p := fun kind => kind.Munch _ _) _ _ (.inl rfl) trivial
  | case2 => exact Body.kind_lexeme (p := fun kind => kind.Munch _ _) _ _ _ trivial trivial
  | case3 => exact Body.kind_lexeme (p := fun kind => kind.Munch _ _) _ _ _ trivial trivial
  | case4 =>
    exact kind_numberTail (p := fun kind => kind.Munch _ _) _ _ trivial trivial trivial trivial
  | case5 _ _ _ _ hc => exact munch_word hc cs
  | case6 => exact munch_mark c cs

end Lexeme

/-- *Maximal munch.* Of the tokens of a source,

* a reserved word or identifier is a maximal run of letters, digits and underlines, is not the base
  of a bit string, and is the reserved word that it spells in letters of either case, if any;
* a delimiter other than the tick is written as its kind is, no longer delimiter stands in front of
  what the source holds from there on, and no comment begins there;
* a comment is two dashes and the longest run of characters that end no line, or a slash, a star and
  what follows up to the first mark behind the two that closes the comment. -/
theorem Token.maximal_munch {source : String} {t : Token} (ht : t ∈ readAll source) :
    (t.kind = .ident ∨ t.kind.isWord = true →
      IsMaximalWord (t.text source).toList (t.beyond source) ∧
        ∀ w : Word, t.kind = .word w ↔ (t.text source).toLower = w.spelling) ∧
    (∀ d ≠ Delimiter.tick, t.kind = .delimiter d →
      d.IsWritten (t.text source).toList ∧
        IsLongestPrefix Delimiter.written (t.text source).toList (t.onward source) ∧
        ¬ ['-', '-'] <+: t.onward source ∧ ¬ ['/', '*'] <+: t.onward source) ∧
    (t.kind = .comment → IsComment (t.text source).toList (t.onward source)) := by
  rcases exists_read ht with ⟨hend, -⟩ | ⟨previous, c, cs, honward, hkind, htext, hbeyond⟩
  · rw [hend]
    exact ⟨fun h => h.elim nofun nofun, nofun, nofun⟩
  · have hmunch := Lexeme.munch_read previous c cs
    rw [← hkind, ← htext, ← hbeyond] at hmunch
    have hwhole : (t.text source).toList ++ t.beyond source = t.onward source := by
      rw [honward, htext, hbeyond, Lexeme.read_append]
    refine ⟨fun h => ?_, fun d hd h => ?_, fun h => ?_⟩
    · have hword := hmunch.of_isWord h
      rwa [String.ofList_toList] at hword
    · rw [h] at hmunch
      rw [← hwhole]
      exact hmunch.resolve_left hd
    · rw [h] at hmunch
      rw [← hwhole]
      exact hmunch

/-- A word, a delimiter that begins with a shorter one, and a comment that the star that opens it
does not close. -/
theorem Token.maximal_munch_matching :
    let source := "Is?/=/*/ */"
    let word : Token := ⟨.word .is, ⟨0, 2⟩⟩
    let mark : Token := ⟨.delimiter .matchNotEq, ⟨2, 5⟩⟩
    let comment : Token := ⟨.comment, ⟨5, 11⟩⟩
    (word ∈ readAll source ∧ mark ∈ readAll source ∧ comment ∈ readAll source) ∧
      IsMaximalWord (word.text source).toList (word.beyond source) ∧
      IsLongestPrefix Delimiter.written (mark.text source).toList (mark.onward source) ∧
      IsComment (comment.text source).toList (comment.onward source) := by
  intro source word mark comment
  have hword : word ∈ readAll source := by decide +kernel
  have hmark : mark ∈ readAll source := by decide +kernel
  have hcomment : comment ∈ readAll source := by decide +kernel
  exact ⟨⟨hword, hmark, hcomment⟩, ((maximal_munch hword).1 (.inr rfl)).1,
    ((maximal_munch hmark).2.1 .matchNotEq nofun rfl).2.1, (maximal_munch hcomment).2.2 rfl⟩

end VhdlLayout
