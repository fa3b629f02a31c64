import Mathlib
import VhdlLayout.Proofs.Token.Lexemes

/-!
# Ticks and character literals

An apostrophe behind a name is a tick, even if a character and another apostrophe
follow; elsewhere these three are a character literal. Of all that stands before it the
reader knows one kind only, which it carries from token to token. That this is the kind
of the last token that is no comment, however far back that is, holds wherever a reader
gets to in a source (`Token.exists_read_behind`): a comment leaves it as it is, and
any other token, a malformed one included, takes its place
(`Token.lastSaid?_cons_or`). So which of the two an apostrophe is can be told from the
tokens before it and from the two characters behind it (`Token.apostrophe_exact`).
-/

namespace VhdlLayout

/-- The kinds of the tokens that a name may end with. -/
def nameEnds : List Kind :=
  [.ident, .extendedIdent, .delimiter .rparen, .delimiter .rbracket, .word .all]

theorem Kind.endsName_iff {kind : Kind} : kind.endsName = true ↔ kind ∈ nameEnds := by
  unfold endsName
  split <;> simp_all [nameEnds]

/-! ## The tokens before -/

/-- The last of the tokens that is no comment. -/
def Token.lastSaid? (ts : List Token) : Option Token := (ts.filter (·.kind != .comment)).getLast?

/-- With another token in front, the last one is the same or, if there is none but comments, that
token. -/
theorem Token.lastSaid?_cons_or (previous : Option Kind) (t : Token) (ts : List Token) :
    ((lastSaid? (t :: ts)).map Token.kind).or previous =
      ((lastSaid? ts).map Token.kind).or (Reader.previousAfter previous t.kind) := by
  rw [lastSaid?, lastSaid?, Reader.previousAfter]
  by_cases hcomment : t.kind = .comment
  · rw [List.filter_cons_of_neg (by simp [hcomment]), if_pos hcomment]
  · rw [List.filter_cons_of_pos (by simp [hcomment]), if_neg hcomment, List.getLast?_cons]
    cases (ts.filter (·.kind != .comment)).getLast? <;> rfl

namespace Reader

variable {r : Reader} {t : Reading} {source : String} {done : List Char}

theorem exists_next?_of_readings {rest : List Reading} (h : r.readings = t :: rest) :
    ∃ s, r.next? = some (t, s) ∧ s.readings = rest := by
  cases hnext : r.next? with
  | none =>
    rw [readings_of_next?_eq_none hnext] at h
    cases h
  | some step =>
    obtain ⟨u, s⟩ := step
    rw [readings_of_next? hnext] at h
    obtain ⟨rfl, rfl⟩ := List.cons.inj h
    exact ⟨s, rfl, rfl⟩

/-- Each reading has been read by a reader that knows the kind of the last token before it that is
no comment. -/
theorem StandsIn.exists_next? {before after : List Reading} (hr : r.StandsIn source done)
    (h : r.readings = before ++ t :: after) :
    ∃ (s s' : Reader) (done' : List Char), s.StandsIn source done' ∧ s.next? = some (t, s') ∧
      s.previous = ((Token.lastSaid? (before.map Reading.token)).map Token.kind).or r.previous := by
  induction before generalizing r done with
  | nil =>
    obtain ⟨s', hnext, -⟩ := exists_next?_of_readings h
    exact ⟨r, s', done, hr, hnext, rfl⟩
  | cons u before ih =>
    obtain ⟨s, hnext, hrest⟩ := exists_next?_of_readings h
    obtain ⟨done', hs⟩ := hr.next hnext
    obtain ⟨q, q', done'', hq, hqnext, hprevious⟩ := ih hs hrest
    refine ⟨q, q', done'', hq, hqnext, ?_⟩
    rcases hr.lexeme_of_next? hnext with ⟨-, -, -, -, hfinished⟩ |
      ⟨c, cs, -, -, hlexeme, -, hbehind, -⟩
    · -- Nothing is read behind the end of the source.
      rw [readings_of_finished hfinished] at hrest
      exact absurd hrest.symm (List.append_ne_nil_of_right_ne_nil _ (List.cons_ne_nil _ _))
    · have hkind : (Lexeme.read r.previous c cs).kind = u.token.kind :=
        (congrArg Lexeme.kind hlexeme).symm
      rw [hprevious, hbehind, hkind, List.map_cons, Token.lastSaid?_cons_or]

/-- The end of the source has no text. -/
theorem text_of_next?_eof {s : Reader} (h : r.next? = some (t, s)) (hkind : t.token.kind = .eof) :
    t.token.text source = "" := by
  obtain ⟨_, start, -, ⟨-, rfl, -⟩ | ⟨c, cs, stop, -, -, rfl, -⟩⟩ := next?_cases h
  · simp [Token.text, Span.text, String.Pos.Raw.extract]
  · exact absurd hkind (Lexeme.kind_read_ne_eof _ _ _)

end Reader

/-- A token is empty, as the end of its source is, or has been read with the kind in mind of the
last token before it that is no comment. -/
theorem Token.exists_read_behind {source : String} {before after : List Token} {t : Token}
    (h : readAll source = before ++ t :: after) :
    t.text source = "" ∨ ∃ c cs, t.onward source = c :: cs ∧
      t.kind = (Lexeme.read ((lastSaid? before).map Token.kind) c cs).kind ∧
      (t.text source).toList = (Lexeme.read ((lastSaid? before).map Token.kind) c cs).text := by
  obtain ⟨rs, rs', hreadings, rfl, hrs'⟩ := List.map_eq_append_iff.1 h
  obtain ⟨r, rs', rfl, rfl, rfl⟩ := List.map_eq_cons_iff.1 hrs'
  obtain ⟨s, s', done, hs, hnext, hprevious⟩ :=
    (Reader.standsIn_ofSource source).exists_next? hreadings
  replace hprevious := hprevious.trans Option.or_none
  rcases hs.lexeme_of_next? hnext with ⟨-, hkind, -⟩ | ⟨c, cs, -, honward, hlexeme, -⟩
  · exact .inl (Reader.text_of_next?_eof hnext hkind)
  · rw [hprevious] at hlexeme
    exact .inr ⟨c, cs, honward, congrArg Lexeme.kind hlexeme, congrArg Lexeme.text hlexeme⟩

/-! ## Apostrophes -/

/-- What begins with an apostrophe begins with a character literal, where `previous` is the kind of
the last token before it that is no comment: no name ends there, and one character of the line
stands before the next apostrophe. -/
structure OpensLiteral (previous : Option Kind) (onward : List Char) : Prop where
  not_mem_nameEnds : ∀ kind ∈ previous, kind ∉ nameEnds
  exists_char : ∃ c ≠ '\n', ['\'', c, '\''] <+: onward

namespace Lexeme

theorem head?_read_text (previous : Option Kind) (c : Char) (cs : List Char) :
    (read previous c cs).text.head? = some c := by
  obtain ⟨d, ds, htext⟩ := List.exists_cons_of_ne_nil (read_text_ne_nil previous c cs)
  have hwhole := read_append previous c cs
  rw [htext] at hwhole ⊢
  rw [(List.cons.inj hwhole).1]
  rfl

variable {previous : Option Kind} {cs : List Char}

theorem apostrophe_of_opensLiteral (h : OpensLiteral previous ('\'' :: cs)) :
    (apostrophe previous cs).kind = .charLiteral ∧ (apostrophe previous cs).text.length = 3 := by
  obtain ⟨hprevious, c, hc, rest, hrest⟩ := h
  obtain rfl : c :: '\'' :: rest = cs := (List.cons.inj hrest).2
  have hname : ¬(c = '\n' ∨ previous.any Kind.endsName = true) := by
    rintro (hline | hname)
    · exact hc hline
    · cases previous with
      | none => cases hname
      | some kind => exact hprevious kind rfl (Kind.endsName_iff.1 hname)
  rw [apostrophe, if_neg hname]
  exact ⟨rfl, rfl⟩

theorem apostrophe_of_not_opensLiteral (h : ¬OpensLiteral previous ('\'' :: cs)) :
    (apostrophe previous cs).kind = .delimiter .tick ∧
      (apostrophe previous cs).text.length = 1 := by
  fun_cases apostrophe previous cs with
  | case1 => exact ⟨rfl, rfl⟩
  | case2 c rest hname =>
    obtain ⟨hc, hends⟩ := not_or.1 hname
    refine absurd ⟨fun kind hkind hmem => hends ?_, c, hc, rest, rfl⟩ h
    rw [Option.mem_def.1 hkind]
    exact Kind.endsName_iff.2 hmem
  | case3 => exact ⟨rfl, rfl⟩

end Lexeme

/-- *Ticks and character literals.* Of the tokens of a source, one that begins with an apostrophe is
a character literal just if one opens there, whatever blanks and comments stand before it, and then
it has three characters. Otherwise it is a tick, and the apostrophe is all of it. -/
theorem Token.apostrophe_exact {source : String} {before after : List Token} {t : Token}
    (hread : readAll source = before ++ t :: after)
    (ht : (t.text source).toList.head? = some '\'') :
    let previous := (lastSaid? before).map Token.kind
    (t.kind = .charLiteral ↔ OpensLiteral previous (t.onward source)) ∧
      (t.kind = .charLiteral → (t.text source).length = 3) ∧
      (¬OpensLiteral previous (t.onward source) →
        t.kind = .delimiter .tick ∧ (t.text source).length = 1) := by
  intro previous
  rcases exists_read_behind hread with hempty | ⟨c, cs, honward, hkind, htext⟩
  · rw [hempty] at ht
    cases ht
  · rw [htext, Lexeme.head?_read_text, Option.some.injEq] at ht
    subst ht
    have hlexeme : Lexeme.read previous '\'' cs = Lexeme.apostrophe previous cs := if_pos rfl
    rw [hlexeme] at hkind htext
    rw [honward, hkind, ← String.length_toList, htext]
    by_cases hopens : OpensLiteral previous ('\'' :: cs)
    · obtain ⟨hliteral, hlength⟩ := Lexeme.apostrophe_of_opensLiteral hopens
      exact ⟨iff_of_true hliteral hopens, fun _ => hlength, absurd hopens⟩
    · obtain ⟨htick, hlength⟩ := Lexeme.apostrophe_of_not_opensLiteral hopens
      have hno : Kind.delimiter .tick ≠ .charLiteral := by decide
      rw [htick]
      exact ⟨iff_of_false hno hopens, fun h => absurd h hno, fun _ => ⟨rfl, hlength⟩⟩

/-- Behind a parenthesis that closes, the comment between does not make it a literal. -/
theorem Token.apostrophe_exact_qualified :
    let source := "a'('b') /* ' */ 'c'"
    let readBefore : List Token := [⟨.ident, ⟨0, 1⟩⟩, ⟨.delimiter .tick, ⟨1, 2⟩⟩,
      ⟨.delimiter .lparen, ⟨2, 3⟩⟩, ⟨.charLiteral, ⟨3, 6⟩⟩, ⟨.delimiter .rparen, ⟨6, 7⟩⟩,
      ⟨.comment, ⟨8, 15⟩⟩]
    let t : Token := ⟨.delimiter .tick, ⟨16, 17⟩⟩
    readAll source = readBefore ++
      t :: [⟨.ident, ⟨17, 18⟩⟩, ⟨.delimiter .tick, ⟨18, 19⟩⟩, ⟨.eof, ⟨19, 19⟩⟩] ∧
    (t.text source).toList.head? = some '\'' ∧
    (t.kind = .charLiteral ↔
      OpensLiteral ((lastSaid? readBefore).map Token.kind) (t.onward source)) := by
  intro source readBefore t
  have hread : readAll source = readBefore ++
      t :: [⟨.ident, ⟨17, 18⟩⟩, ⟨.delimiter .tick, ⟨18, 19⟩⟩, ⟨.eof, ⟨19, 19⟩⟩] := by
    decide +kernel
  have ht : (t.text source).toList.head? = some '\'' := by decide +kernel
  exact ⟨hread, ht, (apostrophe_exact hread ht).1⟩

end VhdlLayout
