import Mathlib
import VhdlLayout.Token.Lexeme

/-!
# Kinds of lexemes

Which kinds of lexemes the functions can read that take them off a text. To show
something of all kinds that such a function can give, it is enough to show it of
the few that it chooses from, whatever the text.

Which word it is that a word spells, its text tells; so for words it has to be shown
of all of them. The end of a source is the kind of no lexeme at all
(`Lexeme.kind_read_ne_eof`).
-/

namespace VhdlLayout

variable {p : Kind → Prop} {kind : Kind}

/-- What is quoted is what it is meant to be, or malformed. -/
theorem Body.kind_lexeme (b : Body) (lead : List Char) (fault : Fault) (hkind : p kind)
    (herror : p .error) : p (b.lexeme lead kind fault).kind := by
  rw [lexeme]
  split
  · exact hkind
  · exact herror

theorem kind_closeBased (text cs : List Char) (hkind : p kind) (herror : p .error) :
    p (closeBased kind text cs).kind := by
  fun_cases closeBased kind text cs
  · exact hkind
  · exact herror

theorem kind_basedTail (digits cs : List Char) (hint : p .intLiteral) (hreal : p .realLiteral)
    (herror : p .error) : p (basedTail digits cs).kind := by
  fun_cases basedTail digits cs
  · exact kind_closeBased _ _ hreal herror
  · exact kind_closeBased _ _ hint herror

theorem kind_decimal (digits cs : List Char) (hint : p .intLiteral) (hreal : p .realLiteral) :
    p (decimal digits cs).kind := by
  fun_cases decimal digits cs
  · exact hreal
  · exact hint
  · exact hint

/-- What begins with a digit is a number, a bit string, or malformed. -/
theorem kind_numberTail (digits cs : List Char) (hint : p .intLiteral) (hreal : p .realLiteral)
    (hbits : p .bitStringLiteral) (herror : p .error) : p (numberTail digits cs).kind := by
  fun_cases numberTail digits cs
  · exact kind_basedTail _ _ hint hreal herror
  · exact Body.kind_lexeme _ _ _ hbits herror
  · exact kind_decimal _ _ hint hreal

namespace Lexeme

theorem kind_apostrophe (previous : Option Kind) (cs : List Char) (htick : p (.delimiter .tick))
    (hchar : p .charLiteral) : p (apostrophe previous cs).kind := by
  fun_cases apostrophe previous cs
  · exact htick
  · exact hchar
  · exact htick

theorem kind_mark (c : Char) (cs : List Char) (hcomment : p .comment)
    (hdelimiter : ∀ d, p (.delimiter d)) (herror : p .error) : p (mark c cs).kind := by
  unfold mark
  split
  · exact hcomment
  · exact Body.kind_lexeme _ _ _ hcomment herror
  · split
    · exact hdelimiter _
    · exact herror

theorem kind_ofWord (text rest : List Char) (hword : ∀ w, p (.word w)) (hident : p .ident) :
    p (ofWord text rest).kind := by
  rw [ofWord]
  split
  · exact hword _
  · exact hident

/-- No lexeme is the end of a source. -/
theorem kind_read_ne_eof (previous : Option Kind) (c : Char) (cs : List Char) :
    (read previous c cs).kind ≠ .eof := by
  fun_cases read previous c cs
  · exact kind_apostrophe (p := (· ≠ .eof)) _ _ (by simp) (by simp)
  · exact Body.kind_lexeme (p := (· ≠ .eof)) _ _ _ (by simp) (by simp)
  · exact Body.kind_lexeme (p := (· ≠ .eof)) _ _ _ (by simp) (by simp)
  · exact kind_numberTail (p := (· ≠ .eof)) _ _ (by simp) (by simp) (by simp) (by simp)
  · rw [word]
    fun_cases ofRun (c :: cs.takeWhile isWordPart) (cs.dropWhile isWordPart)
    · exact Body.kind_lexeme (p := (· ≠ .eof)) _ _ _ (by simp) (by simp)
    · exact kind_ofWord (p := (· ≠ .eof)) _ _ (by simp) (by simp)
    · exact kind_ofWord (p := (· ≠ .eof)) _ _ (by simp) (by simp)
  · exact kind_mark (p := (· ≠ .eof)) _ _ (by simp) (by simp) (by simp)

end Lexeme

end VhdlLayout
