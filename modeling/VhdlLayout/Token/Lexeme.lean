import VhdlLayout.Token.Literal
import VhdlLayout.Unicode.Alphabetic
import VhdlLayout.Unicode.Numeric

/-!
# Lexemes

The text of one token, cut off the front of a source (`Lexeme.read`). Every
source that does not begin with a blank begins with a lexeme: what begins no
token is a faulty lexeme of its own, so that reading goes on behind it.

A lexeme is never empty and, with the text behind it, is the text that it was
read from (`Lexeme.read_text_ne_nil`, `Lexeme.read_append`).

What a lexeme is depends on its own text and on what follows it, but for the
apostrophe: behind a name it is a tick, elsewhere it opens a character literal
if an apostrophe follows the next character.
-/

namespace VhdlLayout

/-- A character between lexemes that belongs to none. -/
def isBlank (c : Char) : Bool :=
  c == ' ' || c == '\t' || c == '\r' || c == '\n' || c == '\x0b' || c == '\x0c' || c == '\u00a0'

/-- A character that may stand inside a word. -/
def isWordPart (c : Char) : Bool :=
  Unicode.isAlphabetic c || Unicode.isNumeric c || c == '_'

/-- A character that ends a line comment. -/
def endsLine (c : Char) : Bool := c == '\n' || c == '\r'

namespace Lexeme

/-- The lexeme of a reserved word or an identifier with the given text. -/
def ofWord (text rest : List Char) : Lexeme :=
  match Word.ofString? (String.ofList text) with
  | some w => { kind := .word w, text, rest }
  | none => { kind := .ident, text, rest }

/-- The lexeme of the maximal word `text`: a bit string if the word is a base and a quotation mark
follows directly. -/
def ofRun (text : List Char) : List Char → Lexeme
  | '"' :: rest =>
    if isBaseSpecifier text then
      (Body.quoted '"' rest).lexeme (text ++ ['"']) .bitStringLiteral .unterminatedString
    else ofWord text ('"' :: rest)
  | rest => ofWord text rest

/-- The lexeme that begins with the letter `c`: a reserved word, an identifier or a bit string. -/
def word (c : Char) (cs : List Char) : Lexeme :=
  ofRun (c :: cs.takeWhile isWordPart) (cs.dropWhile isWordPart)

/-- What an apostrophe begins, by the kind of the last token before it that is no comment. -/
def apostrophe (previous : Option Kind) : List Char → Lexeme
  | c :: '\'' :: rest =>
    if c = '\n' ∨ previous.any Kind.endsName then
      { kind := .delimiter .tick, text := ['\''], rest := c :: '\'' :: rest }
    else { kind := .charLiteral, text := ['\'', c, '\''], rest }
  | rest => { kind := .delimiter .tick, text := ['\''], rest }

/-- What begins with none of letter, digit and quotation mark: a comment, a delimiter, or else a
character that is no token. -/
def mark (c : Char) (cs : List Char) : Lexeme :=
  match c, cs with
  | '-', '-' :: rest =>
    { kind := .comment, text := '-' :: '-' :: rest.takeWhile (!endsLine ·)
      rest := rest.dropWhile (!endsLine ·) }
  | '/', '*' :: rest =>
    (Body.blockComment rest).lexeme ['/', '*'] .comment .unterminatedBlockComment
  | _, _ =>
    match Delimiter.read? (c :: cs) with
    | some (text, d) => { kind := .delimiter d, text, rest := (c :: cs).drop text.length }
    | none => { kind := .error, text := [c], rest := cs, fault := some (.unexpectedCharacter c) }

/-- The lexeme at the front of the text `c :: cs`, where `c` is no blank and `previous` is the kind
of the last token before it that is no comment. -/
def read (previous : Option Kind) (c : Char) (cs : List Char) : Lexeme :=
  if c = '\'' then apostrophe previous cs
  else if c = '"' then
    (Body.quoted '"' cs).lexeme ['"'] .stringLiteral .unterminatedString
  else if c = '\\' then
    (Body.quoted '\\' cs).lexeme ['\\'] .extendedIdent .unterminatedExtendedIdentifier
  else if c.isDigit then number c cs
  else if Unicode.isAlphabetic c then word c cs
  else mark c cs

theorem ofWord_append (text rest : List Char) :
    (ofWord text rest).text ++ (ofWord text rest).rest = text ++ rest := by
  rw [ofWord]; split <;> rfl

theorem ofRun_append (text cs : List Char) :
    (ofRun text cs).text ++ (ofRun text cs).rest = text ++ cs := by
  fun_cases ofRun text cs
  · rw [Body.lexeme_append, Body.quoted_append]; simp
  · rw [ofWord_append]
  · rw [ofWord_append]

theorem word_append (c : Char) (cs : List Char) :
    (word c cs).text ++ (word c cs).rest = c :: cs := by
  rw [word, ofRun_append, List.cons_append, List.takeWhile_append_dropWhile]

theorem apostrophe_append (previous : Option Kind) (cs : List Char) :
    (apostrophe previous cs).text ++ (apostrophe previous cs).rest = '\'' :: cs := by
  fun_cases apostrophe previous cs <;> simp

theorem mark_append (c : Char) (cs : List Char) :
    (mark c cs).text ++ (mark c cs).rest = c :: cs := by
  unfold mark
  split
  · simp
  · rw [Body.lexeme_append, Body.blockComment_append]; rfl
  · split
    · next text d h =>
      obtain ⟨rest, hrest⟩ := Delimiter.read?_prefix h
      simp only at hrest
      simp [← hrest]
    · rfl

/-- A lexeme and the text behind it are the text that it was read from. -/
theorem read_append (previous : Option Kind) (c : Char) (cs : List Char) :
    (read previous c cs).text ++ (read previous c cs).rest = c :: cs := by
  rw [read]
  split
  · next h => rw [apostrophe_append, h]
  · split
    · next h => rw [Body.lexeme_append, Body.quoted_append, h]; rfl
    · split
      · next h => rw [Body.lexeme_append, Body.quoted_append, h]; rfl
      · split
        · exact number_append c cs
        · split
          · exact word_append c cs
          · exact mark_append c cs

theorem ofWord_text (text rest : List Char) : (ofWord text rest).text = text := by
  rw [ofWord]; split <;> rfl

theorem ofRun_text_ne_nil {text cs : List Char} (h : text ≠ []) : (ofRun text cs).text ≠ [] := by
  fun_cases ofRun text cs
  · exact Body.lexeme_text_ne_nil (by simp)
  · rwa [ofWord_text]
  · rwa [ofWord_text]

theorem word_text_ne_nil (c : Char) (cs : List Char) : (word c cs).text ≠ [] :=
  ofRun_text_ne_nil (by simp)

theorem apostrophe_text_ne_nil (previous : Option Kind) (cs : List Char) :
    (apostrophe previous cs).text ≠ [] := by
  fun_cases apostrophe previous cs <;> simp

theorem mark_text_ne_nil (c : Char) (cs : List Char) : (mark c cs).text ≠ [] := by
  unfold mark
  split
  · simp
  · exact Body.lexeme_text_ne_nil (by simp)
  · split
    · next text d h => exact Delimiter.read?_ne_nil h
    · simp

/-- A lexeme holds at least one character. -/
theorem read_text_ne_nil (previous : Option Kind) (c : Char) (cs : List Char) :
    (read previous c cs).text ≠ [] := by
  rw [read]
  split
  · exact apostrophe_text_ne_nil previous cs
  · split
    · exact Body.lexeme_text_ne_nil (by simp)
    · split
      · exact Body.lexeme_text_ne_nil (by simp)
      · split
        · exact number_text_ne_nil c cs
        · split
          · exact word_text_ne_nil c cs
          · exact mark_text_ne_nil c cs

/-- The text behind a lexeme is shorter than the text that the lexeme was read from. -/
theorem read_rest_length (previous : Option Kind) (c : Char) (cs : List Char) :
    (read previous c cs).rest.length < (c :: cs).length := by
  have whole := congrArg List.length (read_append previous c cs)
  have some := List.length_pos_iff.mpr (read_text_ne_nil previous c cs)
  rw [List.length_append] at whole
  omega

end Lexeme

end VhdlLayout
