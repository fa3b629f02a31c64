import VhdlLayout.Token.Fault
import VhdlLayout.Token.Kind

/-!
# Literals

How much of a text the literals take: quoted bodies, numbers and bit strings.
Each function splits the text into what it takes and what it leaves, so that the
two together are the text (`Body.text_append_rest`, `exponent_append`,
`number_append`).

A quoted body ends at its delimiter; a doubled delimiter stands for one and does
not end it. It never goes past the end of its line.

A number is a run of digits and underlines with, perhaps, more behind it: a
number sign and the digits of a based literal, a base and a quoted body, a
fraction, an exponent. What does not fit is left for the next token.
-/

namespace VhdlLayout

/-- A lexeme: the text of one token, what it is, and the text after it. -/
structure Lexeme where
  kind : Kind
  text : List Char
  rest : List Char
  /-- Why the text is no token, where it is none. -/
  fault : Option Fault := none
deriving DecidableEq, Repr

/-! ## Quoted bodies -/

/-- The text behind an opening delimiter, up to and with the closing one if there is one. -/
structure Body where
  text : List Char
  closed : Bool
  rest : List Char
deriving DecidableEq, Repr

namespace Body

/-- The body with more text in front. -/
def prepend (cs : List Char) (b : Body) : Body := { b with text := cs ++ b.text }

/-- The body of a literal that `delim` closes, on one line. -/
def quoted (delim : Char) : List Char → Body
  | [] => ⟨[], false, []⟩
  | c :: cs =>
    if c = '\n' then ⟨[], false, c :: cs⟩
    else if c = delim then
      match cs with
      | [] => ⟨[c], true, []⟩
      | d :: ds => if d = delim then (quoted delim ds).prepend [c, d] else ⟨[c], true, d :: ds⟩
    else (quoted delim cs).prepend [c]

/-- The body of a block comment. Comments do not nest. -/
def blockComment : List Char → Body
  | [] => ⟨[], false, []⟩
  | c :: cs =>
    match c, cs with
    | '*', '/' :: ds => ⟨['*', '/'], true, ds⟩
    | _, _ => (blockComment cs).prepend [c]

theorem quoted_append (delim : Char) (cs : List Char) :
    (quoted delim cs).text ++ (quoted delim cs).rest = cs := by
  fun_induction quoted delim cs <;> simp_all [prepend]

theorem blockComment_append (cs : List Char) :
    (blockComment cs).text ++ (blockComment cs).rest = cs := by
  fun_induction blockComment cs <;> simp_all [prepend]

/-- The lexeme that opens with `lead` and goes on with the body: of the given kind if the body is
closed, and faulty if it is not. -/
def lexeme (b : Body) (lead : List Char) (kind : Kind) (fault : Fault) : Lexeme :=
  if b.closed then { kind, text := lead ++ b.text, rest := b.rest }
  else { kind := .error, text := lead ++ b.text, rest := b.rest, fault := some fault }

theorem lexeme_append (b : Body) (lead : List Char) (kind : Kind) (fault : Fault) :
    (b.lexeme lead kind fault).text ++ (b.lexeme lead kind fault).rest =
      lead ++ (b.text ++ b.rest) := by
  rw [lexeme]; split <;> simp

theorem lexeme_text_ne_nil {b : Body} {lead : List Char} {kind : Kind} {fault : Fault}
    (h : lead ≠ []) : (b.lexeme lead kind fault).text ≠ [] := by
  rw [lexeme]; split <;> simp [h]

end Body

/-! ## Numbers -/

/-- A decimal digit or an underline between digits. -/
def isDigitPart (c : Char) : Bool := c.isDigit || c == '_'

/-- A hexadecimal digit. -/
def isHexDigit (c : Char) : Bool :=
  c.isDigit || ('a' ≤ c && c ≤ 'f') || ('A' ≤ c && c ≤ 'F')

/-- A hexadecimal digit or an underline between digits. -/
def isHexPart (c : Char) : Bool := isHexDigit c || c == '_'

/-- The bases of bit strings, in small letters. -/
def baseSpecifiers : List (List Char) := [
  ['b'], ['o'], ['x'], ['d'], ['u', 'b'], ['u', 'o'], ['u', 'x'], ['s', 'b'], ['s', 'o'],
  ['s', 'x']]

/-- The text is the base of a bit string, in letters of either case. -/
def isBaseSpecifier (cs : List Char) : Bool := baseSpecifiers.contains (cs.map Char.toLower)

/-- A base of bit strings, in a letter of either case. -/
def isBaseLetter (c : Char) : Bool := ['b', 'o', 'x', 'd'].contains c.toLower

/-- What may stand before a base: the bit string is a number with or without a sign. -/
def isBaseSign (c : Char) : Bool := ['u', 's'].contains c.toLower

/-- A base that a sign may stand before. -/
def isSignedBase (c : Char) : Bool := ['b', 'o', 'x'].contains c.toLower

/-- The base of a bit string that a number stands before, with the quotation mark directly behind
it, and the text behind the mark. -/
def sizedBase? : List Char → Option (List Char × List Char)
  | a :: '"' :: cs => if isBaseLetter a then some ([a, '"'], cs) else none
  | a :: b :: '"' :: cs =>
    if isBaseSign a && isSignedBase b then some ([a, b, '"'], cs) else none
  | _ => none

theorem isBaseSpecifier_singleton (a : Char) : isBaseSpecifier [a] = isBaseLetter a := by
  simp [isBaseSpecifier, baseSpecifiers, isBaseLetter]

theorem isBaseSpecifier_pair (a b : Char) :
    isBaseSpecifier [a, b] = (isBaseSign a && isSignedBase b) := by
  rw [Bool.eq_iff_iff]
  simp [isBaseSpecifier, baseSpecifiers, isBaseSign, isSignedBase]
  grind

/-- The bases behind a number are those behind none. -/
theorem sizedBase?_eq (cs : List Char) :
    sizedBase? cs =
      match cs with
      | a :: '"' :: cs => if isBaseSpecifier [a] then some ([a, '"'], cs) else none
      | a :: b :: '"' :: cs => if isBaseSpecifier [a, b] then some ([a, b, '"'], cs) else none
      | _ => none := by
  simp only [isBaseSpecifier_singleton, isBaseSpecifier_pair]
  rfl

/-- The exponent that the text begins with, and the text behind it. An `e` without digits is no
exponent. -/
def exponent : List Char → List Char × List Char
  | e :: cs =>
    if e = 'e' ∨ e = 'E' then
      match cs with
      | s :: d :: ds =>
        if s = '+' ∨ s = '-' then
          if d.isDigit then (e :: s :: d :: ds.takeWhile isDigitPart, ds.dropWhile isDigitPart)
          else ([], e :: cs)
        else if s.isDigit then
          (e :: s :: (d :: ds).takeWhile isDigitPart, (d :: ds).dropWhile isDigitPart)
        else ([], e :: cs)
      | [s] => if s.isDigit then ([e, s], []) else ([], e :: cs)
      | [] => ([], [e])
    else ([], e :: cs)
  | [] => ([], [])

theorem exponent_append (cs : List Char) : (exponent cs).1 ++ (exponent cs).2 = cs := by
  fun_cases exponent cs <;> simp_all

/-- The literal with the given text, and the exponent behind it if there is one. -/
def withExponent (kind : Kind) (text rest : List Char) : Lexeme :=
  { kind, text := text ++ (exponent rest).1, rest := (exponent rest).2 }

theorem withExponent_append (kind : Kind) (text rest : List Char) :
    (withExponent kind text rest).text ++ (withExponent kind text rest).rest = text ++ rest := by
  simp [withExponent, exponent_append]

/-- The based literal with the given text if a second number sign follows, with its exponent;
otherwise the text is faulty. -/
def closeBased (kind : Kind) (text : List Char) : List Char → Lexeme
  | '#' :: rest => withExponent kind (text ++ ['#']) rest
  | rest =>
    { kind := .error, text, rest, fault := some (.invalidBasedLiteral (String.ofList text)) }

/-- The based literal whose integer part, base and number sign included, is `digits`. A point and
more digits make it a real one. -/
def basedTail (digits : List Char) : List Char → Lexeme
  | '.' :: rest =>
    closeBased .realLiteral (digits ++ '.' :: rest.takeWhile isHexPart) (rest.dropWhile isHexPart)
  | rest => closeBased .intLiteral digits rest

/-- The number with the digits `digits` before a text that is no based literal and no bit string:
a fraction belongs to it if a digit follows the point. -/
def decimal (digits : List Char) : List Char → Lexeme
  | '.' :: d :: ds =>
    if d.isDigit then
      withExponent .realLiteral (digits ++ '.' :: (d :: ds).takeWhile isDigitPart)
        ((d :: ds).dropWhile isDigitPart)
    else withExponent .intLiteral digits ('.' :: d :: ds)
  | rest => withExponent .intLiteral digits rest

/-- The number whose first run of digits is `digits`: a based literal if a number sign follows, a
bit string if a base and a quotation mark do. -/
def numberTail (digits : List Char) : List Char → Lexeme
  | '#' :: rest =>
    basedTail (digits ++ '#' :: rest.takeWhile isHexPart) (rest.dropWhile isHexPart)
  | rest =>
    match sizedBase? rest with
    | some (base, body) =>
      (Body.quoted '"' body).lexeme (digits ++ base) .bitStringLiteral .unterminatedString
    | none => decimal digits rest

/-- The number that begins with the digit `c`. -/
def number (c : Char) (cs : List Char) : Lexeme :=
  numberTail (c :: cs.takeWhile isDigitPart) (cs.dropWhile isDigitPart)

theorem sizedBase?_append {cs base body : List Char} (h : sizedBase? cs = some (base, body)) :
    base ++ body = cs := by
  revert h; fun_cases sizedBase? cs <;> simp_all <;> rintro rfl rfl <;> rfl

theorem closeBased_append (kind : Kind) (text cs : List Char) :
    (closeBased kind text cs).text ++ (closeBased kind text cs).rest = text ++ cs := by
  fun_cases closeBased kind text cs <;> simp [withExponent_append]

theorem basedTail_append (digits cs : List Char) :
    (basedTail digits cs).text ++ (basedTail digits cs).rest = digits ++ cs := by
  fun_cases basedTail digits cs <;> simp [closeBased_append]

theorem decimal_append (digits cs : List Char) :
    (decimal digits cs).text ++ (decimal digits cs).rest = digits ++ cs := by
  fun_cases decimal digits cs <;> simp_all [withExponent_append]

theorem numberTail_append (digits cs : List Char) :
    (numberTail digits cs).text ++ (numberTail digits cs).rest = digits ++ cs := by
  unfold numberTail
  split
  · simp [basedTail_append]
  · split
    · next h => simp [Body.lexeme_append, Body.quoted_append, ← sizedBase?_append h]
    · exact decimal_append _ _

/-- A number and the text behind it are the text that it was read from. -/
theorem number_append (c : Char) (cs : List Char) :
    (number c cs).text ++ (number c cs).rest = c :: cs := by
  rw [number, numberTail_append, List.cons_append, List.takeWhile_append_dropWhile]

theorem closeBased_text_ne_nil {kind : Kind} {text cs : List Char} (h : text ≠ []) :
    (closeBased kind text cs).text ≠ [] := by
  fun_cases closeBased kind text cs <;> simp [withExponent, h]

theorem basedTail_text_ne_nil {digits cs : List Char} (h : digits ≠ []) :
    (basedTail digits cs).text ≠ [] := by
  fun_cases basedTail digits cs <;> exact closeBased_text_ne_nil (by simp [h])

theorem decimal_text_ne_nil {digits cs : List Char} (h : digits ≠ []) :
    (decimal digits cs).text ≠ [] := by
  fun_cases decimal digits cs <;> simp [withExponent, h]

theorem number_text_ne_nil (c : Char) (cs : List Char) : (number c cs).text ≠ [] := by
  unfold number numberTail
  split
  · exact basedTail_text_ne_nil (by simp)
  · split
    · exact Body.lexeme_text_ne_nil (by simp)
    · exact decimal_text_ne_nil (by simp)

end VhdlLayout
