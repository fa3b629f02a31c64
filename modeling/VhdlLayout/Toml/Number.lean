import VhdlLayout.Toml.Basic
import VhdlLayout.Toml.Quoted

/-!
# Numbers

Whole numbers are written in decimal digits with an optional sign, or without one
after `0x`, `0o` or `0b`; they must fit into 64 bits. Any other number has a
fraction or an exponent and is rounded to a binary64 number. A single underscore
may stand between two digits. A decimal number has no zeros in front.

A number that is too great for the binary64 format is refused; its negative is
read as negative infinity.
-/

namespace VhdlLayout.Toml

/-- The whole number, if it fits into 64 bits. -/
def integer? (n : Int) : Option Scalar :=
  if Int64.minValue.toInt ≤ n ∧ n ≤ Int64.maxValue.toInt then some (.integer n) else none

/-- The number nearest to the given decimal, unless it is too great. -/
def float? (negative : Bool) (digits : List Char) (exponent : Int) : Option Scalar :=
  match Binary64.ofDecimal negative (Nat.ofDigitChars 10 digits 0) exponent with
  | .infinite false => none
  | x => some (.float x)

/-- The number, or its negative. -/
def signed (negative : Bool) (n : Nat) : Int := if negative then -n else n

namespace Rule

/-- Takes a sign, if there is one, and tells whether it is a minus. -/
def sign : Rule Bool :=
  (do char '-'; pure true) <|> (do char '+'; pure false) <|> pure false

/-- Takes digits, with single underscores between them, and gives the digits alone. -/
def digits (isDigit : Char → Bool) : Rule (List Char) := do
  let first ← satisfying isDigit
  let others ← many (optional (char '_') *> satisfying isDigit)
  pure (first :: others)

/-- Takes decimal digits without zeros in front. -/
def wholeDigits : Rule (List Char) := (do char '0'; pure ['0']) <|> digits Char.isDigit

/-- Takes the digits after a decimal point, and the point. -/
def fraction : Rule (List Char) := char '.' *> digits Char.isDigit

/-- Takes an exponent. -/
def exponent : Rule Int := do
  char 'e' <|> char 'E'
  let negative ← sign
  pure (signed negative (Nat.ofDigitChars 10 (← digits Char.isDigit) 0))

/-- Takes a number in decimal digits. -/
def decimal : Rule Scalar := do
  let negative ← sign
  let whole ← wholeDigits
  match ← optional fraction, ← optional exponent with
  | none, none => integer? (signed negative (Nat.ofDigitChars 10 whole 0))
  | places, power =>
    float? negative (whole ++ places.getD []) (power.getD 0 - (places.getD []).length)

/-- Takes a whole number in the digits of some base, which is announced by `0` and `mark`. -/
def based (mark : Char) (base : Nat) : Rule Scalar := do
  char '0'
  char mark
  let ds ← digits fun c => (hexDigit? c).any (· < base)
  integer? ((ds.filterMap hexDigit?).foldl (base * · + ·) 0 : Nat)

/-- Takes a number that is spelled by letters. -/
def spelled : Rule Scalar := do
  let negative ← sign
  (do exactly "inf"; pure (.float (.infinite negative))) <|> (do exactly "nan"; pure (.float .nan))

/-- Takes a number. -/
def number : Rule Scalar := based 'x' 16 <|> based 'o' 8 <|> based 'b' 2 <|> spelled <|> decimal

end Rule

end VhdlLayout.Toml
