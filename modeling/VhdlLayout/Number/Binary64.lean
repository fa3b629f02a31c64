/-!
# Binary64 numbers

The numbers of the 64-bit binary format, and how a decimal number is rounded to
one of them: to the nearest, and from half way to the one whose significand is
even. All arithmetic is on whole numbers, so every decimal number is rounded as
the exact number it is.
-/

namespace VhdlLayout

/-- A number of the 64-bit binary format. -/
inductive Binary64 where
  /-- The number `significand * 2 ^ exponent`, or its negative. Zero has a sign. -/
  | finite (negative : Bool) (significand : Nat) (exponent : Int)
  | infinite (negative : Bool)
  | nan
deriving DecidableEq, Repr

namespace Binary64

/-- The least exponent, that of the numbers next to zero. -/
def leastExponent : Int := -1074

/-- The greatest exponent. -/
def greatestExponent : Int := 971

/-- The number `n * base ^ exponent`, or just `n` if the exponent is negative. -/
def scaled (base n : Nat) (exponent : Int) : Nat := n * Nat.pow base exponent.toNat

/-- The least significand of a number whose exponent is not the least. -/
def leastSignificand : Nat := scaled 2 1 52

/-- The quotient rounded to the nearest whole number, and from half way to the even one. -/
def roundedQuotient (n d : Nat) : Nat :=
  if 2 * (n % d) < d ∨ 2 * (n % d) = d ∧ n / d % 2 = 0 then n / d else n / d + 1

/-- The greatest `e` with `2 ^ e ≤ n / d`, where `log` is the difference of the logarithms of `n`
and `d`. It can be one less than that. -/
def logOfRatio (n d : Nat) (log : Int) : Int :=
  if scaled 2 n (-log) < scaled 2 d log then log - 1 else log

/-- The exponent of the numbers among which `n / d` lies. -/
def exponentOfRatio (n d : Nat) : Int :=
  max (logOfRatio n d ((n.log2 : Int) - d.log2) - 52) leastExponent

/-- The number, or infinity if its exponent is beyond the greatest. -/
def bounded (negative : Bool) (significand : Nat) (exponent : Int) : Binary64 :=
  if exponent > greatestExponent then .infinite negative
  else .finite negative significand exponent

/-- The number with a significand of at most `2 * leastSignificand`. -/
def ofSignificand (negative : Bool) (significand : Nat) (exponent : Int) : Binary64 :=
  if significand = 2 * leastSignificand then bounded negative leastSignificand (exponent + 1)
  else bounded negative significand exponent

/-- The multiple of `2 ^ exponent` that is nearest to `n / d`. -/
def ofRatioAt (negative : Bool) (n d : Nat) (exponent : Int) : Binary64 :=
  ofSignificand negative (roundedQuotient (scaled 2 n (-exponent)) (scaled 2 d exponent)) exponent

/-- The number nearest to `n / d`, or its negative. -/
def ofRatio (negative : Bool) (n d : Nat) : Binary64 :=
  ofRatioAt negative n d (exponentOfRatio n d)

/-- The number nearest to `digits * 10 ^ exponent`, or its negative. The power is only computed if
the number lies within the range of the format. -/
def ofDecimal (negative : Bool) (digits : Nat) (exponent : Int) : Binary64 :=
  if digits = 0 ∨ (Nat.toDigits 10 digits).length + exponent < -330 then
    .finite negative 0 leastExponent
  else if (Nat.toDigits 10 digits).length + exponent > 310 then .infinite negative
  else ofRatio negative (scaled 10 digits exponent) (scaled 10 1 (-exponent))

end Binary64

end VhdlLayout
