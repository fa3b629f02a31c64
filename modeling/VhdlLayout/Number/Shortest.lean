import VhdlLayout.Number.Binary64

/-!
# Shortest decimals

How a binary64 number is written: with the fewest decimal digits that are read
back as the same number. The decimals with a given last place form a grid. The
coarsest grid with a decimal that is read back is taken (`Binary64.shortest`),
on it the decimal nearest to the number, and of two that are equally near the
greater one. To find out whether a grid has such a decimal, only the two next to
the number need to be tried.

The digits are laid out around a decimal point, without an exponent and with at
least one digit on either side (`Decimal.positional`).
-/

namespace VhdlLayout

/-- The number `digits * 10 ^ exponent`. -/
structure Decimal where
  digits : Nat
  exponent : Int
deriving DecidableEq, Repr

namespace Decimal

/-- The characters with zeros in front so that there are more than `places` of them. -/
def withZeros (places : Nat) (cs : List Char) : List Char :=
  List.replicate (places + 1 - cs.length) '0' ++ cs

/-- The characters with a point before the last `places` of them. -/
def withPoint (places : Nat) (cs : List Char) : List Char :=
  cs.take (cs.length - places) ++ '.' :: cs.drop (cs.length - places)

/-- The number written with a decimal point and no exponent. -/
def positional (d : Decimal) : String :=
  if d.exponent < 0 then
    String.ofList
      (withPoint (-d.exponent).toNat (withZeros (-d.exponent).toNat (Nat.toDigits 10 d.digits)))
  else
    String.ofList (Nat.toDigits 10 d.digits ++ List.replicate d.exponent.toNat '0' ++ ['.', '0'])

/-- How `d` compares with `m * 2 ^ q`. -/
def compareBinary (d : Decimal) (m : Nat) (q : Int) : Ordering :=
  compare (Binary64.scaled 2 (Binary64.scaled 10 d.digits d.exponent) (-q))
    (Binary64.scaled 10 (Binary64.scaled 2 m q) (-d.exponent))

end Decimal

namespace Binary64

/-- How far the numbers go that are rounded to `m * 2 ^ q`, downwards and in quarters of `2 ^ q`.
The next number below a power of two is only half as far away as the one above. -/
def reachBelow (m : Nat) (q : Int) : Nat :=
  if m = leastSignificand ∧ q ≠ leastExponent then 1 else 2

/-- A comparison with an end of the range of numbers that are rounded to a number holds: strictly,
or else at the end itself, which belongs to the range if the significand is even. -/
def meets (m : Nat) (wanted found : Ordering) : Bool :=
  found == wanted || found == .eq && m % 2 == 0

/-- The decimal is read back as `m * 2 ^ q`. -/
def isReadFrom (m : Nat) (q : Int) (d : Decimal) : Bool :=
  meets m .gt (d.compareBinary (4 * m - reachBelow m q) (q - 2)) &&
    meets m .lt (d.compareBinary (4 * m + 2) (q - 2))

/-- The number `m * 2 ^ q` in units of `10 ^ k`, as a fraction. -/
def inUnits (m : Nat) (q k : Int) : Nat × Nat :=
  (scaled 10 (scaled 2 m q) (-k), scaled 10 (scaled 2 1 (-q)) k)

/-- The two multiples of `10 ^ k` next to `m * 2 ^ q`, the nearer one first and the greater one
first if both are equally near. The lower one can be the number itself. -/
def neighbours (m : Nat) (q k : Int) : List Decimal :=
  match inUnits m q k with
  | (n, d) =>
    if 2 * (n % d) < d then [⟨n / d, k⟩, ⟨n / d + 1, k⟩] else [⟨n / d + 1, k⟩, ⟨n / d, k⟩]

/-- The last places that are tried, in this order. No number reaches beyond the first, and numbers
that are rounded alike differ by more than the last. -/
def places : List Int := (List.range 660).map fun (i : Nat) => (309 : Int) - i

/-- The number `m * 2 ^ q` with as many digits as it takes. -/
def exact (m : Nat) (q : Int) : Decimal :=
  if q < 0 then ⟨scaled 5 m (-q), q⟩ else ⟨scaled 2 m q, 0⟩

/-- The decimal with the fewest digits that is read back as `m * 2 ^ q`. -/
def shortest (m : Nat) (q : Int) : Decimal :=
  (places.findSome? fun k => (neighbours m q k).find? (isReadFrom m q)).getD (exact m q)

/-- The number as it is written. -/
def text : Binary64 → String
  | .nan => "NaN"
  | .infinite negative => (if negative then "-" else "") ++ "inf"
  | .finite negative m q =>
    (if negative then "-" else "") ++ (if m = 0 then ⟨0, 0⟩ else shortest m q).positional

end Binary64

end VhdlLayout
