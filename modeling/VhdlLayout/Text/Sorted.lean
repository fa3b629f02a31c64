/-!
# Counting in an ascending table

How many entries of an ascending table lie at or below a number, by halving the
part of the table that is still in doubt. Tables of line starts and of runs of
characters are both read this way.
-/

namespace VhdlLayout

/-- How many entries of the ascending table `a` are at most `x`, given that the first `lo` of them
are and that those from `hi` on are not. -/
def countAtMostFrom (a : Array Nat) (x lo hi : Nat) : Nat :=
  if lo < hi then
    let mid := (lo + hi) / 2
    match a[mid]? with
    | some y => if y ≤ x then countAtMostFrom a x (mid + 1) hi else countAtMostFrom a x lo mid
    | none => countAtMostFrom a x lo mid
  else lo
termination_by hi - lo

/-- How many entries of the ascending table `a` are at most `x`. -/
def countAtMost (a : Array Nat) (x : Nat) : Nat := countAtMostFrom a x 0 a.size

end VhdlLayout
