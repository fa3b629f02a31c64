import VhdlLayout.Text.Sorted

/-!
# Sets of characters as runs

A set of code points, given by the ascending table of the points where
membership changes: the set's runs start at the even entries and end before the
odd ones. A point belongs to the set when an odd number of entries lies at or
below it.
-/

namespace VhdlLayout.Unicode

/-- The code point `n` lies in one of the runs that `bounds` delimits. -/
def inRuns (bounds : Array Nat) (n : Nat) : Bool := countAtMost bounds n % 2 == 1

end VhdlLayout.Unicode
