/-!
# Code point ranges

Character properties are given as lists of closed ranges of code points, in increasing order.
Membership is the only question asked of such a list.
-/

namespace ModuleBundler.Text

/-- Closed ranges of code points, each written as its first and its last member. -/
abbrev Ranges := List (Nat × Nat)

/-- Whether a point lies in one of the ranges. -/
def Ranges.has (table : Ranges) (point : Nat) : Bool :=
  table.any fun range => decide (range.1 ≤ point) && decide (point ≤ range.2)

end ModuleBundler.Text
