/-!
# OpScaffold.Text.Ranges

A class of characters given as a list of closed ranges of code points.
-/

namespace OpScaffold

/-- Closed ranges of code points, in increasing order. -/
abbrev Ranges := List (Nat × Nat)

/-- Whether a code point lies in one of the ranges. -/
def Ranges.contains (ranges : Ranges) (n : Nat) : Bool :=
  ranges.any fun range => range.1 ≤ n && n ≤ range.2

end OpScaffold
