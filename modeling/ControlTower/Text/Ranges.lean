/-!
# Sets of characters given as ranges

The character properties of this library are finite sets of code points. Each is written as a list
of closed ranges, in ascending order.
-/

namespace ControlTower.Text

/-- A set of code points, as a list of closed ranges. -/
abbrev Ranges := List (Nat × Nat)

def Ranges.has (ranges : Ranges) (c : Char) : Bool :=
  ranges.any fun range => range.1 ≤ c.toNat && c.toNat ≤ range.2

/-- How many code points the ranges hold, when no two of them meet. -/
def Ranges.size (ranges : Ranges) : Nat :=
  ranges.foldr (fun range size => range.2 + 1 - range.1 + size) 0

end ControlTower.Text
