/-! # Sets of code points as sorted ranges -/

namespace LineWidth.Text

/-- A set of code points: inclusive ranges in increasing order, none touching the next. -/
structure Ranges where
  bounds : Array (Nat × Nat)

/-- Search the ranges with index in `[low, high)` for one that holds `point`. -/
def Ranges.containsBetween (ranges : Ranges) (point low high : Nat) : Bool :=
  if low < high then
    let middle := (low + high) / 2
    match ranges.bounds[middle]? with
    | none => false
    | some (first, last) =>
      if point < first then ranges.containsBetween point low middle
      else if last < point then ranges.containsBetween point (middle + 1) high
      else true
  else false
termination_by high - low

/-- Membership, by binary search. -/
def Ranges.contains (ranges : Ranges) (point : Nat) : Bool :=
  ranges.containsBetween point 0 ranges.bounds.size

end LineWidth.Text
