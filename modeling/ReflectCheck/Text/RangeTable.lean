/-!
# Tables of code point ranges

A character property is stored as a sorted array of disjoint inclusive ranges of code
points. Membership is a binary search: the search keeps a window `[lo, hi)` of ranges
that may still hold the code point, and halves it at every step, so it ends after at
most as many steps as the window is wide.
-/

namespace ReflectCheck.Text

/-- A set of code points, as sorted, disjoint, inclusive ranges `(first, last)`. -/
structure RangeTable where
  /-- The ranges, in increasing order. -/
  ranges : Array (Nat × Nat)

namespace RangeTable

/-- Whether code point `c` lies in one of the ranges `[lo, hi)` of the table. -/
def search (t : RangeTable) (c lo hi : Nat) : Bool :=
  if _h : lo < hi then
    let mid := lo + (hi - lo) / 2
    match t.ranges[mid]? with
    | none => false
    | some (first, last) =>
      if c < first then search t c lo mid
      else if last < c then search t c (mid + 1) hi
      else true
  else false
termination_by hi - lo

/-- Whether code point `c` belongs to the table. -/
def contains (t : RangeTable) (c : Nat) : Bool := t.search c 0 t.ranges.size

/-- The plain reading of membership: some range holds the code point. -/
def Mem (t : RangeTable) (c : Nat) : Prop := ∃ r ∈ t.ranges.toList, r.1 ≤ c ∧ c ≤ r.2

end RangeTable

end ReflectCheck.Text
