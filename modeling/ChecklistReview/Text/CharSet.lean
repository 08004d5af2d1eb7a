/-!
# Sets of characters

A set of characters is kept as the increasing list of code points at which membership
changes, so that membership is a question of parity.

## Main definitions

* `CharSet` is such a list of boundaries.
* `CharSet.countUpTo` counts the boundaries up to a code point by bisection.
* `CharSet.contains` asks whether the count is odd.
-/

namespace ChecklistReview.Text

/-- A set of code points by the points at which membership changes, in increasing order. -/
structure CharSet where
  boundaries : Array Nat

namespace CharSet

/-- The number of entries at positions `low` to `high` that are at most `code`, plus `low`,
for an increasing array. Each step halves the range. -/
def countBetween (boundaries : Array Nat) (code : Nat) (low high : Nat) : Nat :=
  if h : low < high then
    let middle := (low + high) / 2
    if boundaries.getD middle 0 ≤ code then countBetween boundaries code (middle + 1) high
    else countBetween boundaries code low middle
  else low
termination_by high - low

/-- The number of boundaries that are at most `code`. -/
def countUpTo (s : CharSet) (code : Nat) : Nat :=
  countBetween s.boundaries code 0 s.boundaries.size

/-- Whether a character belongs to the set. -/
def contains (s : CharSet) (c : Char) : Bool := s.countUpTo c.toNat % 2 = 1

end CharSet

end ChecklistReview.Text
