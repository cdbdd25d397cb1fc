/-!
# Sets of characters as ranges

A property of characters that a standard lists is kept as closed ranges of
code points, ascending and apart.

* `inRanges_iff` -- a code point belongs to the set when some range holds it.
-/

namespace HandheldHost.Text

/-- Whether a code point lies in one of the ranges. -/
def inRanges (ranges : List (Nat × Nat)) (n : Nat) : Bool :=
  ranges.any fun r => r.1 ≤ n && n ≤ r.2

theorem inRanges_iff (ranges : List (Nat × Nat)) (n : Nat) :
    inRanges ranges n = true ↔ ∃ r ∈ ranges, r.1 ≤ n ∧ n ≤ r.2 := by
  simp [inRanges]

end HandheldHost.Text
