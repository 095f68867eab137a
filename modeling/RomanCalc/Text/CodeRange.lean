/-!
# Sets of code points

A property of characters is a list of closed ranges of code points, and a character has the
property when its code point lies in one of them.
-/

namespace RomanCalc.Text

/-- A closed range of code points, given by its first and its last member. -/
abbrev CodeRange := Nat × Nat

/-- Whether a code point lies in one of the ranges. -/
def inRanges (ranges : List CodeRange) (code : Nat) : Bool :=
  ranges.any fun range => decide (range.1 ≤ code) && decide (code ≤ range.2)

theorem inRanges_iff (ranges : List CodeRange) (code : Nat) :
    inRanges ranges code = true ↔ ∃ range ∈ ranges, range.1 ≤ code ∧ code ≤ range.2 := by
  simp [inRanges]

end RomanCalc.Text
