/-!
# Ranges of code points

Character classes are given as ascending lists of closed ranges. `inRanges` is the one reading of
such a list; the class modules beside this one supply the data.
-/

namespace Playbook.Text

/-- A character is in a class when one of the class's closed ranges holds its code point. -/
def inRanges (ranges : List (Nat × Nat)) (c : Char) : Bool :=
  ranges.any fun r => decide (r.1 ≤ c.toNat) && decide (c.toNat ≤ r.2)

/-- Membership in a list of ranges is membership in one of them. -/
theorem inRanges_iff {ranges : List (Nat × Nat)} {c : Char} :
    inRanges ranges c = true ↔ ∃ r ∈ ranges, r.1 ≤ c.toNat ∧ c.toNat ≤ r.2 := by
  simp [inRanges]

end Playbook.Text
