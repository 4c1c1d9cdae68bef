/-!
# Character ranges

Character classes of the Unicode standard are given as tables of inclusive
ranges of code points.  This module holds the one question asked of such a
table.
-/

namespace CrateListing
namespace Text

/-- A table of inclusive ranges of code points. -/
abbrev Ranges := List (Nat × Nat)

/-- A code point belongs to a table when one of its ranges holds it. -/
def Ranges.holds (ranges : Ranges) (code : Nat) : Bool :=
  ranges.any fun range => decide (range.1 ≤ code) && decide (code ≤ range.2)

/-- A number is in a table of ranges when one of the ranges holds it. -/
theorem Ranges.holds_iff (ranges : Ranges) (code : Nat) :
    ranges.holds code = true ↔ ∃ range ∈ ranges, range.1 ≤ code ∧ code ≤ range.2 := by
  simp [Ranges.holds]

end Text
end CrateListing
