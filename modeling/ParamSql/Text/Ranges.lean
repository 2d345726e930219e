/-!
# Character classes given by ranges

A character class is a table of closed ranges of code points, and a character belongs to the class
when one of the ranges holds its code point.
-/

namespace ParamSql
namespace Text

/-- Closed ranges of code points, each as its first and last member. -/
abbrev Ranges := List (Nat × Nat)

namespace Ranges

variable (ranges : Ranges)

def holds (c : Char) : Bool :=
  ranges.any fun range => range.1 ≤ c.toNat && c.toNat ≤ range.2

theorem holds_iff (c : Char) :
    ranges.holds c = true ↔ ∃ range ∈ ranges, range.1 ≤ c.toNat ∧ c.toNat ≤ range.2 := by
  simp [holds]

@[simp] theorem holds_append (more : Ranges) (c : Char) :
    Ranges.holds (ranges ++ more) c = (ranges.holds c || more.holds c) := by
  simp [holds]

end Ranges
end Text
end ParamSql
