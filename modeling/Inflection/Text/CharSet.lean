/-! # Sets of characters

A set of characters is a list of ranges of code points, both ends included.
-/

namespace Inflection.Text

/-- A set of characters as ranges of code points. -/
structure CharSet where
  ranges : List (Nat × Nat)

/-- A character belongs to a set when one of the ranges covers its code point. -/
def CharSet.contains (set : CharSet) (c : Char) : Bool :=
  set.ranges.any fun range => range.1 ≤ c.toNat && c.toNat ≤ range.2

theorem CharSet.contains_iff {set : CharSet} {c : Char} :
    set.contains c = true ↔ ∃ range ∈ set.ranges, range.1 ≤ c.toNat ∧ c.toNat ≤ range.2 := by
  simp [CharSet.contains]

end Inflection.Text
