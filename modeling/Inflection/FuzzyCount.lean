/-! # Fuzzy counts

Small counts have names of their own and all greater ones are "many".
-/

namespace Inflection

/-- The greatest count that each label covers, in ascending order. -/
def fuzzyThresholds : List (Nat × String) :=
  [(0, "no"), (1, "one"), (3, "a couple of"), (7, "a few"), (9, "several")]

def fuzzyMany : String :=
  "many"

def fuzzyLabel (count : Nat) : String :=
  match fuzzyThresholds.find? (count ≤ ·.1) with
  | some (_, label) => label
  | none => fuzzyMany

end Inflection
