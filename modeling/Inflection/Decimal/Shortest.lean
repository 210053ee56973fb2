import Inflection.Decimal.Binary

/-! # Shortest decimal digits

A float is written with the fewest decimal digits that are read back as the same float; among those
with the fewest digits, with the ones nearest to its exact value.
-/

namespace Inflection.Binary

/-- The ends of the interval of numbers that are nearest to `b`, in quarters of its last binary
digit. Below a power of two the neighbours are twice as close. -/
def interval (b : Binary) : Nat × Nat :=
  let narrow := b.mantissa = Nat.pow 2 52 ∧ b.exponent > leastExponent
  (4 * b.mantissa - (if narrow then 1 else 2), 4 * b.mantissa + 2)

/-- Whether `digits * 10 ^ power` is read back as `b`. -/
def readsBack (b : Binary) (digits : Nat) (power : Int) : Bool :=
  let (low, high) := b.interval
  let unit := Nat.pow 2 (b.exponent - 2).toNat * Nat.pow 10 (-power).toNat
  let point := digits * Nat.pow 10 power.toNat * Nat.pow 2 (2 - b.exponent).toNat
  if b.mantissa % 2 = 0 then low * unit ≤ point && point ≤ high * unit
  else low * unit < point && point < high * unit

/-- The multiples of `10 ^ power` next to `b`, the nearer one first. -/
def neighbours (b : Binary) (power : Int) : List Nat :=
  let value := 4 * b.mantissa * Nat.pow 2 (b.exponent - 2).toNat * Nat.pow 10 (-power).toNat
  let step := Nat.pow 10 power.toNat * Nat.pow 2 (2 - b.exponent).toNat
  let below := value / step
  if roundDiv value step = below then [below, below + 1] else [below + 1, below]

/-- The neighbour of `b` on the grid of a power of ten that is read back as `b`, with the power. -/
def onGrid? (b : Binary) (power : Int) : Option (Nat × Int) :=
  ((b.neighbours power).find? (b.readsBack · power)).map (·, power)

/-- The digits and the power of ten that write a positive number in the shortest way: the coarsest
grid that has a point for it decides. -/
def shortest (b : Binary) : Nat × Int :=
  ((List.range 660).findSome? fun (i : Nat) => b.onGrid? (310 - i)).getD (0, 0)

end Inflection.Binary
