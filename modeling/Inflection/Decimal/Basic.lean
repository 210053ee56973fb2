/-! # Decimal fractions

A decimal fraction is a whole number times a power of ten, with a sign that zero may have too.
-/

namespace Inflection

/-- The number `mantissa * 10 ^ exponent`, or its negative. -/
structure Decimal where
  negative : Bool
  mantissa : Nat
  exponent : Int
deriving DecidableEq, Repr

end Inflection
