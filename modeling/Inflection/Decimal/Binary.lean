import Inflection.Decimal.Basic

/-! # Binary floating-point numbers

A decimal fraction stands for the nearest number with 53 significant binary digits and an exponent
in the range of a 64-bit float; of two equally near ones, for the one with an even last digit.
-/

namespace Inflection

/-- The number `mantissa * 2 ^ exponent`. -/
structure Binary where
  mantissa : Nat
  exponent : Int
deriving DecidableEq, Repr

namespace Binary

def leastExponent : Int := -1074

def greatestExponent : Int := 971

/-- The whole number nearest to a quotient; half-way, the even one. -/
def roundDiv (num den : Nat) : Nat :=
  let quotient := num / den
  let excess := 2 * (num % den)
  if excess < den ∨ (excess = den ∧ quotient % 2 = 0) then quotient else quotient + 1

/-- The fraction `num / den` divided by a power of two. -/
def shifted (num den : Nat) (exponent : Int) : Nat × Nat :=
  (num * Nat.pow 2 (-exponent).toNat, den * Nat.pow 2 exponent.toNat)

/-- The least exponent with which the integral part of a positive fraction has at most 53 binary
digits. -/
def exponentOf (num den : Nat) : Int :=
  let low := (num.log2 : Int) - den.log2 - 53
  let (scaledNum, scaledDen) := shifted num den low
  max leastExponent (if scaledNum < Nat.pow 2 53 * scaledDen then low else low + 1)

/-- The number nearest to a positive fraction, unless it is too great. -/
def nearest? (num den : Nat) : Option Binary :=
  let exponent := exponentOf num den
  let (scaledNum, scaledDen) := shifted num den exponent
  let rounded := roundDiv scaledNum scaledDen
  let number : Binary :=
    if rounded = Nat.pow 2 53 then ⟨Nat.pow 2 52, exponent + 1⟩ else ⟨rounded, exponent⟩
  if number.exponent ≤ greatestExponent then some number else none

/-- The number nearest to the magnitude of a decimal fraction, unless it is too great. A magnitude
of more than 400 digits is too great, and one that begins after 400 zeros is nearest to zero. -/
def ofDecimal? (d : Decimal) : Option Binary :=
  if d.mantissa = 0 then some ⟨0, 0⟩
  else
    let digits := (d.mantissa.log2 : Int) * 3 / 10 + d.exponent
    if digits > 400 then none
    else if digits < -800 then some ⟨0, 0⟩
    else nearest? (d.mantissa * Nat.pow 10 d.exponent.toNat) (Nat.pow 10 (-d.exponent).toNat)

end Binary

end Inflection
