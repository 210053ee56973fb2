import Inflection.Decimal.Shortest
import Inflection.Text.Numeral

/-! # Layout of decimal digits

Digits are laid out positionally when the decimal point falls near them and with an exponent when it
does not. A `Layout` fixes where the one ends and the other begins.
-/

namespace Inflection

/-- The decisions of a way to write floats. -/
structure Layout where
  /-- The least place of the point, counted from the first digit, that is written positionally. -/
  leastPoint : Int
  /-- The greatest such place. -/
  greatestPoint : Int
  /-- The number of digits that an exponent has at least. -/
  exponentWidth : Nat
  /-- What is written for a number that is too great. -/
  infinity : String

namespace Layout

/-- Digits with the point after the given number of them. -/
def positional (digits : List Char) (point : Int) : List Char :=
  if point ≤ 0 then '0' :: '.' :: List.replicate (-point).toNat '0' ++ digits
  else if digits.length ≤ point.toNat then
    digits ++ List.replicate (point.toNat - digits.length) '0' ++ ".0".toList
  else digits.take point.toNat ++ '.' :: digits.drop point.toNat

/-- Digits with the point after the first one and an exponent. -/
def exponential (width : Nat) (digits : List Char) (point : Int) : List Char :=
  let power := point - 1
  let powerDigits := Text.decimal power.natAbs
  let fraction := if digits.length ≤ 1 then [] else '.' :: digits.drop 1
  digits.take 1 ++ fraction ++ 'e' :: (if power < 0 then '-' else '+') ::
    List.replicate (width - powerDigits.length) '0' ++ powerDigits

/-- The text of the float that a decimal fraction stands for. -/
def render (layout : Layout) (d : Decimal) : List Char :=
  let magnitude :=
    match Binary.ofDecimal? d with
    | none => layout.infinity.toList
    | some ⟨0, _⟩ => "0.0".toList
    | some b =>
      let (number, power) := b.shortest
      let digits := Text.decimal number
      let point := digits.length + power
      if layout.leastPoint ≤ point ∧ point ≤ layout.greatestPoint then positional digits point
      else exponential layout.exponentWidth digits point
  if d.negative then '-' :: magnitude else magnitude

end Layout

end Inflection
