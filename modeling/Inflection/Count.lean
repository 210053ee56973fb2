import Inflection.Json.Literal

/-! # Item counts

A count is a whole number that is not negative. Any other value is refused, truth values and whole
floats among them, and the refusal shows the value. So a value that cannot be shown because it has a
number with too many digits is not refused in this way: the attempt ends in an error of its own.
-/

namespace Inflection

/-- A value that is not a count and can be shown. -/
structure InvalidCount where
  value : Json
  hasLiteral : value.hasLiteral = true

def InvalidCount.message (error : InvalidCount) : List Char :=
  "Count must be a non-negative integer, got ".toList ++ error.value.literal

/-- Why a value is not taken for a count. -/
inductive CountError where
  /-- The value is refused. -/
  | invalid (error : InvalidCount)
  /-- The value would be refused, but it has a number with too many digits to be shown. -/
  | tooLong

def CountError.message : CountError → List Char
  | invalid error => error.message
  | tooLong =>
    "Exceeds the limit (".toList ++ Text.decimal Text.maxDigits ++
      (" digits) for integer string conversion; " ++
        "use sys.set_int_max_str_digits() to increase the limit").toList

/-- The count that a value gives. -/
def checkCount : Json → Except CountError Nat
  | .int (.ofNat n) => .ok n
  | value =>
    if shown : value.hasLiteral = true then .error (.invalid ⟨value, shown⟩)
    else .error .tooLong

/-- Every natural number is a valid count. -/
theorem checkCount_ofNat (n : Nat) : checkCount (.int n) = .ok n := rfl

end Inflection
