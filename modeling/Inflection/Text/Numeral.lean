import Inflection.Text.Blank
import Inflection.Text.Digit

/-! # Whole numbers in writing

`decimal` writes a number in decimal digits, `signed` with a minus sign in front of negative ones.
`readInteger?` accepts the digits of any script, a sign in front, single underscores between the
digits and blanks around it all, but no more digits than `maxDigits`.
-/

namespace Inflection.Text

/-- The decimal digits of a number, without leading zeros. -/
def decimal (n : Nat) : List Char :=
  Nat.toDigits 10 n

/-- The decimal digits of a number after its minus sign, if it has one. -/
def signed : Int → List Char
  | .ofNat n => decimal n
  | .negSucc n => '-' :: decimal (n + 1)

/-- Blanks that may stand around a number: all but the four information separators. -/
def isPadding (c : Char) : Bool :=
  isBlank c && !(0x1c ≤ c.toNat && c.toNat ≤ 0x1f)

/-- Reads digits, with single underscores between them, onto the value of those before. -/
def readDigits? (value : Nat) : List Char → Option Nat
  | [] => some value
  | '_' :: c :: rest => do readDigits? (value * 10 + (← digit? c)) rest
  | c :: rest => do readDigits? (value * 10 + (← digit? c)) rest

/-- The most digits that a number may have to be read or to be shown in a message; leading zeros count. -/
def maxDigits : Nat :=
  4300

/-- Whether a number is short enough to be read, and to be shown in a message. -/
def isReadable (n : Int) : Bool :=
  (decimal n.natAbs).length ≤ maxDigits

/-- Reads a number without a sign: a digit, and then more digits. -/
def readNatural? : List Char → Option Nat
  | [] => none
  | c :: rest =>
    if (c :: rest).countP isDigit ≤ maxDigits then do readDigits? (← digit? c) rest else none

def readInteger? (text : List Char) : Option Int :=
  match trim isPadding text with
  | '+' :: rest => (readNatural? rest).map Int.ofNat
  | '-' :: rest => (readNatural? rest).map fun n => -Int.ofNat n
  | rest => (readNatural? rest).map Int.ofNat

end Inflection.Text
