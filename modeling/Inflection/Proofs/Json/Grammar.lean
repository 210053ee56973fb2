import Inflection.Json.Value

/-! # The grammar of JSON

The texts of RFC 8259 and the values that they stand for, as relations between a text and a value. Each
relation is one rule of the grammar. A number without a fraction and an exponent is a whole number; any
other number keeps its digits. A text that a decoder has to read is read as the value that it stands for.
-/

namespace Inflection.Json

/-- Blanks, which are free around values, names and signs. -/
def IsGap (text : List Char) : Prop :=
  ∀ c ∈ text, c = ' ' ∨ c = '\t' ∨ c = '\n' ∨ c = '\r'

section Strings

/-- A hexadecimal digit of either case. -/
def IsHexDigit (c : Char) (value : Nat) : Prop :=
  value < 16 ∧ (c = value.digitChar ∨ c = value.digitChar.toUpper)

/-- The four hexadecimal digits of a code. -/
inductive IsCode : List Char → Nat → Prop where
  | intro {a b c d : Char} {i j k l : Nat} (first : IsHexDigit a i) (second : IsHexDigit b j)
      (third : IsHexDigit c k) (fourth : IsHexDigit d l) :
      IsCode [a, b, c, d] (((i * 16 + j) * 16 + k) * 16 + l)

/-- The signs that stand for a character when they are after a backslash. -/
def escapes : List (Char × Char) :=
  [('"', '"'), ('\\', '\\'), ('/', '/'), ('b', '\x08'), ('f', '\x0c'), ('n', '\n'), ('r', '\r'), ('t', '\t')]

/-- What stands between the quotes of a string. A character beyond the basic plane that is escaped has the
codes of two surrogates. -/
inductive IsContent : List Char → List Char → Prop where
  | nil : IsContent [] []
  | plain {c : Char} {written text : List Char} (allowed : 0x20 ≤ c.toNat) (unquoted : c ≠ '"')
      (unescaped : c ≠ '\\') (others : IsContent written text) : IsContent (c :: written) (c :: text)
  | escape {sign c : Char} {written text : List Char} (known : (sign, c) ∈ escapes)
      (others : IsContent written text) : IsContent ('\\' :: sign :: written) (c :: text)
  | code {digits written text : List Char} {code : Nat} (shape : IsCode digits code)
      (basic : code < 0xD800 ∨ 0xE000 ≤ code) (others : IsContent written text) :
      IsContent ('\\' :: 'u' :: (digits ++ written)) (Char.ofNat code :: text)
  | pair {digits digits' written text : List Char} {high low : Nat} (shape : IsCode digits high)
      (shape' : IsCode digits' low) (isHigh : 0xD800 ≤ high ∧ high < 0xDC00)
      (isLow : 0xDC00 ≤ low ∧ low < 0xE000) (others : IsContent written text) :
      IsContent ('\\' :: 'u' :: (digits ++ '\\' :: 'u' :: (digits' ++ written)))
        (Char.ofNat (0x10000 + (high - 0xD800) * 0x400 + (low - 0xDC00)) :: text)

end Strings

section Numbers

def IsDigits (digits : List Char) : Prop :=
  digits ≠ [] ∧ ∀ c ∈ digits, c.isDigit = true

/-- The digits before the point, which do not begin with zero unless there is one digit only. -/
def IsWhole (digits : List Char) : Prop :=
  IsDigits digits ∧ (digits.head? = some '0' → digits = ['0'])

/-- The point and the digits after it, which may be missing. -/
inductive IsFraction : List Char → List Char → Prop where
  | missing : IsFraction [] []
  | given {digits : List Char} (shape : IsDigits digits) : IsFraction ('.' :: digits) digits

/-- The power of ten, which may be missing. -/
inductive IsExponent : List Char → Option Int → Prop where
  | missing : IsExponent [] none
  | given {mark : Char} {sign digits : List Char} (marked : mark = 'e' ∨ mark = 'E')
      (signed : sign = [] ∨ sign = ['+']) (shape : IsDigits digits) :
      IsExponent (mark :: (sign ++ digits)) (some (Nat.ofDigitChars 10 digits 0))
  | negative {mark : Char} {digits : List Char} (marked : mark = 'e' ∨ mark = 'E')
      (shape : IsDigits digits) :
      IsExponent (mark :: '-' :: digits) (some (-Nat.ofDigitChars 10 digits 0))

def numberValue (negative : Bool) (whole fraction : List Char) (power : Option Int) : Json :=
  if fraction = [] ∧ power = none then
    int (if negative then -Nat.ofDigitChars 10 whole 0 else Nat.ofDigitChars 10 whole 0)
  else float ⟨negative, Nat.ofDigitChars 10 (whole ++ fraction) 0, power.getD 0 - fraction.length⟩

/-- Numbers without a minus sign. -/
inductive IsMagnitude (negative : Bool) : List Char → Json → Prop where
  | intro {whole fraction digits exponent : List Char} {power : Option Int} (shape : IsWhole whole)
      (shape' : IsFraction fraction digits) (shape'' : IsExponent exponent power) :
      IsMagnitude negative (whole ++ (fraction ++ exponent)) (numberValue negative whole digits power)

end Numbers

mutual

/-- Values. -/
inductive IsValue : List Char → Json → Prop where
  | null : IsValue "null".toList .null
  | bool (b : Bool) : IsValue (if b then "true".toList else "false".toList) (.bool b)
  | positive {text : List Char} {value : Json} (shape : IsMagnitude false text value) : IsValue text value
  | negative {text : List Char} {value : Json} (shape : IsMagnitude true text value) :
      IsValue ('-' :: text) value
  | str {written text : List Char} (content : IsContent written text) :
      IsValue ('"' :: (written ++ ['"'])) (.str text)
  | noItems {gap : List Char} (blank : IsGap gap) : IsValue ('[' :: (gap ++ [']'])) (.arr [])
  | arr {body : List Char} {items : List Json} (shape : IsItems body items) :
      IsValue ('[' :: (body ++ [']'])) (.arr items)
  | noMembers {gap : List Char} (blank : IsGap gap) : IsValue ('\x7b' :: (gap ++ ['\x7d'])) (.obj [])
  | obj {body : List Char} {members : List (List Char × Json)} (shape : IsMembers body members) :
      IsValue ('\x7b' :: (body ++ ['\x7d'])) (.obj members)

/-- Texts: values with blanks around them. -/
inductive IsText : List Char → Json → Prop where
  | intro {before body after : List Char} {value : Json} (blank : IsGap before)
      (shape : IsValue body value) (blank' : IsGap after) : IsText (before ++ (body ++ after)) value

/-- Items of an array, with commas between them. -/
inductive IsItems : List Char → List Json → Prop where
  | last {text : List Char} {value : Json} (shape : IsText text value) : IsItems text [value]
  | more {text rest : List Char} {value : Json} {values : List Json} (shape : IsText text value)
      (others : IsItems rest values) : IsItems (text ++ ',' :: rest) (value :: values)

/-- Members of an object: a name in quotes, a colon and a value. -/
inductive IsMember : List Char → List Char × Json → Prop where
  | intro {before written name between text : List Char} {value : Json} (blank : IsGap before)
      (content : IsContent written name) (blank' : IsGap between) (shape : IsText text value) :
      IsMember (before ++ '"' :: (written ++ '"' :: (between ++ ':' :: text))) (name, value)

/-- Members of an object, with commas between them. -/
inductive IsMembers : List Char → List (List Char × Json) → Prop where
  | last {text : List Char} {member : List Char × Json} (shape : IsMember text member) :
      IsMembers text [member]
  | more {text rest : List Char} {member : List Char × Json} {members : List (List Char × Json)}
      (shape : IsMember text member) (others : IsMembers rest members) :
      IsMembers (text ++ ',' :: rest) (member :: members)

end

/-- Whether a decoder follows the grammar: it reads each text of the grammar as the value that the text
stands for. What it does with other texts is left open. -/
def Follows (decode : List Char → Option Json) : Prop :=
  ∀ text value, IsText text value → decode text = some value

end Inflection.Json
