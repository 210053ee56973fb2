import Inflection.Decimal.Layout
import Inflection.Json.Value
import Inflection.Text.Numeral
import Inflection.Text.Quoted

/-! # Values as literals

How a value is shown inside an error message: constants are capitalised words, text is quoted, lists
stand in square brackets and objects in braces. A value with a number of too many digits in it is not
shown at all.
-/

namespace Inflection.Json

/-- Floats have their point among or near the digits below ten to the sixteenth and from
one ten-thousandth on; otherwise they have an exponent of two digits at least. -/
def literalLayout : Layout :=
  ⟨-3, 16, 2, "inf"⟩

mutual

/-- The literal of a value. -/
def literal : Json → List Char
  | null => "None".toList
  | bool b => if b then "True".toList else "False".toList
  | int n => Text.signed n
  | float d => literalLayout.render d
  | str text => Text.quoted text
  | arr items => '[' :: ", ".toList.intercalate (literals items) ++ [']']
  | obj members => '\x7b' :: ", ".toList.intercalate (memberLiterals members) ++ ['\x7d']

def literals : List Json → List (List Char)
  | [] => []
  | item :: rest => literal item :: literals rest

def memberLiterals : List (List Char × Json) → List (List Char)
  | [] => []
  | (key, value) :: rest => (Text.quoted key ++ ": ".toList ++ literal value) ::
    memberLiterals rest

end

mutual

/-- Whether a value can be shown: no number in it has too many digits. -/
def hasLiteral : Json → Bool
  | int n => Text.isReadable n
  | arr items => haveLiterals items
  | obj members => membersHaveLiterals members
  | null | bool _ | float _ | str _ => true

def haveLiterals : List Json → Bool
  | [] => true
  | item :: rest => hasLiteral item && haveLiterals rest

def membersHaveLiterals : List (List Char × Json) → Bool
  | [] => true
  | (_, value) :: rest => hasLiteral value && membersHaveLiterals rest

end

end Inflection.Json
