import Inflection.Decimal.Basic

/-! # JSON values

The values of a JSON text. Numbers without a fraction and an exponent are whole numbers of any size;
all others are decimal fractions, even if their value is whole. The members of an object keep their
order.
-/

namespace Inflection

/-- A JSON value. -/
inductive Json where
  | null
  | bool (b : Bool)
  | int (n : Int)
  | float (d : Decimal)
  | str (text : List Char)
  | arr (items : List Json)
  | obj (members : List (List Char × Json))
deriving Inhabited

namespace Json

def ofString (s : String) : Json :=
  str s.toList

def member? (key : String) : Json → Option Json
  | obj members => (members.find? (·.1 == key.toList)).map (·.2)
  | _ => none

end Json

end Inflection
