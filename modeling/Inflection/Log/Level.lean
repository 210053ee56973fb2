import Inflection.Json.Value
import Inflection.Text.Case

/-! # Log levels

A level is a number, a truth value that counts as one or zero, or a name. Names are read in any case;
whatever is not the name of a level means the level of warnings.
-/

namespace Inflection.Log

/-- A level as it was given. -/
inductive Level where
  | number (n : Int)
  | flag (b : Bool)
deriving DecidableEq, Repr

namespace Level

/-- The number that a level counts as. -/
def rank : Level → Int
  | number n => n
  | flag b => if b then 1 else 0

/-- The level of warnings, which stands for every level that is not known. -/
def standard : Int :=
  30

def names : List (String × Int) :=
  [("CRITICAL", 50), ("FATAL", 50), ("ERROR", 40), ("WARNING", 30), ("WARN", 30), ("INFO", 20),
   ("DEBUG", 10), ("NOTSET", 0)]

def ofName (name : List Char) : Int :=
  match names.find? (·.1.toList == name.flatMap Text.asciiUpper) with
  | some (_, level) => level
  | none => standard

/-- The level that a value stands for. Only a text can be a name. -/
def ofValue : Json → Level
  | .int n => number n
  | .bool b => flag b
  | .str name => number (ofName name)
  | _ => number standard

end Level

end Inflection.Log
