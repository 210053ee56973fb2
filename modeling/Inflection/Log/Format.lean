/-! # Log formats

Events are written as lines for people or as JSON objects.
-/

namespace Inflection.Log

/-- How the events of a log are written. -/
inductive Format where
  | console
  | json
deriving DecidableEq, Repr

namespace Format

def name : Format → String
  | console => "console"
  | json => "json"

/-- The format of a given name, which must be written exactly. -/
def ofName? (name : List Char) : Option Format :=
  [console, json].find? (·.name.toList == name)

end Format

end Inflection.Log
