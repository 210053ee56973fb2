import Inflection.Text.Trim

/-! # Environments

An environment is a list of named values. Names are looked up without regard to the case of ASCII
letters, and of several values for a name the last one counts.
-/

namespace Inflection

abbrev Environment := List (List Char × List Char)

namespace Environment

/-- Whether two names are equal but for the case of ASCII letters. -/
def sameName (first second : List Char) : Bool :=
  first.map Char.toLower == second.map Char.toLower

def lookup? (environment : Environment) (name : List Char) : Option (List Char) :=
  (environment.reverse.find? (sameName ·.1 name)).map (·.2)

/-- Gives a name a value. A name that has one already keeps its place. -/
def assign (environment : Environment) (name value : List Char) : Environment :=
  if environment.any (·.1 == name) then
    environment.map fun entry => if entry.1 == name then (name, value) else entry
  else environment ++ [(name, value)]

end Environment

end Inflection
