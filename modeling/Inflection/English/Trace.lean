import Inflection.English.Number
import Inflection.Log.Event

/-! # Events of inflection

Inflecting a word is reported when a rule of a table applies to it, also if the rule leaves the word
as it is. The events are computed beside the results and never change them.
-/

namespace Inflection

open Log (Event)

/-- The event of applying a table to a word: the word and the result are without trailing blanks. -/
def Table.events (table : Table) (word : List Char) : List Event :=
  match table.first? (Text.stem word) with
  | some application => [.ruleApplied table.name (Text.stem word) application.result]
  | none => []

def Nouns.formEvents (number : Number) (word : List Char) : List Event :=
  if isFixed word then [] else (table number).events word

def Verbs.formEvents (number : Number) (word : List Char) : List Event :=
  if Text.isBlankText word then [] else (table number).events word

end Inflection
