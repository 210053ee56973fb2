import Inflection.Pattern.Reader
import Inflection.Rule.Irregular

/-! # Rules in writing

A rule is written as a pattern and a replacement, as a pattern of words to keep, or as a list of
irregular pairs. A rule whose pattern captures more than one part is refused.
-/

namespace Inflection

/-- One entry of a table in writing. -/
inductive RuleEntry where
  | replace (pattern replacement : List Char)
  | keep (pattern : List Char)
  | irregulars (direction : Direction) (pairs : List (List Char × List Char))

/-- Why an entry gives no rules. -/
inductive RuleError where
  /-- The text is not a pattern. -/
  | unreadable (pattern : List Char)
  /-- The pattern captures more than one part. -/
  | manyCaptures (pattern : List Char)
  /-- A form of an irregular pair has no first letter. -/
  | emptyForm
deriving DecidableEq, Repr

def RuleError.message : RuleError → List Char
  | unreadable pattern => "Rule pattern ".toList ++ Text.quoted pattern ++ " is malformed".toList
  | manyCaptures pattern =>
    "Rule pattern ".toList ++ Text.quoted pattern ++ " has more than one group".toList
  | emptyForm => "string index out of range".toList

def Rule.read (pattern replacement : List Char) : Except RuleError Rule :=
  match Pattern.read? pattern with
  | none => .error (.unreadable pattern)
  | some p => if p.captures ≤ 1 then .ok ⟨p, replacement⟩ else .error (.manyCaptures pattern)

/-- The written pattern for words that end in a given written pattern, all of which is captured. -/
def Rule.keepPattern (pattern : List Char) : List Char :=
  '(' :: pattern ++ ")\\Z".toList

/-- The rules that an entry stands for. -/
def RuleEntry.rules : RuleEntry → Except RuleError (List Rule)
  | replace pattern replacement => do return [← Rule.read pattern replacement]
  | keep pattern => do return [← Rule.read (Rule.keepPattern pattern) []]
  | irregulars direction pairs =>
    match irregulars? direction pairs with
    | some rules => .ok rules
    | none => .error .emptyForm

/-- The table of all entries in order; the first entry in error decides the error. -/
def Table.ofEntries (name : List Char) (entries : List RuleEntry) : Except RuleError Table := do
  return ⟨name, (← entries.mapM RuleEntry.rules).flatten⟩

end Inflection
