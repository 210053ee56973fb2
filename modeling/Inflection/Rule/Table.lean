import Inflection.Rule.Basic
import Inflection.Text.Numeral
import Inflection.Text.Quoted

/-! # Rule tables

A table is a named list of rules. The first rule that applies to a word gives its new form; a word
that no rule applies to stays as it is.
-/

namespace Inflection

/-- A named list of rules, the most specific ones first. -/
structure Table where
  name : List Char
  rules : List Rule
deriving DecidableEq, Repr

/-- What a rule did to a word: where it stands in its table, and the parts it kept. -/
structure Application where
  index : Nat
  rule : Rule
  lead : List Char
  kept : List Char
deriving DecidableEq, Repr

def Application.result (application : Application) : List Char :=
  application.rule.build application.lead application.kept

namespace Table

/-- The first of the rules that applies, when the rules are counted from `index`. -/
def firstFrom? (word : List Char) (index : Nat) : List Rule → Option Application
  | [] => none
  | rule :: rest =>
    match rule.match? word with
    | some (lead, kept) => some ⟨index, rule, lead, kept⟩
    | none => firstFrom? word (index + 1) rest

/-- The application of the first rule that applies to the word. -/
def first? (table : Table) (word : List Char) : Option Application :=
  firstFrom? word 0 table.rules

def apply (table : Table) (word : List Char) : List Char :=
  match table.first? word with
  | some application => application.result
  | none => word

/-- A short description of a table: its name in quotes and the number of its rules. -/
def describe (table : Table) : List Char :=
  "RuleTable(".toList ++ Text.quoted table.name ++ ", ".toList ++
    Text.decimal table.rules.length ++ " rules)".toList

private theorem exists_rule_of_firstFrom? {word : List Char} {index : Nat} {rules : List Rule}
    {application : Application} (first : firstFrom? word index rules = some application) :
    ∃ place, application.index = index + place ∧ rules[place]? = some application.rule := by
  induction rules generalizing index with
  | nil => cases first
  | cons rule rest ih =>
    rw [firstFrom?] at first
    split at first
    · obtain rfl := Option.some.inj first
      exact ⟨0, rfl, rfl⟩
    · obtain ⟨place, indexEq, found⟩ := ih first
      exact ⟨place + 1, by omega, found⟩

/-- The rule that is applied stands at its index in the table. -/
theorem getElem?_of_first? {table : Table} {word : List Char} {application : Application}
    (first : table.first? word = some application) :
    table.rules[application.index]? = some application.rule := by
  obtain ⟨place, indexEq, found⟩ := exists_rule_of_firstFrom? first
  rwa [indexEq, Nat.zero_add]

end Table

end Inflection
