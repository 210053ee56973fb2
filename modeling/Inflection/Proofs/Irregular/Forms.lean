import Inflection.Proofs.Irregular.Inverse
import Inflection.Proofs.Nouns.Form
import Inflection.Proofs.Rule.Cut
import Inflection.Proofs.Verbs.Form

/-! # What inflection leaves of a word

The tables for nouns and verbs are rules of irregular pairs followed by rules that cut off at most four
characters. So a form begins as its word does, in the letters and in their case, and only a source form of
a pair is exchanged for its counterpart. The blanks that end a word stay in either case.
-/

namespace Inflection

open Text (folded stem tail)

/-- The direction in which irregular pairs are read for a form: the singular stands first in them. -/
def Number.direction : Number → Direction
  | .singular => .backward
  | .plural => .forward

def textPairs (known : List (String × String)) : List (List Char × List Char) :=
  known.map fun (first, second) => (first.toList, second.toList)

/-- The source form and the target form of each pair, for a form in a number. -/
def sourcesAndTargets (number : Number) (known : List (String × String)) : List (List Char × List Char) :=
  (textPairs known).map number.direction.orient

/-- The rule that is applied to a noun, if any is. -/
def Nouns.applied? (number : Number) (word : List Char) : Option Rule :=
  if isFixed word then none else ((table number).first? (stem word)).map (·.rule)

/-- The rule that is applied to a verb, if any is. -/
def Verbs.applied? (number : Number) (word : List Char) : Option Rule :=
  if Text.isBlankText word then none else ((table number).first? (stem word)).map (·.rule)

/-- What a form keeps of its word, given the source and target forms of pairs and the rule that was applied
to the word. The blanks that end the word stay, and before them only a short ending is exchanged, unless the
word is spelt like a source form. -/
structure ChangesEndingOnly (oriented : List (List Char × List Char)) (applied : Option Rule)
    (word form : List Char) : Prop where
  ending : (∀ pair ∈ oriented, folded (stem word) ≠ folded pair.1) →
    ∃ cut ≤ 4, cut ≤ (stem word).length ∧ (applied = none → cut = 0) ∧
      form = (stem word).rdrop cut ++ applied.elim [] (·.replacement) ++ tail word
  irregular : ∀ pair ∈ oriented, folded (stem word) = folded pair.1 →
    form = counterpart pair.1 pair.2 (stem word) ++ tail word

section Tables

variable {table : Table} {direction : Direction} {bound : Nat} {word : List Char}
  {pair : List Char × List Char} {pairs oriented : List (List Char × List Char)} {own others : List Rule}

private theorem exists_cut_apply (ruled : table.hasClauses = true)
    (rulesEq : table.rules = own ++ others) (built : irregulars? direction pairs = some own)
    (short : others.all (·.cutsAtMost bound) = true)
    (unspelt : ∀ pair ∈ pairs, folded word ≠ folded (direction.orient pair).1) :
    ∃ cut ≤ bound, cut ≤ word.length ∧ (table.first? word = none → cut = 0) ∧
      table.apply word = word.rdrop cut ++ (table.first? word).elim [] (·.rule.replacement) := by
  rw [Table.apply]
  cases first : table.first? word with
  | none => exact ⟨0, Nat.zero_le _, Nat.zero_le _, fun _ => rfl, by simp⟩
  | some application =>
    obtain ⟨member, matched⟩ := Table.mem_rules_of_firstFrom? first
    have itsClauses := List.all_eq_true.mp ruled _ member
    rw [rulesEq, List.mem_append] at member
    rcases member with irregular | ending
    · -- the rule of a source form has no match, so the word is a target form and is kept
      obtain ⟨pair, pairMember, s, source, t, target, oriented, rule⟩ :=
        (mem_irregulars?_iff built).mp irregular
      have other := unspelt pair pairMember
      rw [oriented] at other
      rcases rule with rule | rule
      · rw [rule, match?_irregularRule, if_neg other] at matched
        cases matched
      · rw [rule, match?_keep_whole] at matched
        split at matched
        · obtain ⟨lead, kept⟩ := Prod.mk.inj (Option.some.inj matched)
          refine ⟨0, Nat.zero_le _, Nat.zero_le _, fun _ => rfl, ?_⟩
          simp [Application.result, Rule.build, ← lead, ← kept]
        · cases matched
    · obtain ⟨cut, small, within, result⟩ :=
        Rule.exists_cut_of_match? itsClauses (List.all_eq_true.mp short _ ending) matched
      exact ⟨cut, small, within, fun unapplied => absurd unapplied (Option.some_ne_none _), result⟩

private theorem apply_eq_counterpart (rulesEq : table.rules = own ++ others)
    (built : irregulars? direction pairs = some own) (reversible : Reversible pairs)
    (member : pair ∈ pairs) (same : folded word = folded (direction.orient pair).1) :
    table.apply word = counterpart (direction.orient pair).1 (direction.orient pair).2 word := by
  rw [← reversible.apply_of_source table.name built member same, Table.apply, Table.apply,
    Table.first?, Table.first?, rulesEq, Table.firstFrom?_append]
  cases first : Table.firstFrom? word 0 own with
  | none => exact absurd same ((firstFrom?_eq_none_iff_of_irregulars built).mp first pair member).1
  | some application => rfl

private theorem changesEndingOnly_self
    (unspelt : ∀ pair ∈ oriented, folded (stem word) ≠ folded pair.1) :
    ChangesEndingOnly oriented none word word where
  ending _ := ⟨0, Nat.zero_le _, Nat.zero_le _, fun _ => rfl, by simp⟩
  irregular pair member same := absurd same (unspelt pair member)

end Tables

/-- Whether the tables for both numbers are rules of the known pairs followed by rules for short endings. -/
structure BeginsWithPairs (known : List (String × String)) (table : Number → Table) : Prop where
  ruled : ∀ number, (table number).hasClauses = true
  reversible : Reversible (textPairs known)
  rules : ∀ number, ∃ others, (table number).rules = irregulars number.direction known ++ others ∧
    others.all (·.cutsAtMost 4) = true

namespace BeginsWithPairs

variable {known : List (String × String)} {table : Number → Table} {number : Number} {word : List Char}

private theorem folded_stem_ne_of_blank (begins : BeginsWithPairs known table)
    (blank : Text.isBlankText word = true) :
    ∀ pair ∈ sourcesAndTargets number known, folded (stem word) ≠ folded pair.1 := by
  have empty : stem word = [] := Text.dropEndWhile_eq_nil_iff.mpr (List.all_eq_true.mp blank)
  rw [sourcesAndTargets, List.forall_mem_map]
  intro pair member same
  rw [empty] at same
  have nothing : (number.direction.orient pair).1 = [] := List.map_eq_nil_iff.mp same.symm
  obtain ⟨first, second⟩ := begins.reversible.present pair member
  cases number with
  | singular => exact second nothing
  | plural => exact first nothing

private theorem changesEndingOnly_inflect (begins : BeginsWithPairs known table) :
    ChangesEndingOnly (sourcesAndTargets number known) (((table number).first? (stem word)).map (·.rule))
      word ((table number).inflect word) := by
  obtain ⟨others, rulesEq, short⟩ := begins.rules number
  obtain ⟨own, built⟩ := begins.reversible.exists_rules number.direction
  rw [irregulars, ← textPairs, built, Option.getD_some] at rulesEq
  constructor
  · rw [sourcesAndTargets, List.forall_mem_map]
    intro unspelt
    obtain ⟨cut, small, within, none, result⟩ :=
      exists_cut_apply (begins.ruled number) rulesEq built short unspelt
    refine ⟨cut, small, within, fun unapplied => none (Option.map_eq_none_iff.mp unapplied), ?_⟩
    rw [Table.inflect, result]
    cases (table number).first? (stem word) <;> rfl
  · rw [sourcesAndTargets, List.forall_mem_map]
    intro pair member same
    rw [Table.inflect, apply_eq_counterpart rulesEq built begins.reversible member same]

private theorem changesEndingOnly {kept : Bool} (begins : BeginsWithPairs known table)
    (unspelt : kept = true →
      ∀ pair ∈ sourcesAndTargets number known, folded (stem word) ≠ folded pair.1) :
    ChangesEndingOnly (sourcesAndTargets number known)
      (if kept then none else ((table number).first? (stem word)).map (·.rule)) word
      (if kept then word else (table number).inflect word) := by
  cases kept with
  | true => exact changesEndingOnly_self (unspelt rfl)
  | false => exact begins.changesEndingOnly_inflect

end BeginsWithPairs

private theorem Nouns.beginsWithPairs : BeginsWithPairs irregularPairs table where
  ruled := hasClauses_table
  reversible := ⟨by decide, by decide, by decide⟩
  rules number := ⟨(table number).rules.drop 28, by cases number <;> rfl, by cases number <;> decide⟩

private theorem Verbs.beginsWithPairs : BeginsWithPairs irregularPairs table where
  ruled := hasClauses_table
  reversible := ⟨by decide, by decide, by decide⟩
  rules number := ⟨(table number).rules.drop 10, by cases number <;> rfl, by cases number <;> decide⟩

private theorem Nouns.folded_stem_ne_of_isFixed {number : Number} {word : List Char}
    (fixed : isFixed word = true) :
    ∀ pair ∈ sourcesAndTargets number irregularPairs, folded (stem word) ≠ folded pair.1 := by
  have apart : ∀ s ∈ uncountables, ∀ pair ∈ sourcesAndTargets number irregularPairs,
      folded s.toList ≠ folded pair.1 := by
    cases number <;> decide
  rcases Bool.or_eq_true_iff.mp fixed with blank | uncountable
  · exact beginsWithPairs.folded_stem_ne_of_blank blank
  · obtain ⟨s, member, same⟩ := isUncountable_iff.mp uncountable
    exact same ▸ apart s member

/-- The forms of nouns and verbs change no more than a short ending of a word, or exchange a source form for
its counterpart, whatever the number and the word are. -/
theorem forms_change_endings_only (number : Number) (word : List Char) :
    ChangesEndingOnly (sourcesAndTargets number Nouns.irregularPairs) (Nouns.applied? number word) word
        (Nouns.form number word) ∧
      ChangesEndingOnly (sourcesAndTargets number Verbs.irregularPairs) (Verbs.applied? number word) word
        (Verbs.form number word) :=
  ⟨Nouns.beginsWithPairs.changesEndingOnly Nouns.folded_stem_ne_of_isFixed,
    Verbs.beginsWithPairs.changesEndingOnly Verbs.beginsWithPairs.folded_stem_ne_of_blank⟩

theorem forms_change_endings_only_try :
    (∃ cut ≤ 4, cut ≤ "TRY".toList.length ∧
      Verbs.form .singular "TRY ".toList = "TRY".toList.rdrop cut ++ "ies".toList ++ " ".toList) ∧
      Verbs.form .plural "Is".toList = "are".toList ∧
      Nouns.form .plural "PERSON ".toList = "People ".toList := by
  obtain ⟨cut, small, within, -, form⟩ :=
    (forms_change_endings_only .singular "TRY ".toList).2.ending (by decide)
  have is := (forms_change_endings_only .plural "Is".toList).2.irregular
    ("is".toList, "are".toList) (by decide) (by decide)
  have person := (forms_change_endings_only .plural "PERSON ".toList).1.irregular
    ("person".toList, "people".toList) (by decide) (by decide)
  exact ⟨⟨cut, small, within, form⟩, is, person⟩

end Inflection
