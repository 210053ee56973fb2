import Inflection.Proofs.Nouns.Stability

/-! # The words on which the tables for nouns are not stable

The texts that a table for nouns changes a second time are told by lists of words and of word endings,
whose letters are compared in any case. It is always the last rule of the table that is applied to such
a text first: what any other rule gives is left alone by the whole table.
-/

namespace Inflection.Nouns

open Pattern
open Text (IsOneOf EndsInOneOf)

/-- The words that the table for a number changes twice. Their letters may stand in any case. -/
def wordsChangedTwice : Number → List String
  | .singular =>
    ["peoples", "childrens", "oxens", "feets", "teeths", "geeses", "mices", "lices", "dices", "generas",
      "corporas", "criterias", "phenomenas", "mens"]
  | .plural => ["axi", "testi"]

def endingsChangedTwice : Number → List String
  | .singular =>
    ["womens", "policemens", "firemens", "salesmens", "chairmens", "fishermens", "spokesmens",
      "foremens", "gentlemens", "countrymens", "seamens", "datas", "medias", "bacterias",
      "curriculas", "memorandas", "stratas", "millennias", "symposias"]
  | .plural => ["alia", "atla", "canva", "iri", "len", "ga", "si", "radiu", "nucleu", "geniu"]

/-- Endings of words that the table for a number changes twice, with exceptions. -/
def endingsWithExceptions : Number → List String
  | .singular =>
    ["octopis", "radiis", "cactis", "fungis", "alumnis", "stimulis", "syllabis", "nucleis", "bacillis",
      "locis"]
  | .plural => ["u"]

def endingsExcepted : Number → List String
  | .singular => ["cactis"]
  | .plural =>
    ["menu", "emu", "gnu", "guru", "haiku", "tutu", "zulu", "tofu", "au", "eu", "iu", "ou", "uu"]

/-- Whether the table for a number changes a text twice, by the words and endings that are listed. -/
def IsChangedTwice (number : Number) (v : List Char) : Prop :=
  IsOneOf (wordsChangedTwice number) v ∨ EndsInOneOf (endingsChangedTwice number) v ∨
    EndsInOneOf (endingsWithExceptions number) v ∧ ¬EndsInOneOf (endingsExcepted number) v

/-- Whether the words that end in a pattern are those with one of the listed endings. -/
def isListed (p : Pattern) (endings : List String) : Bool :=
  areSpelt endings && p.endsAlike (anyWord endings)

/-- Whether the words that end in a pattern are the listed ones and those with one of the listed
endings. -/
def isListedWithWords (p : Pattern) (words endings : List String) : Bool :=
  areSpelt words && areSpelt endings &&
    p.endsAlike (anyOf [start ++ anyWord words, anyWord endings])

/-- What has to be known of a text and of the rule that is applied to it, if there is one: it is the last
rule, or the table leaves alone what the rule gives. -/
def isLastOrKept (number : Number) (effect : Option Effect) (known : Known) : Bool :=
  effect.any (·.index + 1 == (table number).rules.length) ||
    (table number).survey .all (fun second _ =>
      (Effect.editOf effect).andThen second == Effect.editOf effect)
      (known.edited (Effect.editOf effect))

def surveyRules (number : Number) : Bool :=
  Known.survey .all surveyDepth (isLastOrKept number) (table number).clauses .unknown

private theorem lists_checked : ([.singular, .plural].all fun number =>
    isListedWithWords (traps number) (wordsChangedTwice number) (endingsChangedTwice number) &&
      isListed (openEndings number) (endingsWithExceptions number) &&
      isListed (safeEndings number) (endingsExcepted number) && surveyRules number) = true := by
  decide +kernel

variable {number : Number} {v : List Char} {p : Pattern} {words endings : List String}

private theorem endsIn_iff_of_isListed (listed : isListed p endings = true) :
    p.endsIn v = true ↔ EndsInOneOf endings v := by
  rw [isListed, Bool.and_eq_true] at listed
  obtain ⟨lower, some⟩ := of_areSpelt listed.1
  rw [endsIn_eq_of_endsAlike listed.2, endsIn_anyWord_iff_endsInOneOf lower some]

private theorem endsIn_iff_of_isListedWithWords (listed : isListedWithWords p words endings = true) :
    p.endsIn v = true ↔ IsOneOf words v ∨ EndsInOneOf endings v := by
  simp only [isListedWithWords, Bool.and_eq_true] at listed
  obtain ⟨⟨wordsSpelt, endingsSpelt⟩, alike⟩ := listed
  obtain ⟨wordsLower, someWords⟩ := of_areSpelt wordsSpelt
  obtain ⟨endingsLower, someEndings⟩ := of_areSpelt endingsSpelt
  have shaped : ∀ q ∈ [start ++ anyWord words, anyWord endings], q.hasShapes = true := by
    simp [hasShapes_start_anyWord wordsLower someWords, hasShapes_anyWord endingsLower]
  rw [endsIn_eq_of_endsAlike alike, endsIn_anyOf_iff shaped (List.cons_ne_nil _ _)]
  simp [endsIn_start_anyWord_iff_isOneOf wordsLower someWords,
    endsIn_anyWord_iff_endsInOneOf endingsLower someEndings]

/-- The unstable stems are those that the lists tell. -/
theorem isUnstable_iff (number : Number) (v : List Char) :
    isUnstable number v = true ↔ IsChangedTwice number v := by
  have checked := List.all_eq_true.mp lists_checked number (by cases number <;> simp)
  simp only [Bool.and_eq_true] at checked
  obtain ⟨⟨⟨always, opened⟩, excepted⟩, -⟩ := checked
  rw [isUnstable, Bool.or_eq_true, Bool.and_eq_true, Bool.not_eq_true', ← Bool.not_eq_true,
    endsIn_iff_of_isListedWithWords always, endsIn_iff_of_isListed opened,
    endsIn_iff_of_isListed excepted, or_assoc, IsChangedTwice]

/-- What a rule other than the last one gives is left alone by the whole table. -/
theorem apply_result_of_first? {application : Application}
    (first : (table number).first? v = some application)
    (earlier : application.index + 1 < (table number).rules.length) :
    (table number).apply application.result = application.result := by
  have checked := List.all_eq_true.mp lists_checked number (by cases number <;> simp)
  have surveyed := (Bool.and_eq_true_iff.mp checked).2
  have start : Known.unknown.Covers .all v.reverse := fun c _ => LetterSet.mem_all c
  obtain ⟨known, covers, (explained : isLastOrKept number ((table number).effect? v) known = true)⟩ :=
    Known.of_survey start surveyed
  obtain ⟨effect, fitting, indexEq, result⟩ :=
    Table.exists_effect_of_first? (hasClauses_table number) first
  have unlast : (effect.index + 1 == (table number).rules.length) = false := by
    rw [← indexEq, beq_eq_false_iff_ne]
    exact earlier.ne
  rw [fitting, isLastOrKept, Option.any_some, unlast, Bool.false_or, Effect.editOf,
    Option.elim_some] at explained
  have edited := Known.covers_edited covers effect.edit
  rw [← result] at edited
  obtain ⟨-, -, kept⟩ := Table.of_survey edited explained
  have twice := congrArg (Edit.apply · v) (eq_of_beq kept)
  rwa [Edit.apply_andThen, ← result, ← apply_table] at twice

/-- A table for nouns changes what it gives for exactly the listed texts, and what a rule other than its
last one gives is left alone. -/
theorem apply_twice_ne_once_iff :
    (∀ number v, (table number).apply ((table number).apply v) ≠ (table number).apply v ↔
        IsChangedTwice number v) ∧
      ∀ number v application, (table number).first? v = some application →
        application.index + 1 < (table number).rules.length →
        (table number).apply application.result = application.result := by
  refine ⟨fun number v => ?_, fun number v application => apply_result_of_first?⟩
  rw [Ne, apply_apply_eq_iff, Bool.not_eq_false, isUnstable_iff]

theorem apply_twice_ne_once_iff_pollen :
    plurals.apply (plurals.apply "Pollen".toList) ≠ plurals.apply "Pollen".toList ∧
      ∃ application, singulars.first? "Cacti".toList = some application ∧
        application.index + 1 < singulars.rules.length ∧
        singulars.apply application.result = application.result := by
  have changed : IsChangedTwice .plural "Pollen".toList := .inr (.inl ⟨"len", by decide, by decide⟩)
  refine ⟨(apply_twice_ne_once_iff.1 .plural _).mpr changed, ?_⟩
  have applied : ((singulars.first? "Cacti".toList).any (·.index + 1 < singulars.rules.length)) = true := by
    rfl
  obtain ⟨application, first, earlier⟩ := (Option.any_eq_true _ _).mp applied
  have earlier := of_decide_eq_true earlier
  exact ⟨application, first, earlier, apply_twice_ne_once_iff.2 .singular _ application first earlier⟩

end Inflection.Nouns
