import Inflection.Proofs.Nouns.Form

/-! # Nouns that come back

The plural of a noun that a closed list or a spelling rule gives should be undone by the table for
singular nouns. Some plurals belong to two nouns, however: "axes" is read as the plural of "axis", and
"movies" as that of "movie". This file says exactly for which nouns of lower-case letters the way back
is missed.
-/

namespace Inflection

def Rule.isKeep (rule : Rule) : Bool :=
  match rule with
  | ⟨.seq (.capture _) .stop, []⟩ => true
  | _ => false

namespace Nouns

open Pattern

/-- The rules of the plural table that cannot be undone in general: -es after -us, -ses for -sis, and
the last one, -s after everything. -/
def broadRules : List Rule :=
  [.ending (capture (word "us") ++ stop) "es", .ending (word "sis" ++ stop) "ses", .ending stop "s"]

/-- Whether a rule of the plural table is for a closed list of nouns or for a way of spelling. -/
def isSpecific (rule : Rule) : Bool :=
  !rule.isKeep && !broadRules.contains rule

/-- Whether the first rule for the plural of a noun is a specific one. -/
def hasSpecificPlural (word : List Char) : Bool :=
  (plurals.first? word).any (isSpecific ·.rule)

def missedNouns : List String :=
  ["ax", "quizz", "ty", "py", "ly", "dy", "sery", "specy"]

/-- The endings of nouns whose plural leads back to another noun. -/
def missedEndings : List String :=
  ["movy", "cooky", "zomby", "calory", "prairy", "rooky", "hippy", "goaly", "pixy", "nich", "clich"]

/-- Whether the plural of a noun leads back to another noun. Nouns in -ach are taken for nouns in -ache
unless an e or an o comes before the ending. -/
def IsMissed (word : List Char) : Prop :=
  (∃ s ∈ missedNouns, word = s.toList) ∨ (∃ s ∈ missedEndings, s.toList <:+ word) ∨
    "ach".toList <:+ word ∧ ¬∃ s ∈ ["each", "oach"], s.toList <:+ word

/-- The nouns that are missed, in a form that a survey can go through. -/
def missed : Description :=
  .or (.isOneOf missedNouns) <| .or (.endsInOneOf missedEndings) <|
    .butNot (.endsInOneOf ["ach"]) (.endsInOneOf ["each", "oach"])

/-- The edit with which the singular table leads back from a plural. A plural with one form for both
numbers stays as it is. -/
def editBack (fixed : Bool) (edit : Edit) : Edit :=
  if fixed then .nothing else edit

/-- Checks what is to be known of a noun whose plural has the effect, if the rule for it is a specific
one: a noun with one form is not missed, and the plural of any other leads back as it should. -/
def isBroughtBack (fixed missed : Bool) (effect : Option Effect) (known : Known) : Bool :=
  let edit := Effect.editOf effect
  !effect.any (fun effect => plurals.rules[effect.index]?.any isSpecific) ||
    if fixed then !missed
    else edit.added.all Char.isLower &&
      (Description.isOneOf uncountables).survey .letters
        (fun fixedAfter => singulars.survey .letters fun second =>
          Known.isReturned missed edit (editBack fixedAfter second) known)
        (known.edited edit)

def surveyBack : Bool :=
  (Description.isOneOf uncountables).survey .letters (fun fixed =>
    missed.survey .letters fun missed =>
      Known.survey .letters surveyDepth (isBroughtBack fixed missed) plurals.clauses)
    .unknown

private theorem surveyBack_checked : (missed.isSpelt && surveyBack) = true := by
  decide +kernel

variable {word : List Char}

private theorem fits_missed_iff : missed.Fits word ↔ IsMissed word := by
  simp [missed, Description.Fits, IsMissed]

private theorem hasSpecificPlural_eq (word : List Char) :
    hasSpecificPlural word =
      (plurals.effect? word).any fun effect => plurals.rules[effect.index]?.any isSpecific :=
  Table.any_first?_eq (hasClauses_table .plural) isSpecific

private theorem singularize_of_getLast {c : Char} (last : word.getLast? = some c)
    (plain : Text.isBlank c = false) :
    singularize word = (editBack (isUncountable word) (singulars.edit word)).apply word := by
  rw [singularize, form_of_getLast last plain, apply_table, table, editBack]
  split
  · rw [Edit.apply_nothing]
  · rfl

/-- The plural that a specific rule gives: either both forms of the noun are one, or the plural ends in a
letter and leads back unless the noun is missed. -/
private theorem returned_unless_missed (lower : ∀ c ∈ word, c.isLower = true)
    (specific : hasSpecificPlural word = true) :
    isUncountable word = true ∧ ¬IsMissed word ∨ isUncountable word = false ∧
      (∃ c, (plurals.apply word).getLast? = some c ∧ Text.isBlank c = false) ∧
      ((editBack (isUncountable (plurals.apply word)) (singulars.edit (plurals.apply word))).apply
        (plurals.apply word) = word ↔ ¬IsMissed word) := by
  have checked := surveyBack_checked
  rw [Bool.and_eq_true] at checked
  obtain ⟨sorted, coversSorted, surveyed⟩ :=
    of_survey_uncountables lower (Known.covers_unknown_of_isLower lower) checked.2
  obtain ⟨asked, missed, coversAsked, told, surveyed⟩ :=
    Description.of_survey checked.1 lower coversSorted surveyed
  obtain ⟨known, covers, surveyed⟩ := Known.of_survey coversAsked surveyed
  change isBroughtBack _ _ (plurals.effect? word) known = true at surveyed
  rw [isBroughtBack, ← hasSpecificPlural_eq, specific, Bool.not_true, Bool.false_or] at surveyed
  rw [← fits_missed_iff, ← told]
  cases fixed : isUncountable word with
  | true =>
    rw [fixed, if_pos rfl, Bool.not_eq_true'] at surveyed
    exact .inl ⟨rfl, ne_true_of_eq_false surveyed⟩
  | false =>
    rw [fixed, if_neg Bool.false_ne_true, Bool.and_eq_true] at surveyed
    have edited := Known.covers_edited covers (plurals.edit word)
    have lowerAfter := Edit.isLower_of_mem_apply surveyed.1 lower
    obtain ⟨sorted, coversSorted, surveyed⟩ := of_survey_uncountables lowerAfter edited surveyed.2
    obtain ⟨after, coversAfter, surveyed⟩ := Table.of_survey coversSorted surveyed
    have first : plurals.apply word = (plurals.edit word).apply word := apply_table .plural word
    rw [first]
    exact .inr ⟨rfl, Known.of_isReturned covers lower coversAfter surveyed⟩

/-- The plural of a noun that a specific rule gives leads back to the noun, unless the noun is one of
those that are missed. -/
theorem singularize_pluralize_eq_iff (present : word ≠ []) (lower : ∀ c ∈ word, c.isLower = true)
    (specific : hasSpecificPlural word = true) :
    singularize (pluralize word) = word ↔ ¬IsMissed word := by
  have last := List.getLast?_eq_some_getLast present
  have letter := Text.isBlank_of_isLower (lower _ (List.getLast_mem present))
  obtain ⟨fixed, returned⟩ | ⟨free, ⟨c, lastAfter, plain⟩, returned⟩ :=
    returned_unless_missed lower specific
  · have same : ∀ number, form number word = word := fun number => by
      rw [form_of_getLast last letter, fixed, if_pos rfl]
    exact iff_of_true (by rw [singularize, pluralize, same, same]) returned
  · have there : pluralize word = plurals.apply word := by
      rw [pluralize, form_of_getLast last letter, free, if_neg Bool.false_ne_true, table]
    rw [there, singularize_of_getLast lastAfter plain, returned]

theorem singularize_pluralize_eq_iff_headache :
    "headach".toList ≠ [] ∧ (∀ c ∈ "headach".toList, c.isLower = true) ∧
      hasSpecificPlural "headach".toList = true ∧ IsMissed "headach".toList ∧
      singularize (pluralize "headach".toList) ≠ "headach".toList :=
  have lower : ∀ c ∈ "headach".toList, c.isLower = true := by simp
  have specific : hasSpecificPlural "headach".toList = true := by rfl
  have missed : IsMissed "headach".toList := .inr (.inr ⟨⟨"head".toList, rfl⟩, by decide⟩)
  ⟨by decide, lower, specific, missed, fun back =>
    (singularize_pluralize_eq_iff (by decide) lower specific).mp back missed⟩

end Nouns

end Inflection
