import Inflection.Proofs.Ending.Survey
import Inflection.Proofs.Ending.Word
import Inflection.Proofs.Verbs.Form

/-! # Verbs that agree with their subject

Which verbs agree with a singular or a plural subject already is told by their last two letters. The
table for a number gives a form that agrees with it, and leaves alone the verbs that do so already and no
others. The forms for both numbers are therefore the same for the verbs in -us, which agree with either,
and for no others.
-/

namespace Inflection.Verbs

open Pattern
open Text (stem tail isBlank sameLetter folded)

/-- Whether a verb agrees with a subject in a number as far as its ending tells. -/
def Agrees : Number → List Char → Prop
  | .singular, v => "s".toList <:+ folded v ∧ ¬"ss".toList <:+ folded v
  | .plural, v => ¬"s".toList <:+ folded v ∨ "ss".toList <:+ folded v ∨ "us".toList <:+ folded v

def tellingEndings : List Pattern :=
  [word "s", word "ss", word "us"]

/-- Whether a verb agrees with its subject, by which of the telling endings it has. -/
def agrees : Number → List Bool → Bool
  | .singular, [s, ss, _] => s && !ss
  | .plural, [s, ss, us] => !s || ss || us
  | _, _ => false

/-- What has to be known of a verb and of its form: the form agrees with the subject, and the edit that
makes it changes the verb unless the verb agrees already. The form ends in a letter if it is another
than the verb and if more than an s was dropped. -/
def isBroughtIntoAgreement (number : Number) (before : List Bool) (edit : Edit) (known : Known)
    (after : List Bool) (formed : Known) : Bool :=
  agrees number after &&
    (if agrees number before then edit == .nothing else known.changedBy edit) &&
    (edit == .nothing || formed.endsIn .insideWords || edit == ⟨1, []⟩ && known.endsIn (.letter 's'))

def surveyAgreement (number : Number) : Bool :=
  surveyAll .all tellingEndings (fun before =>
      (table number).survey .all fun edit known =>
        surveyAll .all tellingEndings (isBroughtIntoAgreement number before edit known)
          (known.edited edit))
    .unknown

private theorem surveys_checked : (tellingEndings.all (·.hasShapes) && surveyAgreement .singular &&
    surveyAgreement .plural) = true := by
  rfl

variable {number : Number} {v word : List Char}

private theorem agrees_iff :
    agrees number (tellingEndings.map (·.endsIn v)) = true ↔ Agrees number v := by
  have s : (word "s").endsIn v = true ↔ _ := endsIn_word_iff_folded (by simp)
  have ss : (word "ss").endsIn v = true ↔ _ := endsIn_word_iff_folded (by simp)
  have us : (word "us").endsIn v = true ↔ _ := endsIn_word_iff_folded (by simp)
  cases number <;>
    simp only [tellingEndings, List.map_cons, List.map_nil, agrees, Bool.and_eq_true, Bool.or_eq_true,
      Bool.not_eq_true', ← Bool.not_eq_true, s, ss, us, Agrees, or_assoc]

private theorem exists_broughtIntoAgreement (number : Number) (v : List Char) :
    ∃ known formed : Known, known.Covers .all v.reverse ∧
      formed.Covers .all ((table number).apply v).reverse ∧
      isBroughtIntoAgreement number (tellingEndings.map (·.endsIn v)) ((table number).edit v) known
        (tellingEndings.map (·.endsIn ((table number).apply v))) formed = true := by
  have checked := surveys_checked
  simp only [Bool.and_eq_true] at checked
  obtain ⟨⟨shaped, singular⟩, plural⟩ := checked
  have surveyed : surveyAgreement number = true := by
    cases number with
    | singular => exact singular
    | plural => exact plural
  have start : Known.unknown.Covers .all v.reverse := fun c _ => LetterSet.mem_all c
  obtain ⟨asked, coversAsked, surveyed⟩ := Pattern.of_surveyAll shaped start surveyed
  obtain ⟨known, covers, surveyed⟩ := Table.of_survey coversAsked surveyed
  have edited := Known.covers_edited covers ((table number).edit v)
  rw [← apply_table] at edited
  obtain ⟨formed, coversFormed, surveyed⟩ := Pattern.of_surveyAll shaped edited surveyed
  exact ⟨known, formed, covers, coversFormed, surveyed⟩

/-- The table for a number gives a form that agrees with it. -/
theorem agrees_apply (number : Number) (v : List Char) : Agrees number ((table number).apply v) := by
  obtain ⟨known, formed, -, -, brought⟩ := exists_broughtIntoAgreement number v
  simp only [isBroughtIntoAgreement, Bool.and_eq_true] at brought
  exact agrees_iff.mp brought.1.1

/-- The table for a number leaves a verb alone if the verb agrees with it already. -/
theorem apply_eq_self_iff (number : Number) (v : List Char) :
    (table number).apply v = v ↔ Agrees number v := by
  obtain ⟨known, formed, covers, -, brought⟩ := exists_broughtIntoAgreement number v
  simp only [isBroughtIntoAgreement, Bool.and_eq_true] at brought
  have edited := brought.1.2
  rw [← agrees_iff, apply_table]
  split at edited
  · next already =>
    rw [beq_iff_eq] at edited
    exact iff_of_true (by rw [edited, Edit.apply_nothing]) already
  · next other => exact iff_of_false (Known.apply_ne_of_changedBy covers edited) other

/-- A form that is not the verb itself ends in a letter, unless all that was done is to drop an s. -/
theorem apply_cases (number : Number) (v : List Char) : (table number).apply v = v ∨
    (∃ c, ((table number).apply v).getLast? = some c ∧ isBlank c = false) ∨
      ∃ c, sameLetter 's' c = true ∧ v = (table number).apply v ++ [c] := by
  obtain ⟨known, formed, covers, coversFormed, brought⟩ := exists_broughtIntoAgreement number v
  simp only [isBroughtIntoAgreement, Bool.and_eq_true, Bool.or_eq_true, beq_iff_eq] at brought
  rcases brought.2 with (unchanged | within) | dropped
  · rw [apply_table, unchanged]
    exact .inl (Edit.apply_nothing v)
  · exact .inr (.inl (Known.exists_getLast?_of_endsIn coversFormed within))
  · obtain ⟨start, c, rfl, member⟩ := Known.exists_of_endsIn covers dropped.2
    refine .inr (.inr ⟨c, (LetterSet.mem_letter (by decide)).mp member, ?_⟩)
    rw [apply_table, dropped.1, Edit.apply, List.append_nil, List.rdrop_concat_succ, List.rdrop_zero]

/-- A verb agrees with a subject in one number at least. -/
theorem agrees_singular_or_plural (v : List Char) : Agrees .singular v ∨ Agrees .plural v := by
  by_cases s : "s".toList <:+ folded v
  · by_cases ss : "ss".toList <:+ folded v
    · exact .inr (.inr (.inl ss))
    · exact .inl ⟨s, ss⟩
  · exact .inr (.inl s)

/-- The verbs in -us are those that agree with a subject in either number. -/
theorem agrees_singular_and_plural_iff (v : List Char) :
    Agrees .singular v ∧ Agrees .plural v ↔ "us".toList <:+ folded v := by
  constructor
  · rintro ⟨⟨s, noSs⟩, noS | ss | us⟩
    · exact absurd s noS
    · exact absurd ss noSs
    · exact us
  · intro us
    have s : "s".toList <:+ folded v := List.IsSuffix.trans (by decide) us
    refine ⟨⟨s, fun ss => ?_⟩, .inr (.inr us)⟩
    exact absurd (List.suffix_of_suffix_length_le ss us (by decide)) (by decide)

/-- A form for a singular subject ends in a letter. -/
theorem exists_getLast?_singulars_apply (v : List Char) :
    ∃ c, (singulars.apply v).getLast? = some c ∧ isBlank c = false :=
  have letter : 's'.isLower = true := by decide
  Text.exists_getLast?_of_suffix_folded letter (agrees_apply .singular v).1

/-- The stem of a form for a singular subject is what the table gives for the stem of the verb. -/
theorem stem_singularize (visible : Text.isBlankText word = false) :
    stem (singularize word) = singulars.apply (stem word) := by
  obtain ⟨c, last, plain⟩ := exists_getLast?_singulars_apply (stem word)
  rw [singularize, form_of_visible visible, Text.stem_append fun c => Text.isBlank_of_mem_tail]
  exact Text.stem_eq_self last plain

/-- At least one of the forms of a verb is the verb itself, and both are for the verbs in -us only. The
form for a singular subject ends in a single s. -/
theorem singularize_eq_pluralize_iff (visible : Text.isBlankText word = false) :
    (singularize word = word ∨ pluralize word = word) ∧
      (singularize word = pluralize word ↔ "us".toList <:+ folded (stem word)) ∧
      "s".toList <:+ folded (stem (singularize word)) ∧
      ¬"ss".toList <:+ folded (stem (singularize word)) := by
  have own : ∀ number, form number word = word ↔ Agrees number (stem word) := fun number =>
    (form_eq_self_iff visible).trans (apply_eq_self_iff number (stem word))
  have either : singularize word = word ∨ pluralize word = word :=
    (agrees_singular_or_plural (stem word)).imp (own .singular).mpr (own .plural).mpr
  have both : singularize word = pluralize word ↔ singularize word = word ∧ pluralize word = word := by
    constructor
    · intro same
      rcases either with singular | plural
      · exact ⟨singular, same ▸ singular⟩
      · exact ⟨same.trans plural, plural⟩
    · rintro ⟨singular, plural⟩
      rw [singular, plural]
  refine ⟨either, ?_, ?_⟩
  · rw [both, ← agrees_singular_and_plural_iff]
    exact and_congr (own .singular) (own .plural)
  · rw [stem_singularize visible]
    exact agrees_apply .singular (stem word)

theorem singularize_eq_pluralize_iff_focus :
    Text.isBlankText "FocuS\n".toList = false ∧
      singularize "FocuS\n".toList = pluralize "FocuS\n".toList ∧
      "us".toList <:+ folded (stem "FocuS\n".toList) :=
  have visible : Text.isBlankText "FocuS\n".toList = false := by decide
  have ends : "us".toList <:+ folded (stem "FocuS\n".toList) := by decide
  ⟨visible, (singularize_eq_pluralize_iff visible).2.1.mpr ends, ends⟩

end Inflection.Verbs
