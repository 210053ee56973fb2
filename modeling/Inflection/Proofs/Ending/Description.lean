import Inflection.Proofs.Ending.Survey
import Inflection.Proofs.Ending.Word

/-! # Words described by lists

Which words of lower-case letters a statement is about is often told by lists of whole words and of
endings, some of them with exceptions. A survey that goes through the parts of such a description knows
in each case whether the description fits the word.
-/

namespace Inflection

open Pattern

/-- A description of words. An ending may have to come after a letter other than some. -/
inductive Description where
  | isOneOf (words : List String)
  | endsInOneOf (endings : List String)
  | endsInAfterOther (letters ending : String)
  | or (first second : Description)
  | butNot (first second : Description)

namespace Description

def Fits (word : List Char) : Description → Prop
  | isOneOf words => ∃ s ∈ words, word = s.toList
  | endsInOneOf endings => ∃ s ∈ endings, s.toList <:+ word
  | endsInAfterOther letters ending => ∃ c, c ∉ letters.toList ∧ c :: ending.toList <:+ word
  | or first second => first.Fits word ∨ second.Fits word
  | butNot first second => first.Fits word ∧ ¬second.Fits word

/-- Whether all lists of a description are spelt in letters from a to z, and none of them is empty. -/
def isSpelt : Description → Bool
  | isOneOf words => areSpelt words
  | endsInOneOf endings => areSpelt endings
  | endsInAfterOther letters ending =>
    letters.toList.all Char.isLower && ending.toList.all Char.isLower
  | or first second => first.isSpelt && second.isSpelt
  | butNot first second => first.isSpelt && second.isSpelt

/-- Checks a condition on whether the description fits a word. Nothing more is asked of a word once
that is settled. -/
def survey (alphabet : LetterSet) : Description → (Bool → Known → Bool) → Known → Bool
  | isOneOf words, check => (start ++ anyWord words).survey alphabet check
  | endsInOneOf endings, check => (anyWord endings).survey alphabet check
  | endsInAfterOther letters ending, check => (letterNotOf letters ++ word ending).survey alphabet check
  | or first second, check => first.survey alphabet fun
    | true => check true
    | false => second.survey alphabet check
  | butNot first second, check => first.survey alphabet fun
    | true => second.survey alphabet fun excepted => check !excepted
    | false => check false

variable {alphabet : LetterSet} {known : Known} {word : List Char} {check : Bool → Known → Bool}

private theorem of_survey_pattern {p : Pattern} {description : Description} (shaped : p.hasShapes = true)
    (told : p.endsIn word = true ↔ description.Fits word) (covers : known.Covers alphabet word.reverse)
    (checked : p.survey alphabet check known = true) :
    ∃ (settled : Known) (fits : Bool), settled.Covers alphabet word.reverse ∧
      (fits = true ↔ description.Fits word) ∧ check fits settled = true := by
  obtain ⟨settled, coversSettled, checked⟩ := Pattern.of_survey shaped covers checked
  exact ⟨settled, p.endsIn word, coversSettled, told, checked⟩

/-- A condition that a survey checks holds of every word of lower-case letters, with whether the
description fits it. -/
theorem of_survey {description : Description} (spelt : description.isSpelt = true)
    (lower : ∀ c ∈ word, c.isLower = true) (covers : known.Covers alphabet word.reverse)
    (checked : description.survey alphabet check known = true) :
    ∃ (settled : Known) (fits : Bool), settled.Covers alphabet word.reverse ∧
      (fits = true ↔ description.Fits word) ∧ check fits settled = true := by
  induction description generalizing check known with
  | isOneOf words =>
    obtain ⟨others, some⟩ := of_areSpelt spelt
    exact of_survey_pattern (hasShapes_start_anyWord others some)
      (endsIn_start_anyWord_iff others some lower) covers checked
  | endsInOneOf endings =>
    obtain ⟨others, some⟩ := of_areSpelt spelt
    exact of_survey_pattern (hasShapes_anyWord others) (endsIn_anyWord_iff others some lower) covers
      checked
  | endsInAfterOther letters ending =>
    simp only [isSpelt, Bool.and_eq_true, List.all_eq_true] at spelt
    exact of_survey_pattern (hasShapes_letterNotOf_word spelt.1 spelt.2)
      (endsIn_letterNotOf_word_iff letters ending spelt.1 spelt.2 lower) covers checked
  | or first second firstIh secondIh =>
    rw [isSpelt, Bool.and_eq_true] at spelt
    obtain ⟨settled, fits, coversSettled, told, checked⟩ := firstIh spelt.1 covers checked
    cases fits with
    | true => exact ⟨settled, true, coversSettled, iff_of_true rfl (.inl (told.mp rfl)), checked⟩
    | false =>
      have apart : ¬first.Fits word := fun fitting => Bool.false_ne_true (told.mpr fitting)
      obtain ⟨settled, fits, coversSettled, told, checked⟩ := secondIh spelt.2 coversSettled checked
      exact ⟨settled, fits, coversSettled, told.trans (or_iff_right apart).symm, checked⟩
  | butNot first second firstIh secondIh =>
    rw [isSpelt, Bool.and_eq_true] at spelt
    obtain ⟨settled, fits, coversSettled, told, checked⟩ := firstIh spelt.1 covers checked
    cases fits with
    | true =>
      have within : first.Fits word := told.mp rfl
      obtain ⟨settled, excepted, coversSettled, told, checked⟩ := secondIh spelt.2 coversSettled checked
      refine ⟨settled, !excepted, coversSettled, ?_, checked⟩
      rw [Fits, and_iff_right within, ← told, Bool.not_eq_true', Bool.not_eq_true]
    | false =>
      refine ⟨settled, false, coversSettled, iff_of_false Bool.false_ne_true ?_, checked⟩
      exact fun fitting => Bool.false_ne_true (told.mpr fitting.1)

end Description

end Inflection
