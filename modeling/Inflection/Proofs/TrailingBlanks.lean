import Inflection.Proofs.Nouns.Form
import Inflection.Proofs.Verbs.Form
import Inflection.Request

/-! # Blanks after a word

Whether a word is blank, whether it has one form for both numbers and what its table makes of it are asked
of the text without the blanks that end it. So every form of a word with more blanks after it is the form
of the word with these blanks after it, and a noun keeps the number it has.
-/

namespace Inflection

variable {word blanks : List Char}

/-- Blanks after a noun do not change whether it is in its form for a number. -/
theorem Nouns.isInForm_append {number : Number} (all : ∀ c ∈ blanks, Text.isBlank c = true) :
    isInForm number (word ++ blanks) = isInForm number word := by
  have same : form number (word ++ blanks) = word ++ blanks ↔ form number word = word := by
    rw [form_append all]
    exact List.append_left_inj blanks
  rw [isInForm, isInForm, Text.isBlankText_append all, beq_eq_decide, beq_eq_decide, decide_eq_decide.mpr same]

/-- A request that puts the blanks after a word into its answer still fails or succeeds with the count. -/
theorem withCount_append {count : Json} {longer answer : Nat → List Char}
    (carried : ∀ n, longer n = answer n ++ blanks) :
    withCount count longer = (withCount count answer).map (· ++ blanks) := by
  rw [withCount, withCount]
  cases checkCount count with
  | ok n =>
    dsimp only
    rw [carried]
    rfl
  | error error => rfl

/-- Blanks after a word are carried over to all of its forms, with every value for a count, and have no
part in whether a noun is singular or plural. -/
theorem blanks_carried_over (word : List Char) (all : ∀ c ∈ blanks, Text.isBlank c = true) :
    Nouns.singularize (word ++ blanks) = Nouns.singularize word ++ blanks ∧
    Nouns.pluralize (word ++ blanks) = Nouns.pluralize word ++ blanks ∧
    Verbs.singularize (word ++ blanks) = Verbs.singularize word ++ blanks ∧
    Verbs.pluralize (word ++ blanks) = Verbs.pluralize word ++ blanks ∧
    (∀ n, Nouns.inflect (word ++ blanks) n = Nouns.inflect word n ++ blanks) ∧
    (∀ n, Verbs.conjugate (word ++ blanks) n = Verbs.conjugate word n ++ blanks) ∧
    (∀ count, withCount count (Nouns.inflect (word ++ blanks)) =
      (withCount count (Nouns.inflect word)).map (· ++ blanks)) ∧
    (∀ count, withCount count (Verbs.conjugate (word ++ blanks)) =
      (withCount count (Verbs.conjugate word)).map (· ++ blanks)) ∧
    Nouns.isSingular (word ++ blanks) = Nouns.isSingular word ∧
    Nouns.isPlural (word ++ blanks) = Nouns.isPlural word := by
  have nouns (n : Nat) : Nouns.inflect (word ++ blanks) n = Nouns.inflect word n ++ blanks :=
    Nouns.form_append all
  have verbs (n : Nat) : Verbs.conjugate (word ++ blanks) n = Verbs.conjugate word n ++ blanks :=
    Verbs.form_append all
  refine ⟨Nouns.form_append all, Nouns.form_append all, Verbs.form_append all, Verbs.form_append all,
    nouns, verbs, ?_, ?_, Nouns.isInForm_append all, Nouns.isInForm_append all⟩
  · intro count
    exact withCount_append nouns
  · intro count
    exact withCount_append verbs

theorem blanks_carried_over_fly :
    (∀ c ∈ "\n\u2003".toList, Text.isBlank c = true) ∧
      Nouns.pluralize "FlY \n\u2003".toList = "Flies \n\u2003".toList ∧
      Verbs.conjugate "FlY \n\u2003".toList 1 = "Flies \n\u2003".toList ∧
      Nouns.isPlural "FlY \n\u2003".toList = false := by
  have all : ∀ c ∈ "\n\u2003".toList, Text.isBlank c = true := List.all_eq_true.mp (by decide)
  obtain ⟨-, plural, -, -, -, verb, -, -, -, isPlural⟩ := blanks_carried_over "FlY ".toList all
  exact ⟨all, plural.trans (by rfl), (verb 1).trans (by rfl), isPlural.trans (by rfl)⟩

end Inflection
