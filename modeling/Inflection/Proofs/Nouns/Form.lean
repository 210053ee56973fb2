import Inflection.Proofs.Ending.Description
import Inflection.Proofs.Stem

/-! # Forms of nouns

Both tables for nouns are lists of clauses for word endings. Blanks that end a noun have no part in its
form: they stay as they are, and the noun before them is inflected as it would be alone.
-/

namespace Inflection.Nouns

open Text (stem tail isBlank)

variable {number : Number} {word blanks : List Char}

private theorem tables_haveClauses : (plurals.hasClauses && singulars.hasClauses) = true := by
  decide

/-- What the tables for nouns do is told by their clauses. -/
theorem hasClauses_table (number : Number) : (table number).hasClauses = true := by
  have both := tables_haveClauses
  rw [Bool.and_eq_true] at both
  cases number with
  | singular => exact both.2
  | plural => exact both.1

/-- The tables for nouns edit the ends of words. -/
theorem apply_table (number : Number) (word : List Char) :
    (table number).apply word = ((table number).edit word).apply word :=
  Table.apply_eq (hasClauses_table number) word

theorem areSpelt_uncountables : Pattern.areSpelt uncountables = true := by
  decide

theorem isLower_of_mem_uncountables :
    ∀ s ∈ uncountables, ∀ c ∈ s.toList, c.isLower = true :=
  (Pattern.of_areSpelt areSpelt_uncountables).1

theorem isUncountable_iff : isUncountable word = true ↔ ∃ s ∈ uncountables, word = s.toList := by
  rw [isUncountable, List.any_eq_true]
  exact exists_congr fun s => and_congr_right fun _ => by rw [beq_iff_eq, eq_comm]

/-- A survey may ask whether a word of lower-case letters has one form for both numbers. -/
theorem of_survey_uncountables {alphabet : LetterSet} {check : Bool → Known → Bool} {known : Known}
    (lower : ∀ c ∈ word, c.isLower = true) (covers : known.Covers alphabet word.reverse)
    (checked : (Description.isOneOf uncountables).survey alphabet check known = true) :
    ∃ settled : Known, settled.Covers alphabet word.reverse ∧
      check (isUncountable word) settled = true := by
  have spelt : (Description.isOneOf uncountables).isSpelt = true := areSpelt_uncountables
  obtain ⟨settled, fits, coversSettled, told, checked⟩ :=
    Description.of_survey spelt lower covers checked
  obtain rfl : fits = isUncountable word := Bool.eq_iff_iff.mpr (told.trans isUncountable_iff.symm)
  exact ⟨settled, coversSettled, checked⟩

theorem isFixed_append (all : ∀ c ∈ blanks, isBlank c = true) :
    isFixed (word ++ blanks) = isFixed word := by
  rw [isFixed, isFixed, Text.isBlankText_append all, Text.stem_append all]

/-- A form does not change with the blanks after the word. -/
theorem form_append (all : ∀ c ∈ blanks, isBlank c = true) :
    form number (word ++ blanks) = form number word ++ blanks := by
  rw [form, form, isFixed_append all]
  cases isFixed word with
  | true => rfl
  | false => exact Table.inflect_append all

theorem form_of_isFixed (fixed : isFixed word = true) : form number word = word := by
  rw [form, if_pos fixed]

/-- A noun that is inflected gets the form of its stem and keeps its blanks. -/
theorem form_of_not_isFixed (free : isFixed word = false) :
    form number word = (table number).apply (stem word) ++ tail word := by
  rw [form, if_neg (by simp [free]), Table.inflect]

/-- A word is its own form if it is not inflected or if its table leaves it alone. -/
theorem form_eq_self_iff :
    form number word = word ↔ isFixed word = true ∨ (table number).apply (stem word) = stem word := by
  cases fixed : isFixed word with
  | true => simp [form_of_isFixed fixed]
  | false =>
    rw [form, fixed, if_neg Bool.false_ne_true, or_iff_right Bool.false_ne_true,
      Table.inflect_eq_self_iff]

/-- Inflecting a word a second time is inflecting what its table gave for it. -/
theorem form_form_eq_iff :
    form number (form number word) = form number word ↔ isFixed word = true ∨
      form number ((table number).apply (stem word)) = (table number).apply (stem word) := by
  cases fixed : isFixed word with
  | true => simp [form_of_isFixed fixed]
  | false =>
    rw [form_of_not_isFixed fixed, form_append fun c => Text.isBlank_of_mem_tail]
    simp

/-- A word that ends in a character other than a blank is inflected as a whole. -/
theorem form_of_getLast {c : Char} (last : word.getLast? = some c) (plain : isBlank c = false) :
    form number word = if isUncountable word then word else (table number).apply word := by
  rw [form, isFixed, Text.isBlankText_eq_false last plain, Text.stem_eq_self last plain,
    Bool.false_or, Table.inflect_of_getLast last plain]

/-- A noun without blanks at its end is its own form if it has one form or if its table leaves it alone.
-/
theorem form_eq_self_iff_of_getLast {c : Char} (last : word.getLast? = some c)
    (plain : isBlank c = false) :
    form number word = word ↔ isUncountable word = true ∨ (table number).apply word = word := by
  rw [form_eq_self_iff, isFixed, Text.isBlankText_eq_false last plain, Text.stem_eq_self last plain,
    Bool.false_or]

theorem form_eq_self_iff_of_isLower (present : word ≠ []) (lower : ∀ c ∈ word, c.isLower = true) :
    form number word = word ↔ isUncountable word = true ∨ (table number).apply word = word :=
  form_eq_self_iff_of_getLast (List.getLast?_eq_some_getLast present)
    (Text.isBlank_of_isLower (lower _ (List.getLast_mem present)))

end Inflection.Nouns
