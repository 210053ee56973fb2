import Inflection.Proofs.Ending.Clause
import Inflection.Proofs.Stem

/-! # Forms of verbs

Both tables for verbs are lists of clauses for word endings. A verb is inflected as its table says, and
the blanks that end it stay as they are; a blank verb is never inflected.
-/

namespace Inflection.Verbs

open Text (stem tail isBlank)

variable {number : Number} {word blanks : List Char}

private theorem tables_haveClauses : (singulars.hasClauses && plurals.hasClauses) = true := by
  rfl

/-- What the tables for verbs do is told by their clauses. -/
theorem hasClauses_table (number : Number) : (table number).hasClauses = true := by
  have both := tables_haveClauses
  rw [Bool.and_eq_true] at both
  cases number with
  | singular => exact both.1
  | plural => exact both.2

/-- The tables for verbs edit the ends of words. -/
theorem apply_table (number : Number) (word : List Char) :
    (table number).apply word = ((table number).edit word).apply word :=
  Table.apply_eq (hasClauses_table number) word

theorem form_of_isBlankText (blank : Text.isBlankText word = true) : form number word = word :=
  if_pos blank

/-- A verb gets the form of its stem and keeps its blanks. -/
theorem form_of_visible (visible : Text.isBlankText word = false) :
    form number word = (table number).apply (stem word) ++ tail word := by
  rw [form, visible, if_neg Bool.false_ne_true, Table.inflect]

/-- A verb that ends in a character other than a blank is inflected as a whole. -/
theorem form_of_getLast {c : Char} (last : word.getLast? = some c) (plain : isBlank c = false) :
    form number word = (table number).apply word := by
  rw [form, Text.isBlankText_eq_false last plain, if_neg Bool.false_ne_true,
    Table.inflect_of_getLast last plain]

/-- A form does not change with the blanks after the word. -/
theorem form_append (all : ∀ c ∈ blanks, isBlank c = true) :
    form number (word ++ blanks) = form number word ++ blanks := by
  rw [form, form, Text.isBlankText_append all]
  split
  · rfl
  · exact Table.inflect_append all

/-- A verb that is there is its own form if its table leaves its stem alone. -/
theorem form_eq_self_iff (visible : Text.isBlankText word = false) :
    form number word = word ↔ (table number).apply (stem word) = stem word := by
  rw [form, visible, if_neg Bool.false_ne_true, Table.inflect_eq_self_iff]

end Inflection.Verbs
