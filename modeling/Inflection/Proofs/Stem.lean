import Inflection.English.Number
import Inflection.Proofs.Text.Trim

/-! # Stems of words

A table inflects the stem of a word, and the blanks that end the word have no part in that: the form of a
word with more blanks after it is the form of the word with these blanks after it.
-/

namespace Inflection.Table

open Text (isBlank)

variable {table : Table} {word blanks : List Char}

/-- Blanks after a word stay after its form. -/
theorem inflect_append (all : ∀ c ∈ blanks, isBlank c = true) :
    table.inflect (word ++ blanks) = table.inflect word ++ blanks := by
  rw [inflect, inflect, Text.stem_append all, Text.tail_append all, List.append_assoc]

/-- A word that ends in a character other than a blank is inflected as a whole. -/
theorem inflect_of_getLast {c : Char} (last : word.getLast? = some c) (plain : isBlank c = false) :
    table.inflect word = table.apply word := by
  rw [inflect, Text.stem_eq_self last plain, Text.tail_eq_nil last plain, List.append_nil]

/-- A table leaves a word as it is if it leaves the stem as it is. -/
theorem inflect_eq_self_iff : table.inflect word = word ↔ table.apply (Text.stem word) = Text.stem word := by
  have whole := Text.stem_append_tail word
  rw [inflect]
  constructor
  · exact fun same => List.append_cancel_right (same.trans whole.symm)
  · intro same
    rw [same, whole]

end Inflection.Table
