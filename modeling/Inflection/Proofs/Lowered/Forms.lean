import Inflection.Proofs.Lowered.Match
import Inflection.Proofs.Nouns.Form
import Inflection.Proofs.Verbs.Form

/-! # Forms of lower-case words

Inflection commutes with lower-casing a word of ASCII: each table applies the same rule to the lower-case
word and gives the lower-case form. So do the forms of verbs, and the forms of nouns, unless the lower-case
noun has one form for both numbers, which is told by its letters as they are written.
-/

namespace Inflection

open Text (isAscii lowered stem tail)

variable {number : Number} {word : List Char}

private theorem tables_lowerCase :
    ([Nouns.plurals, Nouns.singulars, Verbs.singulars, Verbs.plurals].all (·.isLowerCase)) = true := by
  decide

private theorem inflect_lowered {table : Table} (lower : table.isLowerCase = true)
    (ascii : ∀ c ∈ word, isAscii c = true) : table.inflect (lowered word) = lowered (table.inflect word) := by
  rw [Table.inflect, Table.inflect, Text.stem_lowered ascii, Text.tail_lowered ascii,
    Table.apply_lowered lower (Text.isAscii_of_mem_stem ascii), Text.lowered_append]

/-- The form of a verb in lower case is the form of the verb, in lower case. -/
theorem Verbs.form_lowered (number : Number) (ascii : ∀ c ∈ word, isAscii c = true) :
    form number (lowered word) = lowered (form number word) := by
  have lower : (table number).isLowerCase = true :=
    List.all_eq_true.mp tables_lowerCase _ (by cases number <;> simp [table])
  rw [form, form, Text.isBlankText_lowered ascii]
  split
  · rfl
  · exact inflect_lowered lower ascii

private theorem Nouns.isUncountable_stem (ascii : ∀ c ∈ word, isAscii c = true)
    (countable : isUncountable (stem (lowered word)) = false) : isUncountable (stem word) = false := by
  rw [← Bool.not_eq_true] at countable ⊢
  intro fixed
  obtain ⟨s, member, same⟩ := isUncountable_iff.mp fixed
  have own : lowered (stem word) = stem word := by
    rw [Text.lowered_eq_map (Text.isAscii_of_mem_stem ascii), same]
    exact Text.map_toLower_of_isLower (isLower_of_mem_uncountables s member)
  rw [Text.stem_lowered ascii, own] at countable
  exact countable fixed

/-- The form of a noun in lower case is the form of the noun, in lower case, if it has two forms there. -/
theorem Nouns.form_lowered (number : Number) (ascii : ∀ c ∈ word, isAscii c = true)
    (countable : isUncountable (stem (lowered word)) = false) :
    form number (lowered word) = lowered (form number word) := by
  have lower : (table number).isLowerCase = true :=
    List.all_eq_true.mp tables_lowerCase _ (by cases number <;> simp [table])
  have fixed : isFixed (lowered word) = isFixed word := by
    rw [isFixed, isFixed, Text.isBlankText_lowered ascii, countable, isUncountable_stem ascii countable]
  rw [form, form, fixed]
  split
  · rfl
  · exact inflect_lowered lower ascii

/-- Inflection commutes with lower-casing a word of ASCII. A table applies the same rule to the lower-case
word, or none to both, and gives the lower-case form for it; and so it is with the forms of verbs, and with
those of nouns that have two forms when they are written in lower case. -/
theorem inflection_commutes_with_lowered :
    (∀ table ∈ [Nouns.plurals, Nouns.singulars, Verbs.singulars, Verbs.plurals], ∀ word,
        (∀ c ∈ word, isAscii c = true) →
          (table.first? (lowered word)).map (fun a => (a.index, a.rule)) =
              (table.first? word).map (fun a => (a.index, a.rule)) ∧
            lowered (table.apply word) = table.apply (lowered word)) ∧
      (∀ word, (∀ c ∈ word, isAscii c = true) →
        lowered (Verbs.singularize word) = Verbs.singularize (lowered word) ∧
          lowered (Verbs.pluralize word) = Verbs.pluralize (lowered word)) ∧
      ∀ word, (∀ c ∈ word, isAscii c = true) → Nouns.isUncountable (stem (lowered word)) = false →
        lowered (Nouns.singularize word) = Nouns.singularize (lowered word) ∧
          lowered (Nouns.pluralize word) = Nouns.pluralize (lowered word) := by
  refine ⟨fun table member word ascii => ⟨?_, ?_⟩, fun word ascii => ?_, fun word ascii countable => ?_⟩
  · rw [table.first?_lowered ascii, Option.map_map]
    rfl
  · exact (Table.apply_lowered (List.all_eq_true.mp tables_lowerCase table member) ascii).symm
  · exact ⟨(Verbs.form_lowered .singular ascii).symm, (Verbs.form_lowered .plural ascii).symm⟩
  · exact ⟨(Nouns.form_lowered .singular ascii countable).symm,
      (Nouns.form_lowered .plural ascii countable).symm⟩

theorem inflection_commutes_with_lowered_wolf :
    (∀ c ∈ "WoLF ".toList, isAscii c = true) ∧
      Nouns.isUncountable (stem (lowered "WoLF ".toList)) = false ∧
      lowered (Nouns.pluralize "WoLF ".toList) = Nouns.pluralize (lowered "WoLF ".toList) ∧
      lowered (Verbs.singularize "WoLF ".toList) = Verbs.singularize (lowered "WoLF ".toList) ∧
      lowered (Nouns.plurals.apply "WoLF ".toList) = Nouns.plurals.apply (lowered "WoLF ".toList) :=
  have ascii : ∀ c ∈ "WoLF ".toList, isAscii c = true := List.all_eq_true.mp (by decide)
  have countable : Nouns.isUncountable (stem (lowered "WoLF ".toList)) = false := by decide
  ⟨ascii, countable, (inflection_commutes_with_lowered.2.2 _ ascii countable).2,
    (inflection_commutes_with_lowered.2.1 _ ascii).1,
    (inflection_commutes_with_lowered.1 Nouns.plurals List.mem_cons_self _ ascii).2⟩

/-- A noun in capitals is inflected even if it has one form in lower case. -/
example : Nouns.isFixed "SHEEP".toList = false ∧ Nouns.isFixed (lowered "SHEEP".toList) = true := by
  decide

end Inflection
