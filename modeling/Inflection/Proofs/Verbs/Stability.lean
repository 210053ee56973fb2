import Inflection.Proofs.Verbs.Agreement

/-! # Verbs that are inflected again

A form agrees with its subject, and a verb that does so is left alone, so inflecting a verb a second time
changes nothing. Only where dropping a lone s uncovers blanks does the second time see another verb.
-/

namespace Inflection.Verbs

open Text (stem tail isBlank sameLetter)

variable {number : Number} {v : List Char}

/-- Whether a lone s after a blank ends the verb. -/
def EndsInLoneS (v : List Char) : Prop :=
  ∃ start b c, v = start ++ [b, c] ∧ isBlank b = true ∧ sameLetter 's' c = true

/-- Each table leaves its own forms alone. -/
theorem apply_apply (number : Number) (v : List Char) :
    (table number).apply ((table number).apply v) = (table number).apply v :=
  (apply_eq_self_iff number _).mpr (agrees_apply number v)

/-- No blank ends the form of a stem, unless dropping a lone s uncovers it. -/
theorem isBlank_of_getLast?_apply (last : ∀ c, v.getLast? = some c → isBlank c = false)
    (joined : number = .plural → ¬EndsInLoneS v) {d : Char}
    (final : ((table number).apply v).getLast? = some d) : isBlank d = false := by
  cases number with
  | singular =>
    obtain ⟨c, letterLast, plain⟩ := exists_getLast?_singulars_apply v
    obtain rfl := Option.some.inj (letterLast.symm.trans final)
    exact plain
  | plural =>
    obtain unchanged | ⟨c, letterLast, plain⟩ | ⟨c, letter, split⟩ := apply_cases .plural v
    · exact last d (unchanged ▸ final)
    · obtain rfl := Option.some.inj (letterLast.symm.trans final)
      exact plain
    · rw [← Bool.not_eq_true]
      intro blank
      obtain ⟨start, whole⟩ := List.getLast?_eq_some_iff.mp final
      refine joined rfl ⟨start, d, c, ?_, blank, letter⟩
      rw [split, whole, List.append_assoc]
      rfl

/-- A form is its own form in the same number, unless a lone s ends the verb. -/
theorem form_form (word : List Char) (joined : number = .plural → ¬EndsInLoneS (stem word)) :
    form number (form number word) = form number word := by
  cases visible : Text.isBlankText word with
  | true => rw [form_of_isBlankText visible, form_of_isBlankText visible]
  | false =>
    have formed : form number ((table number).apply (stem word)) = (table number).apply (stem word) := by
      cases final : ((table number).apply (stem word)).getLast? with
      | none =>
        rw [List.getLast?_eq_none_iff.mp final]
        rfl
      | some d =>
        rw [form_of_getLast final (isBlank_of_getLast?_apply
          (fun c => Text.isBlank_of_getLast?_stem) joined final), apply_apply]
    rw [form_of_visible visible, form_append fun c => Text.isBlank_of_mem_tail, formed]

/-- Inflecting twice is inflecting once: for both tables and every text, for every verb with a singular
subject, and with a plural subject for every verb that no lone s ends. -/
theorem agreement_idempotent :
    (∀ number v, (table number).apply ((table number).apply v) = (table number).apply v) ∧
      (∀ word, singularize (singularize word) = singularize word) ∧
      ∀ word, ¬EndsInLoneS (stem word) → pluralize (pluralize word) = pluralize word :=
  ⟨apply_apply, fun word => form_form word nofun, fun word joined => form_form word fun _ => joined⟩

theorem agreement_idempotent_goes :
    ¬EndsInLoneS (stem "Goes \t".toList) ∧
      pluralize (pluralize "Goes \t".toList) = pluralize "Goes \t".toList :=
  have joined : ¬EndsInLoneS (stem "Goes \t".toList) := by
    rintro ⟨start, b, c, split, blank, -⟩
    change "Go".toList ++ ['e', 's'] = _ at split
    obtain ⟨-, ending⟩ := List.append_inj' split rfl
    obtain ⟨rfl, -⟩ := List.cons.inj ending
    exact absurd blank (by decide)
  ⟨joined, agreement_idempotent.2.2 _ joined⟩

/-- A lone s is dropped, and the verb before it is inflected the second time. -/
example : pluralize (pluralize "tries s".toList) = "try ".toList ∧
    pluralize "tries s".toList = "tries ".toList := by
  decide

end Inflection.Verbs
