import Inflection.Proofs.Ending.Description
import Inflection.Proofs.Verbs.Form

/-! # Verbs that come back

The table for plural subjects should undo what the table for singular subjects does to a bare verb.
Spellings collide, however: "ties" comes from "tie" and from "ty", and "caches" is read as the form of
"cach". This file says exactly for which bare verbs of lower-case letters the way back is missed.
-/

namespace Inflection.Verbs

def missedVerbs : List String :=
  ["i", "wa", "ha", "doe", "goe", "vy", "ty", "py", "ly", "dy"]

/-- The endings of verbs whose form for a singular subject leads back to another verb: those in -u,
those in -y that are taken for verbs in -ie, those in -oe that are taken for verbs in -o, and those in
-e that are taken for verbs in a hissing sound. -/
def missedEndings : List String :=
  ["u", "bety", "bepy", "bely", "bedy", "unty", "unpy", "unly", "undy", "echoe", "vetoe", "torpedoe",
    "xe", "che", "sse", "she", "zze", "tze"]

/-- The whole verbs in -ie that are not taken for verbs in -y. -/
def plainVerbsInIe : List String :=
  ["tie", "pie", "lie", "die", "vie"]

/-- The endings of verbs in -ie that are not taken for verbs in -y. -/
def plainEndingsInIe : List String :=
  ["betie", "bepie", "belie", "bedie", "untie", "unpie", "unlie", "undie"]

/-- Whether the form of a bare verb for a singular subject leads back to another verb. -/
def IsMissed (word : List Char) : Prop :=
  (∃ s ∈ missedVerbs, word = s.toList) ∨ (∃ s ∈ missedEndings, s.toList <:+ word) ∨
    ("quie".toList <:+ word ∨ ∃ c, c ∉ "aeiouy".toList ∧ c :: "ie".toList <:+ word) ∧
      ¬((∃ s ∈ plainVerbsInIe, word = s.toList) ∨ ∃ s ∈ plainEndingsInIe, s.toList <:+ word)

/-- The verbs that are missed, in a form that a survey can go through. -/
def missed : Description :=
  .or (.isOneOf missedVerbs) <| .or (.endsInOneOf missedEndings) <|
    .butNot (.or (.endsInOneOf ["quie"]) (.endsInAfterOther "aeiouy" "ie"))
      (.or (.isOneOf plainVerbsInIe) (.endsInOneOf plainEndingsInIe))

def surveyBack : Bool :=
  missed.survey .letters (fun missed =>
      singulars.survey .letters fun first known =>
        plurals.survey .letters (Known.isReturned missed first · known) (known.edited first))
    (.letter (LetterSet.letters.without (.letter 's')) .unknown)

private theorem surveyBack_checked : (missed.isSpelt && surveyBack) = true := by
  rfl

variable {word : List Char}

private theorem fits_missed_iff : missed.Fits word ↔ IsMissed word := by
  simp [missed, Description.Fits, IsMissed]

private theorem returned_unless_missed (present : word ≠ []) (lower : ∀ c ∈ word, c.isLower = true)
    (bare : word.getLast? ≠ some 's') :
    (∃ c, (singulars.apply word).getLast? = some c ∧ Text.isBlank c = false) ∧
      (plurals.apply (singulars.apply word) = word ↔ ¬IsMissed word) := by
  have checked := surveyBack_checked
  rw [Bool.and_eq_true] at checked
  -- A verb in s is not bare, so the survey starts from the words with any other last letter.
  have start : (Known.letter (LetterSet.letters.without (.letter 's')) .unknown).Covers .letters
      word.reverse := by
    obtain ⟨lead, c, rfl⟩ := (List.eq_nil_or_concat' word).resolve_left present
    have letter : c.isLower = true := lower c (by simp)
    have other : c ∉ LetterSet.letter 's' := by
      rw [LetterSet.mem_letter_iff_eq letter (by decide)]
      rintro rfl
      exact bare List.getLast?_concat
    exact Known.covers_letter_unknown
      (LetterSet.mem_without.mpr ⟨LetterSet.mem_letters_of_isLower letter, other⟩)
      fun d member => LetterSet.mem_letters_of_isLower (lower d (by simp [member]))
  obtain ⟨asked, missed, coversAsked, told, checked⟩ :=
    Description.of_survey checked.1 lower start checked.2
  obtain ⟨known, covers, checked⟩ := Table.of_survey coversAsked checked
  have edited := Known.covers_edited covers (singulars.edit word)
  have first : singulars.apply word = (singulars.edit word).apply word := apply_table .singular word
  have second : plurals.apply (singulars.apply word) =
      (plurals.edit (singulars.apply word)).apply (singulars.apply word) := apply_table .plural _
  rw [second, first]
  obtain ⟨after, coversAfter, checked⟩ := Table.of_survey edited checked
  rw [← fits_missed_iff, ← told]
  exact Known.of_isReturned covers lower coversAfter checked

/-- The form of a bare verb for a singular subject leads back to the verb, unless it is one of those
that are missed. -/
theorem pluralize_singularize_eq_iff (present : word ≠ []) (lower : ∀ c ∈ word, c.isLower = true)
    (bare : word.getLast? ≠ some 's') : pluralize (singularize word) = word ↔ ¬IsMissed word := by
  obtain ⟨⟨c, lastAfter, plain⟩, returned⟩ := returned_unless_missed present lower bare
  have last := List.getLast?_eq_some_getLast present
  have letter := Text.isBlank_of_isLower (lower _ (List.getLast_mem present))
  have there : singularize word = singulars.apply word := form_of_getLast last letter
  have back : pluralize (singulars.apply word) = plurals.apply (singulars.apply word) :=
    form_of_getLast lastAfter plain
  rw [there, back, returned]

theorem pluralize_singularize_eq_iff_untie :
    "untie".toList ≠ [] ∧ (∀ c ∈ "untie".toList, c.isLower = true) ∧
      "untie".toList.getLast? ≠ some 's' ∧
      pluralize (singularize "untie".toList) = "untie".toList ∧ ¬IsMissed "untie".toList :=
  have lower : ∀ c ∈ "untie".toList, c.isLower = true := by simp
  have returned : pluralize (singularize "untie".toList) = "untie".toList := by rfl
  ⟨by decide, lower, by decide, returned,
    (pluralize_singularize_eq_iff (by decide) lower (by decide)).mp returned⟩

end Inflection.Verbs
