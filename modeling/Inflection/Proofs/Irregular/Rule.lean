import Inflection.Proofs.Ending.Word
import Inflection.Proofs.Pattern.Sequence
import Inflection.Proofs.Rule.First
import Inflection.Rule.Irregular

/-! # Rules for whole words

The rules of an irregular pair match whole words only, up to the case of their letters: a word is matched
if the letters of the source form, or of the target form, are its letters. The first rule then gives the
target form, which may take over the first letter of the word, and the second one gives the word.
-/

namespace Inflection

open Text (folded fold)

variable {word letters source target : List Char} {c d s t : Char}

@[simp]
private theorem folded_cons_prefix_cons {text : List Char} :
    folded (c :: letters) <+: folded (d :: text) ↔ fold c = fold d ∧ folded letters <+: folded text :=
  List.cons_prefix_cons

private theorem length_eq_of_folded (same : folded word = folded letters) : word.length = letters.length := by
  simpa [folded] using congrArg List.length same

private theorem prefix_and_drop_iff :
    folded letters <+: folded word ∧ word.drop letters.length = [] ↔ folded word = folded letters := by
  constructor
  · rintro ⟨⟨rest, whole⟩, ended⟩
    have bound := List.drop_eq_nil_iff.mp ended
    have lengths := congrArg List.length whole
    simp only [folded, List.length_append, List.length_map] at lengths
    have empty : rest = [] := List.length_eq_zero_iff.mp (by omega)
    rw [← whole, empty, List.append_nil]
  · intro same
    exact ⟨same ▸ List.prefix_rfl, List.drop_eq_nil_of_le (length_eq_of_folded same).le⟩

namespace Pattern

variable {p : Pattern} {before : Option Char} {text : List Char}

/-- The letters of a text match the beginning of a text in one way at most. -/
theorem outcomes_ofChars (letters : List Char) (before : Option Char) (text : List Char) :
    (ofChars letters).outcomes before text =
      if folded letters <+: folded text then
        [⟨text.take letters.length, text.drop letters.length, none⟩] else [] := by
  induction letters generalizing before text with
  | nil => simp [ofChars, outcomes, here, folded]
  | cons c letters ih =>
    rw [outcomes_ofChars_cons, outcomes_append]
    cases text with
    | nil => simp [outcomes, takeOne, folded]
    | cons d text =>
      by_cases same : fold c = fold d
      · by_cases following : folded letters <+: folded text
        · simp [outcomes, takeOne, Text.sameLetter, same, ih, following]
        · simp [outcomes, takeOne, Text.sameLetter, same, ih, following]
      · simp [outcomes, takeOne, Text.sameLetter, same]

/-- A pattern that matches only at the start of a word finds no later match. -/
theorem find?_of_start (atStart : ∀ c text, p.outcomes (some c) text = []) :
    p.find? word = (p.outcomes none word).head?.map (⟨[], ·⟩) := by
  cases word with
  | nil => rfl
  | cons c word =>
    have later : p.findFrom? (some c) word = none := findFrom?_eq_none_iff.mpr fun lead rest _ => by
      cases lead.getLast? with
      | none => exact atStart c rest
      | some d => exact atStart d rest
    rw [find?, findFrom?, later]
    cases p.outcomes none (c :: word) <;> rfl

private theorem find?_of_ways {kept : Option (List Char)}
    (atStart : ∀ c text, p.outcomes (some c) text = [])
    (ways : p.outcomes none word = if folded letters <+: folded word then
      [⟨word.take letters.length, word.drop letters.length, kept⟩] else []) :
    (p ++ stop).find? word =
      if folded word = folded letters then some ⟨[], ⟨word, [], kept⟩⟩ else none := by
  rw [find?_of_start fun c text => by rw [outcomes_append, atStart]; rfl, outcomes_append, ways]
  by_cases begins : folded letters <+: folded word
  · by_cases ended : word.drop letters.length = []
    · have same := prefix_and_drop_iff.mp ⟨begins, ended⟩
      have whole := List.take_of_length_le (List.drop_eq_nil_iff.mp ended)
      simp [ended, same, whole, outcomes, here]
    · have other := mt prefix_and_drop_iff.mpr fun both => ended both.2
      simp [begins, ended, other, outcomes, here]
  · have other := mt prefix_and_drop_iff.mpr fun both => begins both.1
    simp [begins, other]

private theorem outcomes_captured_letters (s : Char) (source word : List Char) :
    (start ++ capture (char s) ++ ofChars source).outcomes none word =
      if folded (s :: source) <+: folded word then
        [⟨word.take (s :: source).length, word.drop (s :: source).length, some (word.take 1)⟩]
      else [] := by
  cases word with
  | nil => simp [outcomes_append, outcomes, here, takeOne, folded]
  | cons c word =>
    by_cases same : fold s = fold c
    · by_cases following : folded source <+: folded word
      · simp [outcomes_append, outcomes, here, takeOne, outcomes_ofChars, Text.sameLetter, same, following]
      · simp [outcomes_append, outcomes, here, takeOne, outcomes_ofChars, Text.sameLetter, same, following]
    · simp [outcomes_append, outcomes, here, takeOne, Text.sameLetter, same]

private theorem outcomes_start_letters (letters word : List Char) :
    (start ++ ofChars letters).outcomes none word =
      if folded letters <+: folded word then
        [⟨word.take letters.length, word.drop letters.length, none⟩] else [] := by
  simp [outcomes_append, outcomes, here, outcomes_ofChars]

private theorem outcomes_capture_letters (letters word : List Char) :
    (capture (start ++ ofChars letters)).outcomes none word =
      if folded letters <+: folded word then
        [⟨word.take letters.length, word.drop letters.length, some (word.take letters.length)⟩]
      else [] := by
  rw [outcomes, outcomes_start_letters]
  split <;> rfl

end Pattern

/-- The rule for a source form finds its match in the words with the letters of that form. -/
theorem match?_irregularRule :
    (irregularRule s t source target).match? word =
      if folded word = folded (s :: source) then
        some ([], if Text.lower s = Text.lower t then word.take 1 else []) else none := by
  rw [irregularRule]
  split
  · have ways := Pattern.outcomes_captured_letters s source word
    rw [Rule.match?, Pattern.find?_of_ways (fun c text => rfl) ways]
    split <;> rfl
  · have ways := Pattern.outcomes_start_letters (s :: source) word
    rw [Rule.match?, Pattern.find?_of_ways (fun c text => rfl) ways]
    split <;> rfl

/-- A rule that keeps a whole word applies to the words with the same letters. -/
theorem match?_keep_whole :
    (Rule.keep (.start ++ .ofChars letters)).match? word =
      if folded word = folded letters then some ([], word) else none := by
  have ways := Pattern.outcomes_capture_letters letters word
  rw [Rule.match?, Rule.keep, Pattern.find?_of_ways (fun c text => rfl) ways]
  split
  · next same => simp [Match.kept, List.take_of_length_le (length_eq_of_folded same).le]
  · rfl

end Inflection
