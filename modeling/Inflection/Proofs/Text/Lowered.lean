import Inflection.Proofs.Ending.LetterSet
import Inflection.Proofs.Text.Trim

/-! # Lower-case texts of ASCII

In ASCII a text is lower-cased character by character. The lower-case form of a character is the same
letter, part of a word if the character is, and a blank only if the character is that blank, so the blanks
that end a text are those that end its lower-case text.
-/

namespace Inflection.Text

/-- The lower-case text of a text. -/
def lowered (text : List Char) : List Char :=
  text.flatMap lower

variable {c : Char} {text more : List Char}

private theorem toLower_facts (ascii : isAscii c = true) :
    isAscii (toLower c) = true ∧ toLower (toLower c) = toLower c ∧ lower c = [toLower c] ∧
      laterCapitalStart? c = none ∧
      (toLower c = c ∨ (toLower c).isLower = true ∧ fold c = toLower c) :=
  forall_isAscii (P := fun c => isAscii (toLower c) = true ∧ toLower (toLower c) = toLower c ∧
    lower c = [toLower c] ∧ laterCapitalStart? c = none ∧
    (toLower c = c ∨ (toLower c).isLower = true ∧ fold c = toLower c)) (by decide +kernel) ascii

theorem isAscii_toLower (ascii : isAscii c = true) : isAscii (toLower c) = true :=
  (toLower_facts ascii).1

theorem toLower_toLower (ascii : isAscii c = true) : toLower (toLower c) = toLower c :=
  (toLower_facts ascii).2.1

private theorem toLower_of_isLower (letter : c.isLower = true) : toLower c = c := by
  have ascii := isAscii_of_isLower letter
  rcases (toLower_facts ascii).2.2.2.2 with own | ⟨-, folded⟩
  · exact own
  · rw [← folded, fold_of_isLower letter]

theorem laterCapitalStart?_of_isAscii (ascii : isAscii c = true) : laterCapitalStart? c = none :=
  (toLower_facts ascii).2.2.2.1

/-- A letter of ASCII and its lower-case form stand for the same case variants. -/
theorem fold_toLower (ascii : isAscii c = true) : fold (toLower c) = fold c := by
  rcases (toLower_facts ascii).2.2.2.2 with own | ⟨letter, folded⟩
  · rw [own]
  · rw [folded, fold_of_isLower letter]

theorem isWordChar_toLower (ascii : isAscii c = true) : isWordChar (toLower c) = isWordChar c := by
  rcases (toLower_facts ascii).2.2.2.2 with own | ⟨letter, folded⟩
  · rw [own]
  · rw [isWordChar_of_fold (by rwa [fold_of_isLower letter]), isWordChar_of_fold (by rwa [folded])]

/-- A character other than a letter is its own lower-case form, and it is not that of any other. -/
theorem toLower_eq_iff {d : Char} (ascii : isAscii c = true) (other : isWordChar d = false) :
    toLower c = d ↔ c = d := by
  rcases (toLower_facts ascii).2.2.2.2 with own | ⟨letter, folded⟩
  · rw [own]
  · have inside := isWordChar_of_fold (c := c) (by rwa [folded])
    refine iff_of_false ?_ ?_
    · rintro rfl
      rw [isWordChar_toLower ascii, inside] at other
      cases other
    · rintro rfl
      rw [inside] at other
      cases other

private theorem isBlank_toLower (ascii : isAscii c = true) : isBlank (toLower c) = isBlank c := by
  rcases (toLower_facts ascii).2.2.2.2 with own | ⟨letter, folded⟩
  · rw [own]
  · have inside := isWordChar_of_fold (c := c) (by rwa [folded])
    rw [isBlank_of_isWordChar inside,
      isBlank_of_isWordChar ((isWordChar_toLower ascii).trans inside)]

/-- A text in ASCII is put in lower case character by character. -/
theorem lowered_eq_map (ascii : ∀ c ∈ text, isAscii c = true) : lowered text = text.map toLower := by
  rw [lowered, List.map_eq_flatMap]
  exact List.flatMap_congr fun c member => (toLower_facts (ascii c member)).2.2.1

theorem map_toLower_of_isLower (lower : ∀ c ∈ text, c.isLower = true) : text.map toLower = text :=
  (List.map_congr_left fun c member => toLower_of_isLower (lower c member)).trans (List.map_id text)

theorem lowered_append : lowered (text ++ more) = lowered text ++ lowered more :=
  List.flatMap_append

private theorem forall_mem_lowered {P : Char → Prop} (ascii : ∀ c ∈ text, isAscii c = true)
    (holds : ∀ c ∈ text, P (toLower c)) : ∀ c ∈ lowered text, P c := by
  rw [lowered_eq_map ascii]
  exact List.forall_mem_map.mpr holds

section Stem

theorem isAscii_of_mem_stem (ascii : ∀ c ∈ text, isAscii c = true) :
    ∀ c ∈ stem text, isAscii c = true := by
  intro c member
  refine ascii c ?_
  rw [← stem_append_tail text]
  exact List.mem_append_left _ member

private theorem isAscii_of_mem_tail (ascii : ∀ c ∈ text, isAscii c = true) :
    ∀ c ∈ tail text, isAscii c = true := by
  intro c member
  refine ascii c ?_
  rw [← stem_append_tail text]
  exact List.mem_append_right _ member

theorem isBlankText_lowered (ascii : ∀ c ∈ text, isAscii c = true) :
    isBlankText (lowered text) = isBlankText text := by
  rw [isBlankText, isBlankText, lowered_eq_map ascii, List.all_map, Bool.eq_iff_iff, List.all_eq_true,
    List.all_eq_true]
  exact forall₂_congr fun c member => by rw [Function.comp_apply, isBlank_toLower (ascii c member)]

private theorem getLast?_lowered (ascii : ∀ c ∈ text, isAscii c = true) :
    (lowered text).getLast? = text.getLast?.map toLower := by
  rw [lowered_eq_map ascii, List.getLast?_map]

/-- The stem of a lower-case text is the lower-case stem, and so is the tail. -/
theorem stem_lowered (ascii : ∀ c ∈ text, isAscii c = true) : stem (lowered text) = lowered (stem text) := by
  have stemAscii := isAscii_of_mem_stem ascii
  have tailAscii := isAscii_of_mem_tail ascii
  have blanks : ∀ c ∈ lowered (tail text), isBlank c = true :=
    forall_mem_lowered tailAscii fun c member => by
      rw [isBlank_toLower (tailAscii c member)]
      exact isBlank_of_mem_tail member
  have last : ∀ c, (lowered (stem text)).getLast? = some c → isBlank c = false := by
    intro c final
    rw [getLast?_lowered stemAscii] at final
    obtain ⟨d, stemLast, rfl⟩ := Option.map_eq_some_iff.mp final
    rw [isBlank_toLower (stemAscii d (List.mem_of_getLast? stemLast))]
    exact isBlank_of_getLast?_stem stemLast
  conv_lhs => rw [← stem_append_tail text, lowered_append]
  exact dropEndWhile_append blanks last

/-- The blanks that end a text are not changed by putting the text in lower case. -/
theorem tail_lowered (ascii : ∀ c ∈ text, isAscii c = true) : tail (lowered text) = lowered (tail text) := by
  have whole := stem_append_tail (lowered text)
  rw [stem_lowered ascii] at whole
  refine List.append_cancel_left (whole.trans ?_)
  rw [← lowered_append, stem_append_tail]

end Stem

end Inflection.Text
