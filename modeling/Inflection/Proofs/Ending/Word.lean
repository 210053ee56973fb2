import Inflection.Proofs.Ending.Clause

/-! # Patterns that are words

A text is folded when each of its letters is replaced by the one that stands for all case variants of
it. A text ends in a pattern that spells a word when the folded text has the word as its ending, and it
matches one of several whole words when the folded text is one of them. A text of lower-case letters is
folded already.
-/

namespace Inflection

namespace Text

/-- The text with the letters that stand for all case variants of its own. -/
def folded (text : List Char) : List Char :=
  text.map fold

variable {text : List Char}

/-- A text of lower-case letters is folded already. -/
theorem folded_of_isLower (lower : ∀ c ∈ text, c.isLower = true) : folded text = text :=
  (List.map_congr_left fun c member => fold_of_isLower (lower c member)).trans (List.map_id text)

/-- The ending of a folded text is the folded ending of the text. -/
theorem suffix_folded_iff {letters : List Char} :
    letters <:+ folded text ↔ ∃ lead ending, text = lead ++ ending ∧ folded ending = letters := by
  constructor
  · rintro ⟨start, split⟩
    obtain ⟨lead, ending, rfl, -, rfl⟩ := List.map_eq_append_iff.mp split.symm
    exact ⟨lead, ending, rfl, rfl⟩
  · rintro ⟨lead, ending, rfl, rfl⟩
    exact ⟨folded lead, List.map_append.symm⟩

/-- A text that ends in a letter from a to z in any case has no blank at its end. -/
theorem exists_getLast?_of_suffix_folded {letter : Char} (lower : letter.isLower = true)
    (ends : [letter] <:+ folded text) : ∃ c, text.getLast? = some c ∧ isBlank c = false := by
  obtain ⟨lead, ending, rfl, spelt⟩ := suffix_folded_iff.mp ends
  obtain ⟨c, rfl, rfl⟩ := List.map_eq_singleton_iff.mp spelt
  exact ⟨c, List.getLast?_concat, isBlank_of_isWordChar (isWordChar_of_fold lower)⟩

/-- Whether the text is one of the words in any case. -/
def IsOneOf (words : List String) (text : List Char) : Prop :=
  ∃ s ∈ words, folded text = s.toList

/-- Whether the text ends in one of the words in any case. -/
def EndsInOneOf (words : List String) (text : List Char) : Prop :=
  ∃ s ∈ words, s.toList <:+ folded text

end Text

namespace Pattern

open Text (folded fold)

/-- Whether words or endings are listed, in letters from a to z. -/
def areSpelt (words : List String) : Bool :=
  !words.isEmpty && words.all fun s => s.toList.all Char.isLower

variable {p q : Pattern} {text letters : List Char}

theorem of_areSpelt {words : List String} (spelt : areSpelt words = true) :
    (∀ s ∈ words, ∀ c ∈ s.toList, c.isLower = true) ∧ words ≠ [] := by
  simpa [areSpelt, and_comm] using spelt

/-- A text ends in a pattern if its ending has one of the shapes of the pattern. -/
theorem endsIn_iff (shaped : p.hasShapes = true) :
    p.endsIn text = true ↔ ∃ shape ∈ p.shapes, ∃ lead ending, text = lead ++ ending ∧
      shape.place.admits lead.getLast? = true ∧ List.Forall₂ (· ∈ ·) ending shape.letters := by
  rw [endsIn_eq shaped, List.find?_isSome]
  constructor
  · rintro ⟨clause, member, fitting⟩
    obtain ⟨shape, shapeMember, rfl⟩ := List.mem_map.mp member
    exact ⟨shape, shapeMember, (Clause.fits_ofShape 0 []).mp fitting⟩
  · rintro ⟨shape, member, ending⟩
    exact ⟨_, List.mem_map_of_mem member, (Clause.fits_ofShape 0 []).mpr ending⟩

private theorem shapes_ofChars (letters : List Char) :
    (ofChars letters).shapes = [⟨.anywhere, letters.map LetterSet.letter, none⟩] := by
  induction letters with
  | nil => rfl
  | cons c letters ih =>
    cases letters with
    | nil => rfl
    | cons d letters => simp [ofChars, shapes, ih, Shape.append, Shape.one]

private theorem hasShapes_ofChars (lower : ∀ c ∈ letters, c.isLower = true) :
    (ofChars letters).hasShapes = true := by
  induction letters with
  | nil => rfl
  | cons c letters ih =>
    cases letters with
    | nil => exact lower c (by simp)
    | cons d letters =>
      rw [List.forall_mem_cons] at lower
      have rest := ih lower.2
      have shaped := shapes_ofChars (d :: letters)
      simp only [ofChars, hasShapes, isBoundary, Bool.false_eq_true, if_false] at rest shaped ⊢
      simp [rest, shaped, lower.1, shapes, Shape.composes, Shape.one]

private theorem hasShapes_word {s : String} (lower : ∀ c ∈ s.toList, c.isLower = true) :
    (word s).hasShapes = true :=
  hasShapes_ofChars lower

private theorem shapes_anyOf {patterns : List Pattern} (some : patterns ≠ []) :
    (anyOf patterns).shapes = patterns.flatMap shapes := by
  induction patterns with
  | nil => contradiction
  | cons p patterns ih =>
    cases patterns with
    | nil => simp [anyOf]
    | cons q patterns => simp [anyOf, shapes, ih]

private theorem hasShapes_anyOf {patterns : List Pattern} (shaped : ∀ p ∈ patterns, p.hasShapes = true) :
    (anyOf patterns).hasShapes = true := by
  induction patterns with
  | nil => rfl
  | cons p patterns ih =>
    rw [List.forall_mem_cons] at shaped
    cases patterns with
    | nil => exact shaped.1
    | cons q patterns => simp [anyOf, hasShapes, shaped.1, ih shaped.2]

private theorem shapes_anyWord {words : List String} (some : words ≠ []) :
    (anyWord words).shapes =
      words.map fun word => ⟨.anywhere, word.toList.map LetterSet.letter, none⟩ := by
  rw [anyWord, shapes_anyOf (by simpa using some), List.flatMap_map, List.map_eq_flatMap]
  simp only [word, shapes_ofChars]

/-- Characters are in the sets of lower-case letters if these are their letters. -/
theorem forall₂_letter_iff (others : ∀ c ∈ letters, c.isLower = true) :
    List.Forall₂ (· ∈ ·) text (letters.map LetterSet.letter) ↔ folded text = letters := by
  rw [List.forall₂_map_right_iff, folded]
  induction letters generalizing text with
  | nil => simp
  | cons d letters ih =>
    rw [List.forall_mem_cons] at others
    cases text with
    | nil => simp
    | cons c text =>
      rw [List.forall₂_cons, ih others.2, LetterSet.mem_letter_iff_fold others.1, List.map_cons,
        List.cons.injEq]

/-- A text ends in the pattern of a word if the folded text has the word as its ending. -/
theorem endsIn_word_iff_folded {s : String} (others : ∀ c ∈ s.toList, c.isLower = true) :
    (word s).endsIn text = true ↔ s.toList <:+ folded text := by
  rw [word, endsIn_iff (hasShapes_ofChars others), shapes_ofChars, Text.suffix_folded_iff]
  simp only [List.mem_singleton, exists_eq_left, Place.admits, true_and, forall₂_letter_iff others]

theorem hasShapes_anyWord {words : List String}
    (lower : ∀ s ∈ words, ∀ c ∈ s.toList, c.isLower = true) : (anyWord words).hasShapes = true :=
  hasShapes_anyOf fun p member => by
    obtain ⟨s, wordMember, rfl⟩ := List.mem_map.mp member
    exact hasShapes_ofChars (lower s wordMember)

/-- A text ends in a choice of patterns if it ends in one of them. -/
theorem endsIn_anyOf_iff {patterns : List Pattern} (shaped : ∀ p ∈ patterns, p.hasShapes = true)
    (some : patterns ≠ []) :
    (anyOf patterns).endsIn text = true ↔ ∃ p ∈ patterns, p.endsIn text = true := by
  rw [endsIn_iff (hasShapes_anyOf shaped), shapes_anyOf some]
  constructor
  · rintro ⟨shape, member, ending⟩
    obtain ⟨p, patternMember, shapeMember⟩ := List.mem_flatMap.mp member
    exact ⟨p, patternMember, (endsIn_iff (shaped p patternMember)).mpr ⟨shape, shapeMember, ending⟩⟩
  · rintro ⟨p, patternMember, ends⟩
    obtain ⟨shape, shapeMember, ending⟩ := (endsIn_iff (shaped p patternMember)).mp ends
    exact ⟨shape, List.mem_flatMap.mpr ⟨p, patternMember, shapeMember⟩, ending⟩

/-- A text ends in a choice of words if the folded text has one of them as its ending. -/
theorem endsIn_anyWord_iff_endsInOneOf {words : List String}
    (others : ∀ s ∈ words, ∀ c ∈ s.toList, c.isLower = true) (some : words ≠ []) :
    (anyWord words).endsIn text = true ↔ Text.EndsInOneOf words text := by
  have shaped : ∀ p ∈ words.map word, p.hasShapes = true := by
    intro p member
    obtain ⟨s, wordMember, rfl⟩ := List.mem_map.mp member
    exact hasShapes_word (others s wordMember)
  rw [anyWord, endsIn_anyOf_iff shaped (by simpa using some)]
  constructor
  · rintro ⟨p, member, ends⟩
    obtain ⟨s, wordMember, rfl⟩ := List.mem_map.mp member
    exact ⟨s, wordMember, (endsIn_word_iff_folded (others s wordMember)).mp ends⟩
  · rintro ⟨s, member, ending⟩
    exact ⟨word s, List.mem_map_of_mem member, (endsIn_word_iff_folded (others s member)).mpr ending⟩

/-- A text of lower-case letters ends in a choice of words if one of them is its ending. -/
theorem endsIn_anyWord_iff {words : List String}
    (others : ∀ s ∈ words, ∀ c ∈ s.toList, c.isLower = true) (some : words ≠ [])
    (lower : ∀ c ∈ text, c.isLower = true) :
    (anyWord words).endsIn text = true ↔ ∃ s ∈ words, s.toList <:+ text := by
  rw [endsIn_anyWord_iff_endsInOneOf others some, Text.EndsInOneOf, Text.folded_of_isLower lower]

theorem hasShapes_letterNotOf_word {letters s : String}
    (members : ∀ c ∈ letters.toList, c.isLower = true) (others : ∀ c ∈ s.toList, c.isLower = true) :
    (letterNotOf letters ++ word s).hasShapes = true := by
  have classed : LetterSet.areLetters (letters.toList.map .one) = true := by
    simpa [LetterSet.areLetters] using members
  change (_ && _) = true
  simp [hasShapes_ofChars others, isBoundary, hasShapes, letterNotOf, classed, shapes, word,
    shapes_ofChars, Shape.composes, Shape.one]

/-- A text of lower-case letters ends in a word after a letter that is not among others if the word
is its ending and such a letter comes before it. -/
theorem endsIn_letterNotOf_word_iff (letters s : String)
    (members : ∀ c ∈ letters.toList, c.isLower = true) (others : ∀ c ∈ s.toList, c.isLower = true)
    (lower : ∀ c ∈ text, c.isLower = true) :
    (letterNotOf letters ++ word s).endsIn text = true ↔
      ∃ c, c ∉ letters.toList ∧ c :: s.toList <:+ text := by
  rw [endsIn_iff (hasShapes_letterNotOf_word members others)]
  change (∃ shape ∈ (letterNotOf letters).shapes.flatMap _, _) ↔ _
  simp only [letterNotOf, shapes, if_true, List.flatMap_singleton, word, shapes_ofChars,
    List.map_singleton, List.mem_singleton, exists_eq_left, Shape.append, Shape.one, Place.admits,
    true_and, List.singleton_append]
  constructor
  · rintro ⟨lead, ending, rfl, letterMembers⟩
    obtain ⟨c, rest, outside, spelt, rfl⟩ := List.forall₂_cons_right_iff.mp letterMembers
    have restLower : ∀ d ∈ rest, d.isLower = true := fun d member => lower d (by simp [member])
    rw [forall₂_letter_iff others, Text.folded_of_isLower restLower] at spelt
    rw [LetterSet.mem_without, LetterSet.mem_ofItems_one_iff members,
      Text.fold_of_isLower (lower c (by simp))] at outside
    exact ⟨c, outside.2, lead, by rw [spelt]⟩
  · rintro ⟨c, outside, lead, rfl⟩
    refine ⟨lead, c :: s.toList, rfl,
      .cons ?_ ((forall₂_letter_iff others).mpr (Text.folded_of_isLower others))⟩
    rw [LetterSet.mem_without, LetterSet.mem_ofItems_one_iff members,
      Text.fold_of_isLower (lower c (by simp))]
    exact ⟨LetterSet.mem_all c, outside⟩

theorem hasShapes_start_anyWord {words : List String}
    (lower : ∀ s ∈ words, ∀ c ∈ s.toList, c.isLower = true) (some : words ≠ []) :
    (start ++ anyWord words).hasShapes = true := by
  change (_ && _) = true
  simp [hasShapes_anyWord lower, shapes_anyWord some, isBoundary, hasShapes, shapes, Shape.composes]

/-- A text matches one of several words if the folded text is one of them. -/
theorem endsIn_start_anyWord_iff_isOneOf {words : List String}
    (others : ∀ s ∈ words, ∀ c ∈ s.toList, c.isLower = true) (some : words ≠ []) :
    (start ++ anyWord words).endsIn text = true ↔ Text.IsOneOf words text := by
  rw [endsIn_iff (hasShapes_start_anyWord others some)]
  change (∃ shape ∈ start.shapes.flatMap _, _) ↔ _
  simp only [shapes, shapes_anyWord some, List.flatMap_singleton, List.map_map, List.mem_map]
  constructor
  · rintro ⟨_, ⟨s, member, rfl⟩, lead, ending, rfl, admitted, members⟩
    have empty : lead = [] := by
      simpa [Shape.append, Place.admits] using admitted
    rw [empty, List.nil_append]
    exact ⟨s, member, (forall₂_letter_iff (others s member)).mp members⟩
  · rintro ⟨s, member, spelt⟩
    exact ⟨_, ⟨s, member, rfl⟩, [], text, rfl, rfl, (forall₂_letter_iff (others s member)).mpr spelt⟩

/-- A text of lower-case letters matches one of several words if it is one of them. -/
theorem endsIn_start_anyWord_iff {words : List String}
    (others : ∀ s ∈ words, ∀ c ∈ s.toList, c.isLower = true) (some : words ≠ [])
    (lower : ∀ c ∈ text, c.isLower = true) :
    (start ++ anyWord words).endsIn text = true ↔ ∃ s ∈ words, text = s.toList := by
  rw [endsIn_start_anyWord_iff_isOneOf others some, Text.IsOneOf, Text.folded_of_isLower lower]

end Pattern

end Inflection
