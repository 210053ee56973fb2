import Inflection.Proofs.Ending.Clause

/-! # What is known of a word

A word is known by its last letters, each up to the set that it belongs to. What is known of a word
tells what is known of the edited word, and it may tell that an edit changes the word or that it leaves
the word as it is, or that a second edit takes the first one back.
-/

namespace Inflection

/-- What is known of a word, from its end on. -/
inductive Known where
  /-- The word has no letters. -/
  | ended
  /-- Nothing is known of the word. -/
  | unknown
  /-- The word has a last letter of the set, and something is known of the letters before it. -/
  | letter (set : LetterSet) (before : Known)
deriving DecidableEq, Repr

namespace Known

/-- Whether a word over the alphabet, read from its end, is as known. -/
def Covers (alphabet : LetterSet) : Known → List Char → Prop
  | ended, word => word = []
  | unknown, word => ∀ c ∈ word, c ∈ alphabet
  | letter _ _, [] => False
  | letter set before, c :: word => c ∈ set ∧ before.Covers alphabet word

/-- Looks at the last letter of a word, if there is one. -/
def look (alphabet : LetterSet) (known : Known) (none : Bool) (last : LetterSet → Known → Bool) :
    Bool :=
  match known with
  | ended => none
  | unknown => none && last alphabet unknown
  | letter set before => last set before

variable {alphabet : LetterSet} {known : Known} {word : List Char}

/-- What a look at the last letter checks is true of the word that is looked at. -/
theorem of_look {none : Bool} {last : LetterSet → Known → Bool}
    (covers : known.Covers alphabet word) (checked : known.look alphabet none last = true) :
    word = [] ∧ none = true ∨ ∃ c rest set before, word = c :: rest ∧ c ∈ set ∧
      before.Covers alphabet rest ∧ last set before = true := by
  cases known with
  | ended => exact .inl ⟨covers, checked⟩
  | unknown =>
    simp only [look, Bool.and_eq_true] at checked
    cases word with
    | nil => exact .inl ⟨rfl, checked.1⟩
    | cons c rest =>
      have members := List.forall_mem_cons.mp covers
      exact .inr ⟨c, rest, alphabet, unknown, rfl, members.1, members.2, checked.2⟩
  | letter set before =>
    cases word with
    | nil => exact absurd covers id
    | cons c rest => exact .inr ⟨c, rest, set, before, rfl, covers.1, covers.2, checked⟩

def drop : Nat → Known → Known
  | 0, known => known
  | count + 1, letter _ before => before.drop count
  | _ + 1, known => known

/-- What is known of a word that goes on with a text. -/
def add (known : Known) (text : List Char) : Known :=
  text.foldl (fun known c => letter (.kind c) known) known

def edited (known : Known) (edit : Edit) : Known :=
  (known.drop edit.cut).add edit.added

/-- What is known of a word without its last letters holds of what is left of it. -/
theorem covers_drop (covers : known.Covers alphabet word) (count : Nat) :
    (known.drop count).Covers alphabet (word.drop count) := by
  induction count generalizing known word with
  | zero => exact covers
  | succ count ih =>
    cases known with
    | ended =>
      obtain rfl : word = [] := covers
      rfl
    | unknown => exact fun c member => covers c (List.mem_of_mem_drop member)
    | letter set before =>
      cases word with
      | nil => exact absurd covers id
      | cons c word => exact ih covers.2

theorem covers_add (covers : known.Covers alphabet word) (text : List Char) :
    (known.add text).Covers alphabet (text.reverse ++ word) := by
  induction text generalizing known word with
  | nil => exact covers
  | cons c text ih =>
    rw [List.reverse_cons, List.append_assoc]
    exact ih ⟨LetterSet.mem_kind c, covers⟩

/-- What is known of an edited word holds of what the edit makes of the word. -/
theorem covers_edited (covers : known.Covers alphabet word.reverse) (edit : Edit) :
    (known.edited edit).Covers alphabet (edit.apply word).reverse := by
  rw [Edit.reverse_apply]
  exact covers_add (covers_drop covers edit.cut) edit.added

def hasLetters : Nat → Known → Bool
  | 0, _ => true
  | count + 1, letter _ before => before.hasLetters count
  | _ + 1, _ => false

theorem le_length_of_hasLetters {count : Nat} (covers : known.Covers alphabet word)
    (long : known.hasLetters count = true) : count ≤ word.length := by
  induction count generalizing known word with
  | zero => exact Nat.zero_le _
  | succ count ih =>
    cases known with
    | ended | unknown => cases long
    | letter set before =>
      cases word with
      | nil => exact absurd covers id
      | cons c word => exact Nat.succ_le_succ (ih covers.2 long)

/-- Whether a word, read from its end, is known to have another letter than the text at some place. -/
def differs : List Char → Known → Bool
  | c :: text, letter set before => (set.meet (.kind c)).isEmpty || differs text before
  | _, _ => false

private theorem ne_of_differs {text rest : List Char} (covers : known.Covers alphabet word)
    (different : known.differs text = true) : text ++ rest ≠ word := by
  induction text generalizing known word with
  | nil => cases different
  | cons c text ih =>
    cases known with
    | ended | unknown => cases different
    | letter set before =>
      cases word with
      | nil => exact absurd covers id
      | cons d word =>
        rw [List.cons_append, Ne, List.cons.injEq]
        rintro ⟨rfl, same⟩
        simp only [differs, Bool.or_eq_true] at different
        rcases different with apart | different
        · exact LetterSet.not_mem_of_meet apart covers.1 (LetterSet.mem_kind c)
        · exact ih covers.2 different same

/-- Whether an edit is known to change a word: it changes its length, or one of its last letters. -/
def changedBy (known : Known) (edit : Edit) : Bool :=
  known.differs edit.added.reverse ||
    edit.cut != edit.added.length && known.hasLetters edit.cut

/-- An edit that is known to change a word does change it. -/
theorem apply_ne_of_changedBy {edit : Edit} (covers : known.Covers alphabet word.reverse)
    (changed : known.changedBy edit = true) : edit.apply word ≠ word := by
  simp only [changedBy, Bool.or_eq_true, Bool.and_eq_true, bne_iff_ne] at changed
  intro same
  have reversed := congrArg List.reverse same
  rw [Edit.reverse_apply] at reversed
  rcases changed with different | ⟨lengths, long⟩
  · exact ne_of_differs covers different reversed
  · have bound := le_length_of_hasLetters covers long
    have total := congrArg List.length reversed
    simp only [List.length_append, List.length_drop, List.length_reverse] at total bound
    omega

/-- Whether a word of lower-case letters, read from its end, is known to begin with the text. -/
def spells : List Char → Known → Bool
  | [], _ => true
  | c :: text, letter set before => c.isLower && set == .kind c && spells text before
  | _ :: _, _ => false

private theorem eq_take_of_spells {text : List Char} (covers : known.Covers alphabet word)
    (lower : ∀ c ∈ word, c.isLower = true) (spelt : known.spells text = true) :
    word.take text.length = text := by
  induction text generalizing known word with
  | nil => rfl
  | cons c text ih =>
    cases known with
    | ended | unknown => cases spelt
    | letter set before =>
      cases word with
      | nil => exact absurd covers id
      | cons d word =>
        simp only [spells, Bool.and_eq_true, beq_iff_eq] at spelt
        obtain ⟨⟨letter, rfl⟩, spelt⟩ := spelt
        rw [List.forall_mem_cons] at lower
        rw [List.length_cons, List.take_succ_cons, ih covers.2 lower.2 spelt,
          LetterSet.eq_of_mem_kind letter lower.1 covers.1]

/-- Whether an edit is known to leave a word of lower-case letters as it is. -/
def keptBy (known : Known) (edit : Edit) : Bool :=
  edit.cut == edit.added.length && known.spells edit.added.reverse

/-- An edit that is known to keep a word of lower-case letters does keep it. -/
theorem apply_eq_of_keptBy {edit : Edit} (covers : known.Covers alphabet word.reverse)
    (lower : ∀ c ∈ word, c.isLower = true) (kept : known.keptBy edit = true) :
    edit.apply word = word := by
  simp only [keptBy, Bool.and_eq_true, beq_iff_eq] at kept
  have start := eq_take_of_spells covers (by simpa using lower) kept.2
  have whole := List.take_append_drop edit.added.reverse.length word.reverse
  rw [start, List.length_reverse] at whole
  rw [← List.reverse_inj, Edit.reverse_apply, kept.1, whole]

/-- Whether a word is known to have a last letter in the set. -/
def endsIn (set : LetterSet) : Known → Bool
  | letter last _ => (last.without set).isEmpty
  | _ => false

theorem exists_of_endsIn {set : LetterSet} (covers : known.Covers alphabet word.reverse)
    (within : known.endsIn set = true) : ∃ start c, word = start ++ [c] ∧ c ∈ set := by
  cases known with
  | ended | unknown => cases within
  | letter last before =>
    rcases word.eq_nil_or_concat with rfl | ⟨start, c, rfl⟩
    · exact absurd covers id
    · rw [List.concat_eq_append, List.reverse_append] at covers
      refine ⟨start, c, List.concat_eq_append, ?_⟩
      by_contra outside
      exact LetterSet.not_mem_of_isEmpty within (LetterSet.mem_without.mpr ⟨covers.1, outside⟩)

/-- A word that is known to end in a character of a word has no blank at its end. -/
theorem exists_getLast?_of_endsIn (covers : known.Covers alphabet word.reverse)
    (within : known.endsIn .insideWords = true) :
    ∃ c, word.getLast? = some c ∧ Text.isBlank c = false := by
  obtain ⟨start, c, rfl, member⟩ := exists_of_endsIn covers within
  exact ⟨c, List.getLast?_concat,
    Text.isBlank_of_isWordChar (LetterSet.isWordChar_of_mem_insideWords member)⟩

/-- What has to be known of a word and of what a first edit makes of it: that ends in a letter, and a
second edit makes the word of it again unless the word is missed. -/
def isReturned (missed : Bool) (first second : Edit) (known after : Known) : Bool :=
  after.endsIn .insideWords &&
    if missed then known.changedBy (first.andThen second) else known.keptBy (first.andThen second)

/-- A word that is known to be returned comes back unless it is missed, and no blank ends what it comes
back from. -/
theorem of_isReturned {missed : Bool} {first second : Edit} {after : Known}
    (covers : known.Covers alphabet word.reverse) (lower : ∀ c ∈ word, c.isLower = true)
    (coversAfter : after.Covers alphabet (first.apply word).reverse)
    (checked : isReturned missed first second known after = true) :
    (∃ c, (first.apply word).getLast? = some c ∧ Text.isBlank c = false) ∧
      (second.apply (first.apply word) = word ↔ ¬missed = true) := by
  rw [isReturned, Bool.and_eq_true] at checked
  refine ⟨exists_getLast?_of_endsIn coversAfter checked.1, ?_⟩
  rw [← Edit.apply_andThen]
  cases missed with
  | true => exact iff_of_false (apply_ne_of_changedBy covers checked.2) (not_not_intro rfl)
  | false => exact iff_of_true (apply_eq_of_keptBy covers lower checked.2) Bool.false_ne_true

end Known

end Inflection
