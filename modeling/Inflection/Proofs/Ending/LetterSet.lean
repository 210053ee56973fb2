import Inflection.Pattern.Basic
import Inflection.Proofs.Text.Case
import Inflection.Text.Blank
import Inflection.Text.WordChar

/-! # Sets of letters

Rules for endings tell characters apart by the letter from a to z that they are up to case, and the
others by whether they may be part of a word. That makes 28 kinds of characters, and a set of kinds is
a number with one bit for each of them.
-/

namespace Inflection

namespace Text

/-- The kind of a character: the place of its letter in the alphabet, 26 for any other character that
may be part of a word, and 27 for the rest. -/
def letterCode (c : Char) : Nat :=
  if (fold c).isLower then (fold c).toNat - 'a'.toNat else if isWordChar c then 26 else 27

private theorem isLower_toNat {c : Char} (letter : c.isLower = true) :
    97 ≤ c.toNat ∧ c.toNat ≤ 122 := by
  obtain ⟨least, most⟩ := Bool.and_eq_true_iff.mp letter
  exact ⟨of_decide_eq_true least, of_decide_eq_true most⟩

private theorem letterCode_lt (c : Char) : letterCode c < 28 := by
  rw [letterCode]
  split
  · next letter =>
    have bounds := isLower_toNat letter
    have first : 'a'.toNat = 97 := rfl
    omega
  · split <;> omega

private theorem isLower_facts {c : Char} (letter : c.isLower = true) :
    fold c = c ∧ isWordChar c = true ∧ isBlank c = false ∧ isSupplementary c = false :=
  forall_isAscii (P := fun c => c.isLower = true → fold c = c ∧ isWordChar c = true ∧
    isBlank c = false ∧ isSupplementary c = false) (by decide +kernel) (isAscii_of_isLower letter)
    letter

theorem fold_of_isLower {c : Char} (letter : c.isLower = true) : fold c = c :=
  (isLower_facts letter).1

theorem isBlank_of_isLower {c : Char} (letter : c.isLower = true) : isBlank c = false :=
  (isLower_facts letter).2.2.1

private theorem isSupplementary_of_isLower {c : Char} (letter : c.isLower = true) :
    isSupplementary c = false :=
  (isLower_facts letter).2.2.2

private theorem letterCode_of_isLower {c : Char} (letter : c.isLower = true) :
    letterCode c = c.toNat - 'a'.toNat := by
  rw [letterCode, fold_of_isLower letter, if_pos letter]

/-- Every spelling of a letter from a to z may be part of a word. -/
theorem isWordChar_of_fold {c : Char} (letter : (fold c).isLower = true) : isWordChar c = true :=
  forall_fold_isAscii (P := fun c => (fold c).isLower = true → isWordChar c = true)
    (by decide +kernel) (by decide +kernel) (isAscii_of_isLower letter) letter

/-- A letter from a to z is the same letter as the characters of its kind. -/
theorem sameLetter_iff_letterCode {c d : Char} (letter : c.isLower = true) :
    sameLetter c d = true ↔ letterCode d = c.toNat - 'a'.toNat := by
  have first : 'a'.toNat = 97 := rfl
  have bounds := isLower_toNat letter
  rw [sameLetter, beq_iff_eq, fold_of_isLower letter, letterCode]
  constructor
  · intro same
    rw [← same, if_pos letter]
  · intro code
    split at code
    · next other =>
      have others := isLower_toNat other
      rw [← Char.ofNat_toNat c, ← Char.ofNat_toNat (fold d)]
      congr 1
      omega
    · split at code <;> omega

/-- Two lower-case letters of ASCII of the same kind are equal. -/
theorem eq_of_letterCode {c d : Char} (letter : c.isLower = true) (other : d.isLower = true)
    (same : letterCode c = letterCode d) : c = d := by
  have folded := (sameLetter_iff_letterCode letter (d := d)).mpr
    (same.symm.trans (letterCode_of_isLower letter))
  rwa [sameLetter, beq_iff_eq, fold_of_isLower letter, fold_of_isLower other] at folded

/-- The last kind is that of the characters that are not part of a word. -/
theorem letterCode_eq_27_iff {c : Char} : letterCode c = 27 ↔ isWordChar c = false := by
  rw [letterCode]
  split
  · next letter =>
    have bounds := isLower_toNat letter
    have first : 'a'.toNat = 97 := rfl
    simp only [isWordChar_of_fold letter, Bool.true_eq_false, iff_false]
    omega
  · split <;> simp_all

private theorem blanks_apart : ∀ blank ∈ blanks.ranges, ∀ range ∈ alphanumerics.ranges,
    blank.2 < range.1 ∨ range.2 < blank.1 := by
  decide +kernel

/-- No blank is part of a word. -/
theorem isWordChar_of_isBlank {c : Char} (blank : isBlank c = true) : isWordChar c = false := by
  have plain : c ≠ '_' := by
    rintro rfl
    exact absurd blank (by decide)
  rw [isBlank, CharSet.contains_iff] at blank
  obtain ⟨blanks, member, lower, upper⟩ := blank
  rw [isWordChar, Bool.or_eq_false_iff]
  refine ⟨by simpa using plain, ?_⟩
  rw [← Bool.not_eq_true, CharSet.contains_iff]
  rintro ⟨range, rangeMember, least, greatest⟩
  rcases blanks_apart blanks member range rangeMember with before | after
  · omega
  · omega

/-- No blank is part of a word. -/
theorem isBlank_of_isWordChar {c : Char} (inside : isWordChar c = true) : isBlank c = false := by
  rw [← Bool.not_eq_true]
  intro blank
  rw [isWordChar_of_isBlank blank] at inside
  cases inside

end Text

/-- A set of characters that has either all or none of each kind. -/
structure LetterSet where
  bits : Nat
deriving DecidableEq, Repr

namespace LetterSet

open Text

instance : Membership Char LetterSet :=
  ⟨fun set c => set.bits.testBit (letterCode c) = true⟩

instance (c : Char) (set : LetterSet) : Decidable (c ∈ set) :=
  inferInstanceAs (Decidable (set.bits.testBit (letterCode c) = true))

theorem mem_def {c : Char} {set : LetterSet} :
    c ∈ set ↔ set.bits.testBit (letterCode c) = true := Iff.rfl

def all : LetterSet :=
  ⟨1 <<< 28 - 1⟩

def none : LetterSet :=
  ⟨0⟩

/-- The letters from a to z in any case. -/
def letters : LetterSet :=
  ⟨1 <<< 26 - 1⟩

def insideWords : LetterSet :=
  ⟨1 <<< 27 - 1⟩

def outsideWords : LetterSet :=
  ⟨1 <<< 27⟩

/-- A letter from a to z in any case. -/
def letter (c : Char) : LetterSet :=
  ⟨1 <<< (c.toNat - 'a'.toNat)⟩

def kind (c : Char) : LetterSet :=
  ⟨1 <<< letterCode c⟩

def union (first second : LetterSet) : LetterSet :=
  ⟨first.bits ||| second.bits⟩

def meet (first second : LetterSet) : LetterSet :=
  ⟨first.bits &&& second.bits⟩

/-- The characters of the first set that are not in the second. -/
def without (first second : LetterSet) : LetterSet :=
  ⟨first.bits ^^^ (first.bits &&& second.bits)⟩

def isEmpty (set : LetterSet) : Bool :=
  Nat.beq set.bits 0

variable {c d : Char} {first second : LetterSet}

@[simp]
theorem mem_union : c ∈ first.union second ↔ c ∈ first ∨ c ∈ second := by
  simp [mem_def, union, Nat.testBit_or]

@[simp]
theorem mem_meet : c ∈ first.meet second ↔ c ∈ first ∧ c ∈ second := by
  simp [mem_def, meet, Nat.testBit_and]

@[simp]
theorem mem_without : c ∈ first.without second ↔ c ∈ first ∧ c ∉ second := by
  simp only [mem_def, without, Nat.testBit_xor, Nat.testBit_and]
  cases first.bits.testBit (letterCode c) <;> simp

@[simp]
theorem mem_all (c : Char) : c ∈ all := by
  rw [mem_def, all, Nat.one_shiftLeft, Nat.testBit_two_pow_sub_one]
  exact decide_eq_true (letterCode_lt c)

@[simp]
theorem not_mem_none (c : Char) : c ∉ none := by
  simp [mem_def, none]

/-- The letters from a to z are in the set of all letters. -/
theorem mem_letters_of_isLower (lower : c.isLower = true) : c ∈ letters := by
  rw [mem_def, letters, Nat.one_shiftLeft, Nat.testBit_two_pow_sub_one, letterCode_of_isLower lower]
  have bounds := isLower_toNat lower
  have first : 'a'.toNat = 97 := rfl
  exact decide_eq_true (by omega)

@[simp]
theorem mem_outsideWords : c ∈ outsideWords ↔ isWordChar c = false := by
  rw [mem_def, outsideWords, Nat.one_shiftLeft, Nat.testBit_two_pow, decide_eq_true_eq, eq_comm,
    letterCode_eq_27_iff]

theorem isWordChar_of_mem_insideWords (member : c ∈ insideWords) : isWordChar c = true := by
  rw [mem_def, insideWords, Nat.one_shiftLeft, Nat.testBit_two_pow_sub_one,
    decide_eq_true_eq] at member
  rw [← Bool.not_eq_false, ← letterCode_eq_27_iff]
  omega

/-- The set of a letter has all its case variants. -/
theorem mem_letter (lower : c.isLower = true) : d ∈ letter c ↔ sameLetter c d = true := by
  rw [mem_def, letter, Nat.one_shiftLeft, Nat.testBit_two_pow, decide_eq_true_eq,
    sameLetter_iff_letterCode lower, eq_comm]

theorem mem_letter_iff_fold (lower : c.isLower = true) : d ∈ letter c ↔ fold d = c := by
  rw [mem_letter lower, sameLetter, beq_iff_eq, fold_of_isLower lower, eq_comm]

theorem mem_letter_iff_eq (lower : c.isLower = true) (other : d.isLower = true) :
    c ∈ letter d ↔ c = d := by
  rw [mem_letter_iff_fold other, fold_of_isLower lower]

theorem mem_kind (c : Char) : c ∈ kind c := by
  rw [mem_def, kind, Nat.one_shiftLeft, Nat.testBit_two_pow_self]

theorem eq_of_mem_kind (lower : c.isLower = true) (other : d.isLower = true) (member : d ∈ kind c) :
    d = c := by
  rw [mem_def, kind, Nat.one_shiftLeft, Nat.testBit_two_pow, decide_eq_true_eq] at member
  exact (eq_of_letterCode lower other member).symm

theorem not_mem_of_isEmpty {set : LetterSet} (empty : set.isEmpty = true) : c ∉ set := by
  rw [mem_def, Nat.eq_of_beq_eq_true empty, Nat.zero_testBit]
  simp

/-- Two sets without a common character cannot both have it. -/
theorem not_mem_of_meet (apart : (first.meet second).isEmpty = true) (member : c ∈ first) :
    c ∉ second :=
  fun other => not_mem_of_isEmpty apart (mem_meet.mpr ⟨member, other⟩)

/-- The characters that a class of letters includes. -/
def ofItems (items : List ClassItem) : LetterSet :=
  items.foldr (fun item set =>
    match item with
    | .one c => (letter c).union set
    | .range .. => set) ⟨0⟩

/-- Whether a class has only letters from a to z as its members. -/
def areLetters (items : List ClassItem) : Bool :=
  items.all fun item =>
    match item with
    | .one c => c.isLower
    | .range .. => false

/-- The set of a class has the characters that the class includes. -/
theorem mem_ofItems {items : List ClassItem} (lower : areLetters items = true) (c : Char) :
    c ∈ ofItems items ↔ classIncludes items c = true := by
  have any : c ∈ ofItems items ↔ items.any (·.includes c) = true := by
    induction items with
    | nil => exact ⟨fun member => absurd member (not_mem_of_isEmpty rfl), by simp⟩
    | cons item items ih =>
      cases item with
      | range => simp [areLetters] at lower
      | one member =>
        simp only [areLetters, List.all_cons, Bool.and_eq_true] at lower
        have included : ClassItem.includes (.one member) c = sameLetter member c := by
          simp [ClassItem.includes, isSupplementary_of_isLower lower.1]
        rw [List.any_cons, Bool.or_eq_true, included, ← mem_letter lower.1, ← ih lower.2]
        exact mem_union
  rw [any]
  unfold classIncludes
  split
  · next member =>
    simp only [areLetters, List.all_cons, Bool.and_eq_true] at lower
    simp [ClassItem.includes, isSupplementary_of_isLower lower.1]
  · rfl

/-- A character is in a class of lower-case letters if its letter is one of the members. -/
theorem mem_ofItems_one_iff {members : List Char} (lower : ∀ d ∈ members, d.isLower = true) :
    c ∈ ofItems (members.map .one) ↔ fold c ∈ members := by
  induction members with
  | nil => simp [ofItems, mem_def]
  | cons d members ih =>
    rw [List.forall_mem_cons] at lower
    rw [List.mem_cons, ← ih lower.2, ← mem_letter_iff_fold lower.1]
    exact mem_union

end LetterSet

end Inflection
