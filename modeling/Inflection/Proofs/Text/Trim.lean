import Inflection.Text.Blank
import Mathlib.Data.List.DropRight

/-! # Trimmed texts

A text is trimmed to the part that neither begins nor ends with a character of the class and that has
only such characters around it. The end of a text is cut in the same way, and so are the blanks that
end it.
-/

namespace Inflection.Text

variable {p : Char → Bool} {text middle after : List Char}

/-- What it takes for a part of a text to be what trimming leaves. -/
structure IsTrimmed (p : Char → Bool) (text middle : List Char) : Prop where
  around : ∃ before after, text = before ++ (middle ++ after) ∧
    (∀ c ∈ before, p c = true) ∧ ∀ c ∈ after, p c = true
  first : ∀ c, middle.head? = some c → p c = false
  last : ∀ c, middle.getLast? = some c → p c = false

private theorem dropWhile_eq_self (first : ∀ c, text.head? = some c → p c = false) :
    text.dropWhile p = text := by
  cases text with
  | nil => rfl
  | cons c text => exact List.dropWhile_cons_of_neg (by simp [first c rfl])

private theorem head?_dropWhile {c : Char} (head : (text.dropWhile p).head? = some c) : p c = false := by
  have plain := List.head?_dropWhile_not p text
  rwa [head] at plain

/-- Characters of the class that follow a text are cut off with those that end it. -/
theorem dropEndWhile_append_of_all (all : ∀ c ∈ after, p c = true) :
    dropEndWhile p (text ++ after) = dropEndWhile p text := by
  rw [dropEndWhile, List.reverse_append, List.dropWhile_append_of_pos (by simpa using all),
    dropEndWhile]

private theorem takeEndWhile_append_of_all (all : ∀ c ∈ after, p c = true) :
    takeEndWhile p (text ++ after) = takeEndWhile p text ++ after := by
  rw [takeEndWhile, List.reverse_append, List.takeWhile_append_of_pos (by simpa using all),
    List.reverse_append, List.reverse_reverse, takeEndWhile]

/-- Nothing is dropped from a text that ends in no character of the class. -/
theorem dropEndWhile_eq_self (last : ∀ c, text.getLast? = some c → p c = false) :
    dropEndWhile p text = text := by
  rw [dropEndWhile, dropWhile_eq_self (by simpa using last), List.reverse_reverse]

/-- A text that does not end with a character of the class is cut out of every text in which only such
characters follow it. -/
theorem dropEndWhile_append (all : ∀ c ∈ after, p c = true)
    (last : ∀ c, text.getLast? = some c → p c = false) : dropEndWhile p (text ++ after) = text := by
  rw [dropEndWhile_append_of_all all, dropEndWhile_eq_self last]

private theorem takeEndWhile_eq_nil (last : ∀ c, text.getLast? = some c → p c = false) :
    takeEndWhile p text = [] := by
  have whole := dropEndWhile_append_takeEndWhile p text
  rw [dropEndWhile_eq_self last] at whole
  exact List.append_right_eq_self.mp whole

/-- What is left of a text does not end in a character of the class. -/
theorem getLast?_dropEndWhile {c : Char} (last : (dropEndWhile p text).getLast? = some c) :
    p c = false := by
  rw [dropEndWhile, List.getLast?_reverse] at last
  exact head?_dropWhile last

theorem of_mem_takeEndWhile {c : Char} (member : c ∈ takeEndWhile p text) : p c = true :=
  List.mem_rtakeWhile_imp member

theorem dropEndWhile_eq_nil_iff : dropEndWhile p text = [] ↔ ∀ c ∈ text, p c = true :=
  List.rdropWhile_eq_nil_iff

/-- Nothing is left of a text if all its characters are of the class, and only then. -/
theorem trim_eq_nil_iff : trim p text = [] ↔ ∀ c ∈ text, p c = true := by
  rw [trim, dropEndWhile_eq_nil_iff]
  constructor
  · intro all
    refine List.dropWhile_eq_nil_iff.mp ?_
    cases left : text.dropWhile p with
    | nil => rfl
    | cons c rest =>
      have plain : p c = false := head?_dropWhile (by rw [left]; rfl)
      exact absurd (all c (by simp [left])) (by simp [plain])
  · exact fun all c member => all c (List.dropWhile_subset p member)

/-- Trimming leaves the one part of a text that it should. -/
theorem isTrimmed_iff : IsTrimmed p text middle ↔ middle = trim p text := by
  constructor
  · rintro ⟨⟨before, after, rfl, allBefore, allAfter⟩, first, last⟩
    rw [trim, List.dropWhile_append_of_pos allBefore]
    cases middle with
    | nil => rw [List.nil_append, List.dropWhile_eq_nil_iff.mpr allAfter, dropEndWhile_nil]
    | cons c middle =>
      rw [List.cons_append, List.dropWhile_cons_of_neg (by simp [first c rfl]),
        ← List.cons_append, dropEndWhile_append allAfter last]
  · rintro rfl
    refine ⟨⟨text.takeWhile p, takeEndWhile p (text.dropWhile p), ?_, ?_, ?_⟩, ?_, ?_⟩
    · rw [trim, dropEndWhile_append_takeEndWhile, List.takeWhile_append_dropWhile]
    · exact fun c => List.mem_takeWhile_imp
    · exact fun c => of_mem_takeEndWhile
    · intro c (head : ((text.dropWhile p).rdropWhile p).head? = some c)
      obtain ⟨cut, whole⟩ := List.rdropWhile_prefix p (l := text.dropWhile p)
      have first : (text.dropWhile p).head? = some c := by
        rw [← whole, List.head?_append, head, Option.some_or]
      exact head?_dropWhile first
    · exact fun c => getLast?_dropEndWhile

section Blank

variable {c : Char}

/-- A text that ends in a character other than a blank has no blanks to cut off. -/
theorem stem_eq_self (last : text.getLast? = some c) (plain : isBlank c = false) :
    stem text = text :=
  dropEndWhile_eq_self fun d other => by
    obtain rfl := Option.some.inj (last.symm.trans other)
    exact plain

theorem tail_eq_nil (last : text.getLast? = some c) (plain : isBlank c = false) : tail text = [] :=
  takeEndWhile_eq_nil fun d other => by
    obtain rfl := Option.some.inj (last.symm.trans other)
    exact plain

theorem isBlankText_eq_false (last : text.getLast? = some c) (plain : isBlank c = false) :
    isBlankText text = false := by
  rw [isBlankText, List.all_eq_false]
  exact ⟨c, List.mem_of_getLast? last, by simp [plain]⟩

/-- Blanks after a text are part of its tail. -/
theorem stem_append (all : ∀ c ∈ after, isBlank c = true) : stem (text ++ after) = stem text :=
  dropEndWhile_append_of_all all

/-- More blanks at the end of a text are more blanks in its tail. -/
theorem tail_append (all : ∀ c ∈ after, isBlank c = true) : tail (text ++ after) = tail text ++ after :=
  takeEndWhile_append_of_all all

theorem isBlankText_append (all : ∀ c ∈ after, isBlank c = true) :
    isBlankText (text ++ after) = isBlankText text := by
  rw [isBlankText, isBlankText, List.all_append, List.all_eq_true.mpr all, Bool.and_true]

theorem isBlank_of_mem_tail (member : c ∈ tail text) : isBlank c = true :=
  of_mem_takeEndWhile member

theorem isBlank_of_getLast?_stem (last : (stem text).getLast? = some c) : isBlank c = false :=
  getLast?_dropEndWhile last

end Blank

end Inflection.Text
