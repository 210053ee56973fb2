import Inflection.Phrase.Join
import Mathlib.Data.List.Destutter

/-! # The spacing of phrases

Shrinking the runs of blanks in a text leaves no two blanks side by side and removes nothing but blanks.
Removing the blanks before commas keeps that, and leaves no comma after a blank. A phrase of one or two
words is not tightened, and a comma stands after a blank in it if one does in the words as they are put
together.
-/

namespace Inflection.Phrase

open Text (isBlank)

/-- Whether no two blanks of a text stand side by side. -/
def IsCollapsed (text : List Char) : Prop :=
  text.IsChain fun a b => ¬(isBlank a = true ∧ isBlank b = true)

/-- Whether no comma of a text stands directly after a blank. -/
def IsTight (text : List Char) : Prop :=
  text.IsChain fun a b => ¬(isBlank a = true ∧ b = ',')

instance (text : List Char) : Decidable (IsTight text) :=
  inferInstanceAs (Decidable (text.IsChain _))

variable {text before more : List Char} {c : Char}

section Collapse

private theorem collapse_cons (c : Char) (text : List Char) :
    collapse (c :: text) = c :: collapseFrom (isBlank c) text := by
  rw [collapse, collapseFrom, Bool.false_and, if_neg Bool.false_ne_true]

theorem head?_collapse (text : List Char) : (collapse text).head? = text.head? := by
  cases text with
  | nil => rfl
  | cons c text => rw [collapse_cons, List.head?_cons, List.head?_cons]

/-- A text that does not begin with a blank shrinks in the same way after a blank. -/
theorem collapseFrom_eq_collapse (next : ∀ d, text.head? = some d → isBlank d = false)
    (afterBlank : Bool) : collapseFrom afterBlank text = collapse text := by
  cases text with
  | nil => rfl
  | cons d text =>
    rw [collapse_cons, collapseFrom, next d rfl, Bool.and_false, if_neg Bool.false_ne_true]

/-- Whatever is no blank stays as it is. -/
theorem collapse_append_of_plain (plain : ∀ d ∈ before, isBlank d = false) :
    collapse (before ++ text) = before ++ collapse text := by
  induction before with
  | nil => rfl
  | cons d before ih =>
    obtain ⟨first, others⟩ := List.forall_mem_cons.mp plain
    rw [List.cons_append, collapse_cons, first, List.cons_append, ← ih others]
    rfl

private theorem collapseFrom_append_of_blank (blank : ∀ d ∈ more, isBlank d = true) :
    collapseFrom true (more ++ text) = collapseFrom true text := by
  induction more with
  | nil => rfl
  | cons d more ih =>
    obtain ⟨first, others⟩ := List.forall_mem_cons.mp blank
    rw [List.cons_append, collapseFrom, first, Bool.and_self, if_pos rfl, ih others]

/-- A run of blanks shrinks to the first of them. -/
theorem collapse_cons_of_blank (first : isBlank c = true) (blank : ∀ d ∈ more, isBlank d = true)
    (next : ∀ d, text.head? = some d → isBlank d = false) :
    collapse (c :: more ++ text) = c :: collapse text := by
  rw [List.cons_append, collapse_cons, first, collapseFrom_append_of_blank blank,
    collapseFrom_eq_collapse next]

/-- Shrinking the runs of blanks is keeping what does not follow a blank as a blank. -/
theorem collapse_eq_destutter (text : List Char) :
    collapse text = text.destutter fun a b => ¬(isBlank a = true ∧ isBlank b = true) := by
  cases text with
  | nil => rfl
  | cons c text =>
    rw [collapse_cons, List.destutter_cons']
    induction text generalizing c with
    | nil => rfl
    | cons d text ih =>
      rw [collapseFrom, List.destutter'_cons]
      by_cases both : isBlank c = true ∧ isBlank d = true
      · rw [if_neg (not_not_intro both), ← ih, both.1, both.2, Bool.and_self, if_pos rfl]
      · rw [if_pos both, ih, if_neg (by rwa [Bool.and_eq_true])]

/-- Collapsing leaves no two blanks side by side. -/
theorem isCollapsed_collapse (text : List Char) : IsCollapsed (collapse text) := by
  rw [collapse_eq_destutter]
  exact List.isChain_destutter _ text

/-- Collapsing changes the texts in which two blanks stand side by side, and no others. -/
theorem collapse_eq_self_iff : collapse text = text ↔ IsCollapsed text := by
  rw [collapse_eq_destutter]
  exact List.destutter_eq_self_iff _ text

/-- Collapsing drops nothing but blanks. -/
theorem filter_collapse (text : List Char) :
    (collapse text).filter (!isBlank ·) = text.filter (!isBlank ·) := by
  suffices ∀ afterBlank,
      (collapseFrom afterBlank text).filter (!isBlank ·) = text.filter (!isBlank ·) from this false
  induction text with
  | nil => exact fun _ => rfl
  | cons c text ih =>
    intro afterBlank
    rw [collapseFrom]
    split
    · next dropped =>
      rw [ih, List.filter_cons_of_neg]
      simp [(Bool.and_eq_true_iff.mp dropped).2]
    · rw [List.filter_cons, List.filter_cons, ih]

/-- Whether a comma stands after a blank does not change with the length of the run before it. -/
theorem isTight_collapse_iff : IsTight (collapse text) ↔ IsTight text := by
  cases text with
  | nil => rfl
  | cons c text =>
    rw [collapse_cons]
    induction text generalizing c with
    | nil => rfl
    | cons d text ih =>
      rw [collapseFrom]
      split
      · next both =>
        obtain ⟨first, second⟩ := Bool.and_eq_true_iff.mp both
        have noComma : d ≠ ',' := by rintro rfl; exact absurd second (by decide)
        rw [← first, ih, IsTight, IsTight, List.isChain_cons, List.isChain_cons_cons,
          List.isChain_cons]
        simp only [first, second, noComma, and_false, not_false_eq_true, true_and]
      · rw [IsTight, IsTight, List.isChain_cons_cons, List.isChain_cons_cons]
        exact and_congr_right fun _ => ih d

end Collapse

section Tighten

private theorem tighten_cons (c : Char) (text : List Char) :
    tighten (c :: text) =
      if isBlank c && (tighten text).head? == some ',' then tighten text else c :: tighten text :=
  rfl

private theorem tighten_cons_of_plain (plain : isBlank c = false) (text : List Char) :
    tighten (c :: text) = c :: tighten text := by
  rw [tighten_cons, plain, Bool.false_and, if_neg Bool.false_ne_true]

private theorem head?_tighten (next : ∀ d, text.head? = some d → isBlank d = false) :
    (tighten text).head? = text.head? := by
  cases text with
  | nil => rfl
  | cons d text => rw [tighten_cons_of_plain (next d rfl), List.head?_cons, List.head?_cons]

theorem tighten_append_of_plain (plain : ∀ d ∈ before, isBlank d = false) :
    tighten (before ++ text) = before ++ tighten text := by
  induction before with
  | nil => rfl
  | cons d before ih =>
    obtain ⟨first, others⟩ := List.forall_mem_cons.mp plain
    rw [List.cons_append, tighten_cons_of_plain first, ih others, List.cons_append]

/-- A blank before anything but a blank stays unless this is a comma. -/
theorem tighten_cons_of_blank (first : isBlank c = true)
    (next : ∀ d, text.head? = some d → isBlank d = false) :
    tighten (c :: text) =
      if text.head? = some ',' then tighten text else c :: tighten text := by
  rw [tighten_cons, head?_tighten next, first, Bool.true_and]
  simp only [beq_iff_eq]

/-- Tightening leaves no comma directly after a blank. -/
theorem isTight_tighten (text : List Char) : IsTight (tighten text) := by
  induction text with
  | nil => exact .nil
  | cons c text ih =>
    rw [tighten_cons]
    split
    · exact ih
    · next kept =>
      refine List.IsChain.cons ih fun d head => ?_
      rintro ⟨blank, rfl⟩
      exact kept (by rw [blank, Option.mem_def.mp head, Bool.true_and, beq_self_eq_true])

/-- Tightening a tight text does nothing. -/
theorem tighten_eq_self (tight : IsTight text) : tighten text = text := by
  induction text with
  | nil => rfl
  | cons c text ih =>
    obtain ⟨first, others⟩ := List.isChain_cons.mp tight
    rw [tighten_cons, ih others, if_neg]
    intro dropped
    obtain ⟨blank, comma⟩ := Bool.and_eq_true_iff.mp dropped
    exact first ',' (beq_iff_eq.mp comma) ⟨blank, rfl⟩

/-- Where a blank before a comma is removed, it had no blank before it. -/
theorem isCollapsed_tighten (collapsed : IsCollapsed text) : IsCollapsed (tighten text) := by
  induction text with
  | nil => exact .nil
  | cons c text ih =>
    obtain ⟨first, others⟩ := List.isChain_cons.mp collapsed
    rw [tighten_cons]
    split
    · exact ih others
    · refine List.IsChain.cons (ih others) fun d head => ?_
      rintro ⟨blank, second⟩
      have next : ∀ e, text.head? = some e → isBlank e = false := fun e begins =>
        Bool.eq_false_iff.mpr fun third => first e begins ⟨blank, third⟩
      rw [Option.mem_def, head?_tighten next] at head
      exact first d head ⟨blank, second⟩

/-- Tightening drops nothing but blanks. -/
theorem filter_tighten (text : List Char) :
    (tighten text).filter (!isBlank ·) = text.filter (!isBlank ·) := by
  induction text with
  | nil => rfl
  | cons c text ih =>
    rw [tighten_cons]
    split
    · next dropped =>
      rw [ih, List.filter_cons_of_neg]
      simp [(Bool.and_eq_true_iff.mp dropped).1]
    · rw [List.filter_cons, List.filter_cons, ih]

end Tighten

section Join

variable {style : Style} {words : List (List Char)}

/-- One or two words are collapsed, but not tightened. -/
theorem join_of_length_le (short : words.length ≤ 2) : join style words = collapse (raw style words) :=
  if_pos short

theorem join_of_lt_length (long : 2 < words.length) :
    join style words = tighten (collapse (raw style words)) :=
  if_neg (Nat.not_le.mpr long)

/-- One word stands alone. -/
theorem raw_singleton (style : Style) (word : List Char) : raw style [word] = word := by
  rw [raw, if_pos (by simp), List.intercalate_singleton]

/-- Two words have the conjunction between them, with a space on both sides. -/
theorem raw_pair (style : Style) (first second : List Char) :
    raw style [first, second] = first ++ ' ' :: style.conjunctive ++ ' ' :: second := by
  rw [raw, if_pos (by simp), List.intercalate_cons_cons, List.intercalate_singleton, Style.link]
  simp

/-- Three words or more have the separator between all but the last, and before the last one the final
separator and the conjunction. -/
theorem raw_concat (style : Style) {front : List (List Char)} (long : 2 ≤ front.length)
    (last : List Char) : raw style (front ++ [last]) =
      style.separator.intercalate front ++ style.finalSeparator.getD style.separator ++
        ' ' :: style.conjunctive ++ ' ' :: last := by
  have beyond : ¬(front ++ [last]).length ≤ 2 := by
    rw [List.length_append, List.length_singleton]
    omega
  rw [raw, if_neg beyond, List.dropLast_concat, List.getLast?_concat, Option.getD_some, Style.link]
  simp

theorem join_singleton (style : Style) (word : List Char) : join style [word] = collapse word := by
  rw [join_of_length_le (by simp), raw_singleton]

/-- No comma stands after a blank in a phrase of three words or more. In a shorter one a comma does if
one does in the words as they are put together, with runs of blanks of any length. -/
theorem isTight_join_iff (style : Style) (words : List (List Char)) :
    IsTight (join style words) ↔ 2 < words.length ∨ IsTight (raw style words) := by
  rcases Nat.lt_or_ge 2 words.length with long | short
  · rw [join_of_lt_length long]
    exact iff_of_true (isTight_tighten _) (.inl long)
  · rw [join_of_length_le short, isTight_collapse_iff, or_iff_right (Nat.not_lt.mpr short)]

/-- A phrase of one word keeps the blank before its comma. -/
theorem join_one_not_tight :
    join {} ["one ,two".toList] = "one ,two".toList ∧ ¬IsTight (join {} ["one ,two".toList]) := by
  decide

end Join

end Inflection.Phrase
