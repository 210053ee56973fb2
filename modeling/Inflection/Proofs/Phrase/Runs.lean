import Inflection.Proofs.Phrase.Spacing
import Mathlib.Data.List.SplitBy

/-! # Runs of blanks in phrases

A text falls into runs, its longest stretches of blanks and its longest stretches without one. A phrase
is what is left of the runs of its words as they are put together: of every run of blanks the first one,
and in a phrase of three words or more not even that before a comma.
-/

namespace Inflection.Phrase

open Text (isBlank isBlankText)

/-- Whether two characters are both blanks or both none. -/
def alike (a b : Char) : Bool :=
  isBlank a == isBlank b

/-- The longest stretches of a text that have nothing but blanks or no blank at all, in order. -/
def runs (text : List Char) : List (List Char) :=
  text.splitBy alike

/-- What is left of runs: the first character of each run of blanks, and all others as they are. If it
is to be tight, nothing is left of a run of blanks that a comma follows. -/
def remains (tight : Bool) : List (List Char) → List Char
  | [] => []
  | run :: rest =>
    (if isBlankText run = false then run
      else if tight = true ∧ rest.flatten.head? = some ',' then []
      else run.take 1) ++ remains tight rest

/-- What the runs of a text are like, seen from its start: of a run of blanks it matters that no blank
follows it. -/
private inductive Alternate : List (List Char) → Prop where
  | nil : Alternate []
  | plain {c : Char} {more : List Char} {rest : List (List Char)}
      (all : ∀ d ∈ c :: more, isBlank d = false) (others : Alternate rest) :
      Alternate ((c :: more) :: rest)
  | blank {c : Char} {more : List Char} {rest : List (List Char)} (first : isBlank c = true)
      (all : ∀ d ∈ more, isBlank d = true)
      (next : ∀ d, rest.flatten.head? = some d → isBlank d = false) (others : Alternate rest) :
      Alternate ((c :: more) :: rest)

variable {text : List Char} {stretches : List (List Char)}

private theorem isBlank_eq_of_isChain {c : Char} {more : List Char}
    (uniform : (c :: more).IsChain fun a b => alike a b = true) :
    ∀ d ∈ more, isBlank d = isBlank c := by
  induction more generalizing c with
  | nil => exact List.forall_mem_nil _
  | cons d more ih =>
    obtain ⟨same, uniform⟩ := List.isChain_cons_cons.mp uniform
    have same : isBlank d = isBlank c := (beq_iff_eq.mp same).symm
    exact List.forall_mem_cons.mpr ⟨same, fun e member => (ih uniform e member).trans same⟩

private theorem alternate_of_splitBy (nonempty : [] ∉ stretches)
    (uniform : ∀ run ∈ stretches, run.IsChain fun a b => alike a b = true)
    (apart : stretches.IsChain fun run next =>
      ∃ present present', alike (run.getLast present) (next.head present') = false) :
    Alternate stretches := by
  induction stretches with
  | nil => exact .nil
  | cons run rest ih =>
    have others := ih (List.not_mem_of_not_mem_cons nonempty)
      (fun run member => uniform run (List.mem_cons_of_mem _ member)) apart.tail
    obtain ⟨c, more, rfl⟩ :=
      List.exists_cons_of_ne_nil (Ne.symm (List.ne_of_not_mem_cons nonempty))
    have same := isBlank_eq_of_isChain (uniform _ List.mem_cons_self)
    cases first : isBlank c with
    | false =>
      exact .plain (List.forall_mem_cons.mpr ⟨first, fun d member => (same d member).trans first⟩)
        others
    | true =>
      refine .blank first (fun d member => (same d member).trans first) (fun d next => ?_) others
      cases rest with
      | nil => cases next
      | cons following rest =>
        obtain ⟨_, present, differs⟩ := (List.isChain_cons_cons.mp apart).1
        obtain ⟨e, following, rfl⟩ := List.exists_cons_of_ne_nil present
        obtain rfl : e = d := Option.some.inj next
        have last : isBlank ((c :: more).getLast (by simp)) = true := by
          rcases List.mem_cons.mp (List.getLast_mem (List.cons_ne_nil c more)) with head | later
          · rw [head, first]
          · rw [same _ later, first]
        rwa [alike, List.head_cons, last, Bool.true_beq] at differs

private theorem alternate_runs (text : List Char) : Alternate (runs text) :=
  alternate_of_splitBy (List.nil_notMem_splitBy _ text) (fun _ => List.isChain_of_mem_splitBy)
    (List.isChain_getLast_head_splitBy _ text)

private theorem isBlankText_of_plain {c : Char} {more : List Char}
    (all : ∀ d ∈ c :: more, isBlank d = false) : isBlankText (c :: more) = false := by
  rw [isBlankText, List.all_cons, all c List.mem_cons_self, Bool.false_and]

private theorem isBlankText_of_blank {c : Char} {more : List Char} (first : isBlank c = true)
    (all : ∀ d ∈ more, isBlank d = true) : isBlankText (c :: more) = true := by
  rw [isBlankText, List.all_cons, first, List.all_eq_true.mpr all, Bool.and_self]

private theorem collapse_of_alternate (alternate : Alternate stretches) :
    collapse stretches.flatten = remains false stretches := by
  induction alternate with
  | nil => rfl
  | plain all _ ih =>
    rw [List.flatten_cons, collapse_append_of_plain all, ih, remains, if_pos (isBlankText_of_plain all)]
  | blank first all next _ ih =>
    rw [List.flatten_cons, collapse_cons_of_blank first all next, ih, remains,
      isBlankText_of_blank first all]
    rfl

private theorem tighten_collapse_of_alternate (alternate : Alternate stretches) :
    tighten (collapse stretches.flatten) = remains true stretches := by
  induction alternate with
  | nil => rfl
  | plain all _ ih =>
    rw [List.flatten_cons, collapse_append_of_plain all, tighten_append_of_plain all, ih, remains,
      if_pos (isBlankText_of_plain all)]
  | @blank c more rest first all next _ ih =>
    have next' : ∀ d, (collapse rest.flatten).head? = some d → isBlank d = false := by
      rwa [head?_collapse]
    rw [List.flatten_cons, collapse_cons_of_blank first all next, tighten_cons_of_blank first next',
      head?_collapse, ih, remains, isBlankText_of_blank first all]
    by_cases comma : rest.flatten.head? = some ',' <;> simp [comma]

/-- Shrinking runs of blanks leaves the first character of each. -/
theorem collapse_eq_remains (text : List Char) : collapse text = remains false (runs text) := by
  rw [← collapse_of_alternate (alternate_runs text), runs, List.flatten_splitBy]

/-- Tightening after that leaves nothing of those before a comma. -/
theorem tighten_collapse_eq_remains (text : List Char) :
    tighten (collapse text) = remains true (runs text) := by
  rw [← tighten_collapse_of_alternate (alternate_runs text), runs, List.flatten_splitBy]

/-- No two blanks of a phrase stand side by side. -/
theorem isCollapsed_join (style : Style) (words : List (List Char)) :
    IsCollapsed (join style words) := by
  rcases Nat.lt_or_ge 2 words.length with long | short
  · rw [join_of_lt_length long]
    exact isCollapsed_tighten (isCollapsed_collapse _)
  · rw [join_of_length_le short]
    exact isCollapsed_collapse _

/-- A phrase has all visible characters of its words as they were put together, in order. -/
theorem filter_join (style : Style) (words : List (List Char)) :
    (join style words).filter (!isBlank ·) = (raw style words).filter (!isBlank ·) := by
  rcases Nat.lt_or_ge 2 words.length with long | short
  · rw [join_of_lt_length long, filter_tighten, filter_collapse]
  · rw [join_of_length_le short, filter_collapse]

/-- Two words are put together with the conjunction between them, and more with the separator between all
but the last, and the final separator and the conjunction before that one. A phrase is what is left of the
runs of its words as they are put together, tight if there are three words or more. So no two blanks
stand side by side in it, all that is no blank is in it in the same order, and as the only word of
another phrase it stays as it is. -/
theorem join_changes_blanks_only (style : Style) (words : List (List Char)) :
    (∀ word, raw style [word] = word) ∧
      (∀ first second, raw style [first, second] =
        first ++ ' ' :: style.conjunctive ++ ' ' :: second) ∧
      (∀ front last, 2 ≤ front.length → raw style (front ++ [last]) =
        style.separator.intercalate front ++ style.finalSeparator.getD style.separator ++
          ' ' :: style.conjunctive ++ ' ' :: last) ∧
      join style words = remains (decide (2 < words.length)) (runs (raw style words)) ∧
      IsCollapsed (join style words) ∧
      (join style words).filter (!isBlank ·) = (raw style words).filter (!isBlank ·) ∧
      ∀ other : Style, join other [join style words] = join style words := by
  refine ⟨raw_singleton style, raw_pair style, fun front last long => raw_concat style long last, ?_,
    isCollapsed_join style words, filter_join style words, fun other => ?_⟩
  · rcases Nat.lt_or_ge 2 words.length with long | short
    · rw [join_of_lt_length long, decide_eq_true long, tighten_collapse_eq_remains]
    · rw [join_of_length_le short, decide_eq_false (Nat.not_lt.mpr short), collapse_eq_remains]
  · rw [join_singleton, collapse_eq_self_iff]
    exact isCollapsed_join style words

end Inflection.Phrase
