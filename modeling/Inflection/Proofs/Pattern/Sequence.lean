import Inflection.Pattern.Choice
import Inflection.Pattern.Match
import Mathlib.Data.List.Basic

/-! # Patterns one after the other

A pattern after another one matches in the ways of the first, each followed by the ways of the second where
the first left off. How a row of patterns is bracketed makes no difference to its matches.
-/

namespace Inflection.Pattern

variable {before : Option Char} {text : List Char}
  {first second third : Option Char → List Char → List Outcome}

/-- Two patterns in a row match in every way of the first, followed by every way of the second. -/
theorem outcomes_append (p q : Pattern) :
    (p ++ q).outcomes before text = (p.outcomes before text).flatMap fun a =>
      (q.outcomes (a.taken.getLast?.or before) a.rest).map fun b =>
        ⟨a.taken ++ b.taken, b.rest, b.kept.or a.kept⟩ := rfl

theorem outcomes_ofChars_cons (c : Char) (letters : List Char) :
    (ofChars (c :: letters)).outcomes before text = (char c ++ ofChars letters).outcomes before text := by
  cases letters with
  | nil => simp [ofChars, outcomes_append, outcomes, here]
  | cons d letters => rfl

/-- The ways to match one after the other. -/
def followed (first second : Option Char → List Char → List Outcome) (before : Option Char)
    (text : List Char) : List Outcome :=
  (first before text).flatMap fun a =>
    (second (a.taken.getLast?.or before) a.rest).map fun b =>
      ⟨a.taken ++ b.taken, b.rest, b.kept.or a.kept⟩

theorem outcomes_append_eq (p q : Pattern) : (p ++ q).outcomes = followed p.outcomes q.outcomes := rfl

/-- Matching one after the other does not depend on how it is grouped. -/
theorem followed_assoc :
    followed (followed first second) third = followed first (followed second third) := by
  funext before text
  simp only [followed, List.flatMap_assoc, List.map_flatMap, List.flatMap_map, List.map_map]
  refine List.flatMap_congr fun a _ => List.flatMap_congr fun b _ => ?_
  rw [List.getLast?_append, Option.or_assoc]
  refine List.map_congr_left fun c _ => ?_
  simp [Option.or_assoc]

@[simp]
theorem followed_empty : followed first empty.outcomes = first := by
  funext before text
  simp [followed, outcomes, here]

@[simp]
theorem empty_followed : followed empty.outcomes first = first := by
  funext before text
  simp [followed, outcomes, here]

theorem outcomes_inSequence_nil : (inSequence []).outcomes = empty.outcomes := rfl

theorem outcomes_inSequence_cons (item : Pattern) (items : List Pattern) :
    (inSequence (item :: items)).outcomes = followed item.outcomes (inSequence items).outcomes := by
  rw [inSequence, List.foldr_cons, ← inSequence]
  split
  · next nothing => rw [nothing, followed_empty]
  · rfl

theorem outcomes_inSequence_append (items more : List Pattern) :
    (inSequence (items ++ more)).outcomes =
      followed (inSequence items).outcomes (inSequence more).outcomes := by
  induction items with
  | nil => exact empty_followed.symm
  | cons item items ih =>
    rw [List.cons_append, outcomes_inSequence_cons, outcomes_inSequence_cons, ih, followed_assoc]

/-- A row of characters matches like the text of these characters. -/
theorem outcomes_inSequence_chars (letters : List Char) :
    (inSequence (letters.map char)).outcomes = (ofChars letters).outcomes := by
  induction letters with
  | nil => rfl
  | cons c letters ih =>
    funext before text
    rw [List.map_cons, outcomes_inSequence_cons, ih, outcomes_ofChars_cons]
    rfl

end Inflection.Pattern
