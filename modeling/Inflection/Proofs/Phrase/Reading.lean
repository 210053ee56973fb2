import Inflection.Proofs.Phrase.Spacing

/-! # Reading words back from a phrase

In the standard style, a phrase of words without blanks and commas is a sequence of parts with one space
between them: the words, each but the last with a comma if there are three or more of them, and the
conjunction before the last word. Its parts give the words back, also if some of the words are the same
as the conjunction.
-/

namespace Inflection.Phrase

open Text (isBlank)

/-- Whether a word has a character, and none of those that stand between words in the standard style. -/
structure IsPlain (word : List Char) : Prop where
  present : word ≠ []
  visible : ∀ c ∈ word, isBlank c = false
  noComma : ',' ∉ word

theorem isPlain_and : IsPlain "and".toList where
  present := List.cons_ne_nil _ _
  visible := List.forall_mem_cons.mpr ⟨rfl, List.forall_mem_cons.mpr
    ⟨rfl, List.forall_mem_singleton.mpr rfl⟩⟩
  noComma := by decide

/-- The parts of the phrase in the standard style for some words and a last one. -/
def parts (front : List (List Char)) (last : List Char) : List (List Char) :=
  match front with
  | [] => [last]
  | [first] => [first, "and".toList, last]
  | first :: second :: rest =>
    (first :: second :: rest).map (· ++ [',']) ++ ["and".toList, last]

/-- The words of a phrase in the standard style: the last of its parts and, without their commas, those
before the conjunction. -/
def wordsOf (phrase : List Char) : List (List Char) :=
  let parts := (phrase.splitOn ' ').filter (!·.isEmpty)
  parts.dropLast.dropLast.map (·.filter (· ≠ ',')) ++ parts.getLast?.toList

variable {word last text : List Char} {front words others list : List (List Char)}

section Parts

/-- What a part of a phrase is like: it does not begin with a comma and has no blanks. -/
private structure IsPart (part : List Char) : Prop where
  present : part ≠ []
  visible : ∀ c ∈ part, isBlank c = false
  noComma : part.head? ≠ some ','

private theorem IsPlain.isPart (plain : IsPlain word) : IsPart word :=
  ⟨plain.present, plain.visible, fun comma => plain.noComma (List.mem_of_head? comma)⟩

private theorem IsPlain.isPart_concat (plain : IsPlain word) : IsPart (word ++ [',']) := by
  refine ⟨by simp, List.forall_mem_append.mpr ⟨plain.visible, List.forall_mem_singleton.mpr rfl⟩, ?_⟩
  rw [List.head?_append_of_ne_nil _ plain.present]
  exact plain.isPart.noComma

private theorem isPart_of_mem_parts (plain : ∀ word ∈ front ++ [last], IsPlain word) :
    ∀ part ∈ parts front last, IsPart part := by
  obtain ⟨plainFront, plainLast⟩ := List.forall_mem_append.mp plain
  have ending : ∀ part ∈ ["and".toList, last], IsPart part :=
    List.forall_mem_cons.mpr ⟨isPlain_and.isPart,
      List.forall_mem_singleton.mpr (plainLast last List.mem_cons_self).isPart⟩
  match front with
  | [] => exact fun part member => ending part (List.mem_cons_of_mem _ member)
  | [first] => exact List.forall_mem_cons.mpr ⟨(plainFront first List.mem_cons_self).isPart, ending⟩
  | first :: second :: rest =>
    refine List.forall_mem_append.mpr ⟨List.forall_mem_map.mpr fun word member => ?_, ending⟩
    exact (plainFront word member).isPart_concat

/-- Whether neither a blank nor a comma stands after a blank in a text. -/
private def IsSpaced (text : List Char) : Prop :=
  text.IsChain fun a b => isBlank a = true → isBlank b = false ∧ b ≠ ','

private theorem IsSpaced.collapse_eq (spaced : IsSpaced text) : collapse text = text :=
  collapse_eq_self_iff.mpr <| spaced.imp fun _ _ follows ⟨first, second⟩ =>
    Bool.false_ne_true ((follows first).1.symm.trans second)

private theorem IsSpaced.tighten_eq (spaced : IsSpaced text) : tighten text = text :=
  tighten_eq_self <| spaced.imp fun _ _ follows ⟨first, comma⟩ => (follows first).2 comma

private theorem isSpaced_of_visible (visible : ∀ c ∈ text, isBlank c = false) : IsSpaced text := by
  induction text with
  | nil => exact .nil
  | cons c text ih =>
    obtain ⟨first, others⟩ := List.forall_mem_cons.mp visible
    exact (ih others).cons fun _ _ blank => absurd blank (ne_true_of_eq_false first)

private theorem isSpaced_intercalate (proper : ∀ part ∈ list, IsPart part) :
    IsSpaced ([' '].intercalate list) := by
  induction list with
  | nil => exact .nil
  | cons part list ih =>
    obtain ⟨first, others⟩ := List.forall_mem_cons.mp proper
    have spaced := isSpaced_of_visible first.visible
    cases list with
    | nil => rwa [List.intercalate_singleton]
    | cons next list =>
      have following : IsPart next := others next List.mem_cons_self
      have head : ([' '].intercalate (next :: list)).head? = next.head? := by
        cases list with
        | nil => rw [List.intercalate_singleton]
        | cons later list =>
          rw [List.intercalate_cons_cons, List.append_assoc,
            List.head?_append_of_ne_nil _ following.present]
      rw [List.intercalate_cons_cons, List.append_assoc]
      refine spaced.append ((ih others).cons fun d begins _ => ?_) fun c ends d _ blank => ?_
      · rw [Option.mem_def, head] at begins
        exact ⟨following.visible d (List.mem_of_head? begins),
          fun comma => following.noComma (comma ▸ begins)⟩
      · exact absurd blank (ne_true_of_eq_false (first.visible c (List.mem_of_getLast? ends)))

end Parts

section Raw

private theorem collapse_append_pair {b b' : Char} (first : isBlank b = true)
    (second : isBlank b' = true) (before after : List Char) :
    collapse (before ++ b :: b' :: after) = collapse (before ++ b :: after) := by
  suffices ∀ afterBlank, collapseFrom afterBlank (before ++ b :: b' :: after) =
      collapseFrom afterBlank (before ++ b :: after) from this false
  induction before with
  | nil => intro afterBlank; cases afterBlank <;> simp [collapseFrom, first, second]
  | cons c before ih =>
    intro afterBlank
    rw [List.cons_append, List.cons_append, collapseFrom, collapseFrom, ih, ih]

private theorem intercalate_commas (present : front ≠ []) :
    ", ".toList.intercalate front ++ [','] = [' '].intercalate (front.map (· ++ [','])) := by
  induction front with
  | nil => exact absurd rfl present
  | cons word front ih =>
    cases front with
    | nil => rw [List.intercalate_singleton, List.map_cons, List.map_nil, List.intercalate_singleton]
    | cons next front =>
      have ended : [' '].intercalate ((word :: next :: front).map (· ++ [','])) =
          word ++ [','] ++ [' '] ++ [' '].intercalate ((next :: front).map (· ++ [','])) :=
        List.intercalate_cons_cons
      rw [ended, ← ih (List.cons_ne_nil next front), List.intercalate_cons_cons]
      simp

private theorem intercalate_append (present : list ≠ []) (present' : words ≠ []) :
    [' '].intercalate (list ++ words) = [' '].intercalate list ++ ' ' :: [' '].intercalate words := by
  induction list with
  | nil => exact absurd rfl present
  | cons part list ih =>
    rw [List.cons_append, List.intercalate_cons_of_ne_nil (by simp [present'])]
    cases list with
    | nil => simp
    | cons next list =>
      rw [ih (List.cons_ne_nil next list), List.intercalate_cons_cons, List.append_assoc,
        List.append_assoc, List.append_assoc]

/-- A long phrase has a space too many before it is cleaned up, which stands before the conjunction. -/
private theorem raw_of_long (long : 2 ≤ front.length) :
    raw {} (front ++ [last]) = [' '].intercalate (front.map (· ++ [','])) ++
      ' ' :: ' ' :: [' '].intercalate ["and".toList, last] := by
  have present : front ≠ [] := List.ne_nil_of_length_pos (by omega)
  rw [raw_concat {} long, Option.getD_none, ← intercalate_commas present]
  simp

end Raw

/-- A phrase of plain words in the standard style is its parts with a space between them. -/
theorem join_eq_intercalate (plain : ∀ word ∈ front ++ [last], IsPlain word) :
    join {} (front ++ [last]) = [' '].intercalate (parts front last) := by
  have spaced := isSpaced_intercalate (isPart_of_mem_parts plain)
  match front with
  | [] =>
    have whole : [' '].intercalate (parts [] last) = last := List.intercalate_singleton
    rw [whole] at spaced ⊢
    rw [List.nil_append, join_singleton, spaced.collapse_eq]
  | [first] =>
    rw [join_of_length_le (by simp), ← spaced.collapse_eq]
    rfl
  | first :: second :: rest =>
    rw [join_of_lt_length (by simp), raw_of_long (by simp), collapse_append_pair rfl rfl,
      ← intercalate_append (by simp) (by simp)]
    exact (congrArg tighten spaced.collapse_eq).trans spaced.tighten_eq

private theorem IsPlain.filter_eq (plain : IsPlain word) : word.filter (· ≠ ',') = word :=
  List.filter_eq_self.mpr fun c member => by
    rw [decide_eq_true_iff]
    rintro rfl
    exact plain.noComma member

private theorem wordsOf_parts (plain : ∀ word ∈ front, IsPlain word) :
    (parts front last).dropLast.dropLast.map (·.filter (· ≠ ',')) ++
      (parts front last).getLast?.toList = front ++ [last] := by
  match front with
  | [] => rfl
  | [first] =>
    have same := (plain first List.mem_cons_self).filter_eq
    exact congrArg (· :: [last]) same
  | first :: second :: rest =>
    have same : ((first :: second :: rest).map (· ++ [','])).map (·.filter (· ≠ ',')) =
        first :: second :: rest := by
      rw [List.map_map]
      refine (List.map_congr_left fun word member => ?_).trans (List.map_id _)
      rw [Function.comp_apply, List.filter_append, (plain word member).filter_eq]
      exact List.append_nil word
    rw [parts, List.append_cons, List.dropLast_concat, List.dropLast_concat, same, List.getLast?_concat,
      Option.toList_some]

/-- The words of a phrase of plain words are these words. -/
theorem wordsOf_join (plain : ∀ word ∈ words, IsPlain word) : wordsOf (join {} words) = words := by
  obtain rfl | ⟨front, last, rfl⟩ := List.eq_nil_or_concat' words
  · rfl
  · have proper := isPart_of_mem_parts plain
    have read : ([' '].intercalate (parts front last)).splitOn ' ' = parts front last := by
      refine List.splitOn_intercalate ' ' (fun part member blank => ?_) ?_
      · exact absurd ((proper part member).visible ' ' blank) (by decide)
      · unfold parts; split <;> simp
    rw [wordsOf, join_eq_intercalate plain, read, List.filter_eq_self.mpr]
    · exact wordsOf_parts fun word member => plain word (List.mem_append_left _ member)
    · exact fun part member => by simpa using (proper part member).present

/-- Two phrases of plain words in the standard style are the same only if they have the same words in the
same order. -/
theorem join_eq_join_iff (plain : ∀ word ∈ words, IsPlain word)
    (plain' : ∀ word ∈ others, IsPlain word) : join {} words = join {} others ↔ words = others := by
  constructor
  · intro same
    rw [← wordsOf_join plain, same, wordsOf_join plain']
  · rintro rfl
    rfl

theorem join_eq_join_iff_and :
    (∀ word ∈ List.replicate 2 "and".toList, IsPlain word) ∧
      (∀ word ∈ List.replicate 3 "and".toList, IsPlain word) ∧
      join {} (List.replicate 2 "and".toList) ≠ join {} (List.replicate 3 "and".toList) :=
  have plain (n : Nat) : ∀ word ∈ List.replicate n "and".toList, IsPlain word :=
    fun _ member => List.eq_of_mem_replicate member ▸ isPlain_and
  ⟨plain 2, plain 3, (join_eq_join_iff (plain 2) (plain 3)).not.mpr (by decide)⟩

end Inflection.Phrase
