import Inflection.Proofs.Irregular.Writing
import Mathlib.Data.List.Pairwise

/-! # Irregular pairs in both directions

A list of pairs makes one table that leads from the first forms to the second ones, and one that leads
back. If no two forms have the same letters and if the forms of a pair begin with one character or with
different letters, the tables are inverse to each other on the forms, and each is told on all words: it
gives the counterpart of a source form, and leaves target forms and all other words alone.
-/

namespace Inflection

open Text (folded)

variable {word : List Char} {direction : Direction} {pair other : List Char × List Char}
  {pairs : List (List Char × List Char)}

/-- What it takes for pairs to be read in both directions. -/
structure Reversible (pairs : List (List Char × List Char)) : Prop where
  present : ∀ pair ∈ pairs, pair.1 ≠ [] ∧ pair.2 ≠ []
  /-- No two forms in the list have the same letters. -/
  apart : (pairs.flatMap fun pair => [folded pair.1, folded pair.2]).Nodup
  /-- The forms of a pair begin with the same character or with different letters. -/
  initials : ∀ pair ∈ pairs, pair.1.head? = pair.2.head? ∨
    pair.1.head?.map Text.lower ≠ pair.2.head?.map Text.lower

/-- What a table for pairs does to every word. -/
structure Table.LeadsAlong (table : Table) (direction : Direction)
    (pairs : List (List Char × List Char)) : Prop where
  forms : ∀ pair ∈ pairs,
    table.apply (direction.orient pair).1 = (direction.orient pair).2 ∧
      table.apply (direction.orient pair).2 = (direction.orient pair).2
  source : ∀ pair ∈ pairs, ∀ word, folded word = folded (direction.orient pair).1 →
    table.apply word = counterpart (direction.orient pair).1 (direction.orient pair).2 word
  target : ∀ pair ∈ pairs, ∀ word, folded word = folded (direction.orient pair).2 →
    table.apply word = word
  other : ∀ word, (∀ pair ∈ pairs, folded word ≠ folded pair.1 ∧ folded word ≠ folded pair.2) →
    table.first? word = none ∧ table.apply word = word
  idempotent : ∀ word, table.apply (table.apply word) = table.apply word

private theorem Direction.mem_orient_iff {form : List Char} :
    form ∈ [(direction.orient pair).1, (direction.orient pair).2] ↔ form ∈ [pair.1, pair.2] := by
  cases direction with
  | forward => rfl
  | backward => simp [orient, or_comm]

namespace Reversible

variable {rules : List Rule}

/-- Forms with the same letters belong to the same pair. -/
theorem eq_of_folded (reversible : Reversible pairs) (direction : Direction) (member : pair ∈ pairs)
    (member' : other ∈ pairs) {form form' : List Char}
    (formMember : form ∈ [(direction.orient pair).1, (direction.orient pair).2])
    (formMember' : form' ∈ [(direction.orient other).1, (direction.orient other).2])
    (same : folded form = folded form') : pair = other := by
  rw [Direction.mem_orient_iff] at formMember formMember'
  obtain ⟨-, between⟩ := List.nodup_flatMap.mp reversible.apart
  have symm : Std.Symm (Function.onFun List.Disjoint fun pair : List Char × List Char =>
      [folded pair.1, folded pair.2]) := ⟨fun _ _ disjoint _ first second => disjoint second first⟩
  by_contra different
  exact between.forall member member' different (List.mem_map_of_mem (f := folded) formMember)
    (same ▸ List.mem_map_of_mem (f := folded) formMember')

private theorem folded_source_ne_folded_target (reversible : Reversible pairs) (member : pair ∈ pairs) :
    folded (direction.orient pair).1 ≠ folded (direction.orient pair).2 := by
  have own := (List.nodup_flatMap.mp reversible.apart).1 pair member
  have different : folded pair.1 ≠ folded pair.2 := by simpa using own
  cases direction with
  | forward => exact different
  | backward => exact different.symm

private theorem head?_eq_of_lower (reversible : Reversible pairs) (member : pair ∈ pairs)
    (shared : (direction.orient pair).1.head?.map Text.lower =
      (direction.orient pair).2.head?.map Text.lower) :
    (direction.orient pair).1.head? = (direction.orient pair).2.head? := by
  have initials := reversible.initials pair member
  cases direction with
  | forward => exact initials.resolve_right (absurd shared)
  | backward => exact (initials.resolve_right (absurd shared.symm)).symm

/-- A word with the letters of a source form becomes the counterpart of the form. -/
theorem apply_of_source (reversible : Reversible pairs) (name : List Char)
    (built : irregulars? direction pairs = some rules) (member : pair ∈ pairs)
    (same : folded word = folded (direction.orient pair).1) :
    (Table.mk name rules).apply word =
      counterpart (direction.orient pair).1 (direction.orient pair).2 word := by
  rw [Table.apply]
  cases first : (Table.mk name rules).first? word with
  | none => exact absurd same ((firstFrom?_eq_none_iff_of_irregulars built).mp first pair member).1
  | some application =>
    obtain ⟨other, otherMember, ⟨source, result⟩ | ⟨target, -⟩⟩ := result_of_firstFrom? built first
    · obtain rfl : pair = other := reversible.eq_of_folded direction member otherMember
        (by simp) (by simp) (same.symm.trans source)
      exact result
    · obtain rfl : pair = other := reversible.eq_of_folded direction member otherMember
        (by simp) (by simp) (same.symm.trans target)
      exact absurd (same.symm.trans target) (reversible.folded_source_ne_folded_target member)

/-- A word with the letters of a target form stays as it is. -/
theorem apply_of_target (reversible : Reversible pairs) (name : List Char)
    (built : irregulars? direction pairs = some rules) (member : pair ∈ pairs)
    (same : folded word = folded (direction.orient pair).2) :
    (Table.mk name rules).apply word = word := by
  rw [Table.apply]
  cases first : (Table.mk name rules).first? word with
  | none => rfl
  | some application =>
    obtain ⟨other, otherMember, ⟨source, -⟩ | ⟨-, result⟩⟩ := result_of_firstFrom? built first
    · obtain rfl : pair = other := reversible.eq_of_folded direction member otherMember
        (by simp) (by simp) (same.symm.trans source)
      exact absurd (source.symm.trans same) (reversible.folded_source_ne_folded_target member)
    · exact result

/-- The counterpart of a source form has the letters of the target form. -/
theorem folded_counterpart (reversible : Reversible pairs) (member : pair ∈ pairs)
    (same : folded word = folded (direction.orient pair).1) :
    folded (counterpart (direction.orient pair).1 (direction.orient pair).2 word) =
      folded (direction.orient pair).2 := by
  rw [counterpart]
  split
  · next shared =>
    have heads := reversible.head?_eq_of_lower member shared
    have first : folded (word.take 1) = folded ((direction.orient pair).2.take 1) := by
      rw [folded, List.map_take, ← folded, same, folded, ← List.map_take, List.take_one, heads,
        ← List.take_one, folded]
    rw [folded, List.map_append, ← folded, first, folded, ← List.map_append, List.take_append_drop]
    rfl
  · rfl

private theorem counterpart_source (reversible : Reversible pairs) (member : pair ∈ pairs) :
    counterpart (direction.orient pair).1 (direction.orient pair).2 (direction.orient pair).1 =
      (direction.orient pair).2 := by
  rw [counterpart]
  split
  · next shared =>
    rw [List.take_one, reversible.head?_eq_of_lower member shared, ← List.take_one,
      List.take_append_drop]
  · rfl

/-- Pairs that can be reversed give rules in both directions. -/
theorem exists_rules (reversible : Reversible pairs) (direction : Direction) :
    ∃ rules, irregulars? direction pairs = some rules := by
  refine Option.ne_none_iff_exists'.mp fun none => ?_
  obtain ⟨pair, member, empty⟩ := (irregulars?_eq_none_iff direction pairs).mp none
  obtain ⟨first, second⟩ := reversible.present pair member
  exact empty.elim first second

/-- A table for pairs does to every word what it should. -/
theorem leadsAlong (reversible : Reversible pairs) (name : List Char)
    (built : irregulars? direction pairs = some rules) :
    (Table.mk name rules).LeadsAlong direction pairs := by
  have source : ∀ pair ∈ pairs, ∀ word, folded word = folded (direction.orient pair).1 → _ :=
    fun pair member word same => reversible.apply_of_source name built member same
  have target : ∀ pair ∈ pairs, ∀ word, folded word = folded (direction.orient pair).2 → _ :=
    fun pair member word same => reversible.apply_of_target name built member same
  refine ⟨fun pair member => ⟨?_, target pair member _ rfl⟩, source, target, fun word unspelt => ?_,
    fun word => ?_⟩
  · rw [source pair member _ rfl, reversible.counterpart_source member]
  · have first : (Table.mk name rules).first? word = none := by
      refine (firstFrom?_eq_none_iff_of_irregulars built).mpr fun pair member => ?_
      have unlike := unspelt pair member
      cases direction with
      | forward => exact unlike
      | backward => exact unlike.symm
    exact ⟨first, by rw [Table.apply, first]⟩
  · cases first : (Table.mk name rules).first? word with
    | none =>
      have own : (Table.mk name rules).apply word = word := by rw [Table.apply, first]
      rw [own, own]
    | some application =>
      obtain ⟨pair, member, ⟨same, -⟩ | ⟨same, -⟩⟩ := result_of_firstFrom? built first
      · rw [source pair member word same]
        exact target pair member _ (reversible.folded_counterpart member same)
      · rw [target pair member word same, target pair member word same]

end Reversible

private theorem ofEntries_irregulars (name : List Char) (direction : Direction)
    (pairs : List (List Char × List Char)) :
    Table.ofEntries name [.irregulars direction pairs] =
      match irregulars? direction pairs with
      | some rules => .ok ⟨name, rules⟩
      | none => .error .emptyForm := by
  rw [Table.ofEntries, List.mapM_cons, List.mapM_nil, RuleEntry.rules]
  cases irregulars? direction pairs with
  | none => rfl
  | some rules => simp [pure, Except.pure, bind, Except.bind]

/-- Pairs make a table unless a form is empty, and the table does what the one for the written pairs
does, whatever the characters of the forms are. Reversible pairs make tables that are inverse to each
other on their forms and told on every word. -/
theorem irregular_tables_inverse :
    (∀ name direction pairs error, Table.ofEntries name [.irregulars direction pairs] = .error error ↔
      error = .emptyForm ∧ ∃ pair ∈ pairs, pair.1 = [] ∨ pair.2 = []) ∧
    (∀ name direction pairs table, Table.ofEntries name [.irregulars direction pairs] = .ok table →
      ∃ written, Table.ofEntries name (writtenPairs direction pairs) = .ok written ∧
        ∀ word, written.apply word = table.apply word ∧
          (written.first? word).map Application.index = (table.first? word).map Application.index) ∧
    ∀ name pairs, Reversible pairs → ∃ forward backward,
      Table.ofEntries name [.irregulars .forward pairs] = .ok forward ∧
      Table.ofEntries name [.irregulars .backward pairs] = .ok backward ∧
      forward.LeadsAlong .forward pairs ∧ backward.LeadsAlong .backward pairs ∧
      ∀ pair ∈ pairs, backward.apply (forward.apply pair.1) = pair.1 ∧
        forward.apply (backward.apply pair.2) = pair.2 := by
  refine ⟨fun name direction pairs error => ?_, fun name direction pairs table built => ?_,
    fun name pairs reversible => ?_⟩
  · rw [ofEntries_irregulars, ← irregulars?_eq_none_iff direction pairs]
    cases irregulars? direction pairs with
    | none => simp [eq_comm]
    | some rules => simp
  · rw [ofEntries_irregulars] at built
    cases rulesBuilt : irregulars? direction pairs with
    | none =>
      rw [rulesBuilt] at built
      cases built
    | some rules =>
      rw [rulesBuilt] at built
      cases built
      exact exists_table_writtenPairs name rulesBuilt
  · obtain ⟨forward, forwardBuilt⟩ := reversible.exists_rules .forward
    obtain ⟨backward, backwardBuilt⟩ := reversible.exists_rules .backward
    have there := reversible.leadsAlong name forwardBuilt
    have back := reversible.leadsAlong name backwardBuilt
    refine ⟨⟨name, forward⟩, ⟨name, backward⟩, ?_, ?_, there, back, fun pair member => ⟨?_, ?_⟩⟩
    · rw [ofEntries_irregulars, forwardBuilt]
    · rw [ofEntries_irregulars, backwardBuilt]
    · exact (congrArg _ (there.forms pair member).1).trans (back.forms pair member).1
    · exact (congrArg _ (back.forms pair member).1).trans (there.forms pair member).1

/-- Forms with signs that have a meaning in patterns, and a pair that shares no first letter. -/
theorem irregular_tables_inverse_signs :
    Reversible [("a.b".toList, "a+c".toList), ("is".toList, "are".toList)] ∧ ∃ forward backward written,
      Table.ofEntries [] [.irregulars .forward [("a.b".toList, "a+c".toList), ("is".toList, "are".toList)]] =
        .ok forward ∧
      Table.ofEntries []
        [.irregulars .backward [("a.b".toList, "a+c".toList), ("is".toList, "are".toList)]] = .ok backward ∧
      Table.ofEntries [] [.replace "^(a)\\.b\\Z".toList "+c".toList, .keep "^a\\+c".toList,
        .replace "^is\\Z".toList "are".toList, .keep "^are".toList] = .ok written ∧
      forward.apply "A.B".toList = "A+c".toList ∧ backward.apply "A+C".toList = "A.b".toList ∧
      forward.apply "IS".toList = "are".toList ∧ forward.apply "a+C".toList = "a+C".toList ∧
      forward.apply "aab".toList = "aab".toList ∧ written.apply "A.B".toList = "A+c".toList := by
  have reversible : Reversible [("a.b".toList, "a+c".toList), ("is".toList, "are".toList)] :=
    ⟨by decide, by decide, by decide⟩
  obtain ⟨-, asWritten, inverse⟩ := irregular_tables_inverse
  obtain ⟨forward, backward, forwardBuilt, backwardBuilt, there, back, -⟩ := inverse [] _ reversible
  obtain ⟨written, writtenBuilt, alike⟩ := asWritten [] .forward _ forward forwardBuilt
  have dotted := there.source ("a.b".toList, "a+c".toList) (by decide) "A.B".toList (by decide)
  refine ⟨reversible, forward, backward, written, forwardBuilt, backwardBuilt, ?_, dotted, ?_, ?_, ?_, ?_,
    (alike _).1.trans dotted⟩
  · exact writtenBuilt
  · exact back.source ("a.b".toList, "a+c".toList) (by decide) _ (by decide)
  · exact there.source ("is".toList, "are".toList) (by decide) _ (by decide)
  · exact there.target ("a.b".toList, "a+c".toList) (by decide) _ (by decide)
  · exact (there.other _ (by decide)).2

end Inflection
