import Inflection.Proofs.Irregular.Rule
import Mathlib.Data.List.Nodup

/-! # Rules of irregular pairs

The rules of a list of pairs apply to the words with the letters of a form, and to no others. A rule for
such a word gives the counterpart of the form for a source form and the word itself for a target form,
whatever other pairs there are; if the letters of each form are its own, the form tells which of the two
it is.
-/

namespace Inflection

open Text (folded)

variable {word : List Char} {direction : Direction} {pair : List Char × List Char}
  {pairs : List (List Char × List Char)} {rules : List Rule} {application : Application} {index : Nat}

/-- What becomes of a word with the letters of a source form: the target form, with the first character
of the word if both forms begin with the same letter. -/
def counterpart (source target word : List Char) : List Char :=
  if source.head?.map Text.lower = target.head?.map Text.lower then word.take 1 ++ target.drop 1
  else target

/-- A pair gives no rules if one of its forms is empty. -/
theorem irregularRules?_eq_none_iff : irregularRules? pair = none ↔ pair.1 = [] ∨ pair.2 = [] := by
  obtain ⟨_ | ⟨s, source⟩, _ | ⟨t, target⟩⟩ := pair <;> simp [irregularRules?]

/-- The rules of the first pair of a list come before those of the others. -/
theorem irregulars?_cons : irregulars? direction (pair :: pairs) =
    (irregularRules? (direction.orient pair)).bind fun rules =>
      (irregulars? direction pairs).map (rules ++ ·) := by
  rw [irregulars?, irregulars?, List.mapM_cons]
  cases irregularRules? (direction.orient pair) with
  | none => rfl
  | some rules =>
    cases pairs.mapM fun pair => irregularRules? (direction.orient pair) <;> rfl

/-- Pairs give rules unless a form is empty. -/
theorem irregulars?_eq_none_iff (direction : Direction) (pairs : List (List Char × List Char)) :
    irregulars? direction pairs = none ↔ ∃ pair ∈ pairs, pair.1 = [] ∨ pair.2 = [] := by
  have oriented (pair : List Char × List Char) : irregularRules? (direction.orient pair) = none ↔
      pair.1 = [] ∨ pair.2 = [] := by
    rw [irregularRules?_eq_none_iff]
    cases direction with
    | forward => rfl
    | backward => exact or_comm
  induction pairs with
  | nil => simp [irregulars?]
  | cons pair pairs ih =>
    have own := oriented pair
    simp only [List.mem_cons, or_and_right, exists_or, exists_eq_left]
    rw [irregulars?_cons]
    cases built : irregularRules? (direction.orient pair) with
    | none => simp [own.mp built]
    | some rules =>
      have present := mt own.mpr (by simp [built])
      simpa [present] using ih

/-- The rules of pairs are the two rules of each pair. -/
theorem mem_irregulars?_iff (built : irregulars? direction pairs = some rules) {rule : Rule} :
    rule ∈ rules ↔ ∃ pair ∈ pairs, ∃ s source t target,
      direction.orient pair = (s :: source, t :: target) ∧
        (rule = irregularRule s t source target ∨ rule = .keep (.start ++ .ofChars (t :: target))) := by
  induction pairs generalizing rules with
  | nil =>
    obtain rfl := Option.some.inj built
    simp
  | cons pair pairs ih =>
    rw [irregulars?_cons, Option.bind_eq_some_iff] at built
    obtain ⟨own, ownBuilt, built⟩ := built
    obtain ⟨others, othersBuilt, rfl⟩ := Option.map_eq_some_iff.mp built
    simp only [List.mem_append, ih othersBuilt, List.mem_cons, or_and_right, exists_or, exists_eq_left]
    refine or_congr_left ?_
    generalize direction.orient pair = oriented at ownBuilt
    obtain ⟨_ | ⟨s, source⟩, _ | ⟨t, target⟩⟩ := oriented <;> cases ownBuilt
    simp

private theorem exists_forms_of_mem (built : irregulars? direction pairs = some rules)
    (member : pair ∈ pairs) :
    ∃ s source t target, direction.orient pair = (s :: source, t :: target) := by
  have present : ¬(pair.1 = [] ∨ pair.2 = []) := fun empty => by
    rw [(irregulars?_eq_none_iff direction pairs).mpr ⟨pair, member, empty⟩] at built
    cases built
  obtain ⟨_ | ⟨a, first⟩, _ | ⟨b, second⟩⟩ := pair <;> simp at present
  cases direction with
  | forward => exact ⟨a, first, b, second, rfl⟩
  | backward => exact ⟨b, second, a, first, rfl⟩

/-- A rule of pairs gives the counterpart for a source form and the word itself for a target form. -/
theorem result_of_firstFrom? (built : irregulars? direction pairs = some rules)
    (first : Table.firstFrom? word index rules = some application) :
    ∃ pair ∈ pairs,
      (folded word = folded (direction.orient pair).1 ∧
        application.result =
          counterpart (direction.orient pair).1 (direction.orient pair).2 word) ∨
      (folded word = folded (direction.orient pair).2 ∧ application.result = word) := by
  obtain ⟨member, matched⟩ := Table.mem_rules_of_firstFrom? first
  obtain ⟨pair, pairMember, s, source, t, target, oriented, rule⟩ := (mem_irregulars?_iff built).mp member
  refine ⟨pair, pairMember, ?_⟩
  rw [oriented, Application.result, Rule.build]
  rcases rule with rule | rule
  · rw [rule, match?_irregularRule] at matched
    split at matched
    · next same =>
      obtain ⟨lead, kept⟩ := Prod.mk.inj (Option.some.inj matched)
      refine .inl ⟨same, ?_⟩
      rw [← lead, ← kept, rule, irregularRule, counterpart]
      by_cases shared : Text.lower s = Text.lower t <;> simp [shared]
    · cases matched
  · rw [rule, match?_keep_whole] at matched
    split at matched
    · next same =>
      obtain ⟨lead, kept⟩ := Prod.mk.inj (Option.some.inj matched)
      refine .inr ⟨same, ?_⟩
      rw [← lead, ← kept, rule, Rule.keep, List.append_nil, List.nil_append]
    · cases matched

/-- No rule of pairs applies to a word exactly if it has the letters of no form. -/
theorem firstFrom?_eq_none_iff_of_irregulars (built : irregulars? direction pairs = some rules) :
    Table.firstFrom? word index rules = none ↔ ∀ pair ∈ pairs,
      folded word ≠ folded (direction.orient pair).1 ∧ folded word ≠ folded (direction.orient pair).2 := by
  rw [Table.firstFrom?_eq_none_iff]
  constructor
  · intro unmatched pair member
    obtain ⟨s, source, t, target, oriented⟩ := exists_forms_of_mem built member
    have sourceMember : irregularRule s t source target ∈ rules :=
      (mem_irregulars?_iff built).mpr ⟨pair, member, s, source, t, target, oriented, .inl rfl⟩
    have targetMember : Rule.keep (.start ++ .ofChars (t :: target)) ∈ rules :=
      (mem_irregulars?_iff built).mpr ⟨pair, member, s, source, t, target, oriented, .inr rfl⟩
    have sourceUnmatched := unmatched _ sourceMember
    have targetUnmatched := unmatched _ targetMember
    rw [match?_irregularRule, ite_eq_right_iff] at sourceUnmatched
    rw [match?_keep_whole, ite_eq_right_iff] at targetUnmatched
    rw [oriented]
    exact ⟨fun same => (nomatch sourceUnmatched same), fun same => (nomatch targetUnmatched same)⟩
  · intro unspelt rule member
    obtain ⟨pair, pairMember, s, source, t, target, oriented, rfl | rfl⟩ :=
      (mem_irregulars?_iff built).mp member
    · have other := (unspelt pair pairMember).1
      rw [oriented] at other
      rw [match?_irregularRule, if_neg other]
    · have other := (unspelt pair pairMember).2
      rw [oriented] at other
      rw [match?_keep_whole, if_neg other]

end Inflection
