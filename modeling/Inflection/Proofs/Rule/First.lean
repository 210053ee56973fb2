import Inflection.Proofs.Ending.Shape
import Inflection.Rule.Table

/-! # The first rule that applies

The rule that a table applies to a word is one of its rules and finds its match in the word; there is none
if no rule of the table has a match. What a rule keeps is a part of the word, so the form of a word has no
characters but those of the word and of a replacement.
-/

namespace Inflection

variable {word : List Char}

/-- What is kept of a match is a stretch of it. -/
theorem Pattern.isInfix_kept {p : Pattern} {before : Option Char} {text kept : List Char} {a : Outcome}
    (matched : a ∈ p.outcomes before text) (captured : a.kept = some kept) : kept <:+: a.taken := by
  induction p generalizing before text a with
  | empty | start | stop | stopLine | boundary =>
    simp only [outcomes, here] at matched
    split at matched <;> simp_all
  | char _ | oneOf _ _ =>
    cases text with
    | nil => simp [outcomes, takeOne] at matched
    | cons c rest =>
      simp only [outcomes, takeOne] at matched
      split at matched <;> simp_all
  | seq first second firstIh secondIh =>
    simp only [outcomes, List.mem_flatMap, List.mem_map] at matched
    obtain ⟨x, firstMatched, y, secondMatched, rfl⟩ := matched
    rcases Option.or_eq_some_iff.mp captured with later | ⟨-, earlier⟩
    · exact (secondIh secondMatched later).trans (List.suffix_append ..).isInfix
    · exact (firstIh firstMatched earlier).trans (List.prefix_append ..).isInfix
  | alt first second firstIh secondIh =>
    simp only [outcomes, List.mem_append] at matched
    exact matched.elim (firstIh · captured) (secondIh · captured)
  | opt inner ih =>
    simp only [outcomes, List.mem_append] at matched
    exact matched.elim (ih · captured) fun last => by simp_all [here]
  | capture inner =>
    simp only [outcomes, List.mem_map] at matched
    obtain ⟨x, -, rfl⟩ := matched
    obtain rfl := Option.some.inj captured
    exact List.infix_rfl

/-- A rule puts together its results from characters of the word and of its replacement. -/
theorem Rule.mem_or_mem_of_build {rule : Rule} {lead kept : List Char} {c : Char}
    (matched : rule.match? word = some (lead, kept)) (member : c ∈ rule.build lead kept) :
    c ∈ word ∨ c ∈ rule.replacement := by
  obtain ⟨found, search, parts⟩ := Option.map_eq_some_iff.mp matched
  obtain ⟨rfl, rfl⟩ := Prod.mk.inj parts
  have split := Pattern.lead_append_of_find? search
  simp only [build, List.mem_append] at member
  rcases member with (leading | kept) | new
  · exact .inl (split ▸ List.mem_append_left _ leading)
  · cases captured : found.outcome.kept with
    | none => simp [Match.kept, captured] at kept
    | some part =>
      rw [Match.kept, captured, Option.getD_some] at kept
      have way := Pattern.outcome_mem_of_findFrom? search
      have taken := (Pattern.isInfix_kept way captured).subset kept
      exact .inl (split ▸ List.mem_append_right _ (List.mem_append_left _ taken))
  · exact .inr new

namespace Table

variable {table : Table} {application : Application} {rules more : List Rule} {index : Nat}

/-- None of the rules is the first to apply if none of them has a match. -/
theorem firstFrom?_eq_none_iff :
    firstFrom? word index rules = none ↔ ∀ rule ∈ rules, rule.match? word = none := by
  induction rules generalizing index with
  | nil => simp [firstFrom?]
  | cons rule rules ih =>
    rw [firstFrom?, List.forall_mem_cons]
    cases rule.match? word with
    | none => simp [ih]
    | some parts => simp

/-- The first rule that applies is one of the rules, and it has the match of its application. -/
theorem mem_rules_of_firstFrom? (first : firstFrom? word index rules = some application) :
    application.rule ∈ rules ∧
      application.rule.match? word = some (application.lead, application.kept) := by
  induction rules generalizing index with
  | nil => cases first
  | cons rule rules ih =>
    rw [firstFrom?] at first
    split at first
    · next lead kept matched =>
      obtain rfl := Option.some.inj first
      exact ⟨List.mem_cons_self, matched⟩
    · obtain ⟨member, matched⟩ := ih first
      exact ⟨List.mem_cons_of_mem _ member, matched⟩

/-- Rules that follow others are applied where none of the others is. -/
theorem firstFrom?_append :
    firstFrom? word index (rules ++ more) =
      (firstFrom? word index rules).or (firstFrom? word (index + rules.length) more) := by
  induction rules generalizing index with
  | nil => rfl
  | cons rule rules ih =>
    rw [List.cons_append, firstFrom?, firstFrom?]
    cases rule.match? word with
    | none => rw [ih, List.length_cons, Nat.add_assoc, Nat.add_comm 1]
    | some parts => rfl

/-- Every character of a form stands in the word or in a replacement of the table. -/
theorem mem_or_mem_of_apply {c : Char} (member : c ∈ table.apply word) :
    c ∈ word ∨ ∃ rule ∈ table.rules, c ∈ rule.replacement := by
  rw [apply] at member
  split at member
  · next application first =>
    obtain ⟨ruleMember, matched⟩ := mem_rules_of_firstFrom? first
    exact (Rule.mem_or_mem_of_build matched member).imp_right fun new => ⟨_, ruleMember, new⟩
  · exact .inl member

end Table

end Inflection
