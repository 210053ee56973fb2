import Inflection.Proofs.Ending.Clause
import Inflection.Proofs.Pattern.Bracketing
import Inflection.Proofs.Pattern.Sequence
import Inflection.Rule.Reader

/-! # Rules that keep words

A rule that keeps words captures all of its match, which stops at the very end of the word. What it puts
together is therefore the word itself, whatever the pattern is and wherever in the word it matches. In
writing, such a rule is given by any pattern without a captured part.
-/

namespace Inflection

variable {p : Pattern} {word text : List Char}

namespace Pattern

/-- The ways to match a captured pattern at the end of a word are those of the pattern, with all that is
taken kept. -/
theorem outcomes_captured_stop (p : Pattern) (before : Option Char) (text : List Char) :
    (capture p ++ stop).outcomes before text =
      ((p ++ stop).outcomes before text).map fun a => { a with kept := some a.taken } := by
  rw [outcomes_append, outcomes_append, outcomes, List.flatMap_map, List.map_flatMap]
  refine List.flatMap_congr fun a _ => ?_
  cases a.rest with
  | nil => simp [outcomes, here]
  | cons c rest => simp [outcomes, here]

theorem findFrom?_captured_stop (p : Pattern) (before : Option Char) (text : List Char) :
    (capture p ++ stop).findFrom? before text = ((p ++ stop).findFrom? before text).map fun found =>
      { found with outcome := { found.outcome with kept := some found.outcome.taken } } := by
  induction text generalizing before with
  | nil =>
    rw [findFrom?, findFrom?, outcomes_captured_stop, List.head?_map, Option.map_map, Option.map_map]
    rfl
  | cons c text ih =>
    rw [findFrom?, findFrom?, outcomes_captured_stop]
    cases (p ++ stop).outcomes before (c :: text) with
    | nil =>
      rw [List.map_nil, ih, Option.map_map, Option.map_map]
      rfl
    | cons best others => rfl

/-- A match that stops at the very end of a word leaves nothing of it. -/
theorem rest_eq_nil_of_find? {found : Match} (matched : (p ++ stop).find? word = some found) :
    found.outcome.rest = [] :=
  ((mem_outcomes_beforeStop rfl).mp (outcome_mem_of_findFrom? matched)).2

end Pattern

/-- A rule that keeps words gives back each word that ends in its pattern, and applies to no other. -/
theorem Rule.result?_keep (p : Pattern) (word : List Char) :
    (Rule.keep p).result? word = if p.endsIn word then some word else none := by
  rw [result?, match?, keep, Pattern.find?, Pattern.findFrom?_captured_stop, Pattern.endsIn, ← Pattern.find?]
  cases matched : (p ++ .stop).find? word with
  | none => rfl
  | some found =>
    have whole := Pattern.lead_append_of_find? matched
    rw [Pattern.rest_eq_nil_of_find? matched, List.append_nil] at whole
    simp [Match.kept, build, whole]

/-- A pattern in writing makes a rule that keeps words unless a part of it is captured. -/
theorem RuleEntry.rules_keep (read : Pattern.read? text = some p) :
    (RuleEntry.keep text).rules = if p.captures = 0 then .ok [.keep p] else
      .error (.manyCaptures (Rule.keepPattern text)) := by
  have bracketed : Pattern.read? (Rule.keepPattern text) = some (.capture p ++ .stop) :=
    Pattern.read?_captured_stop read
  have count : (Pattern.capture p ++ .stop).captures = p.captures + 1 := rfl
  rw [rules, Rule.read, bracketed]
  dsimp only
  rw [count]
  by_cases plain : p.captures = 0
  · rw [if_pos plain, if_pos (by omega)]
    rfl
  · rw [if_neg plain, if_neg (by omega)]
    rfl

/-- A pattern in writing that captures nothing makes a rule that gives back every word that ends in the
pattern as it is, and that does not apply to any other word. -/
theorem keep_gives_back_words (read : Pattern.read? text = some p) (plain : p.captures = 0) :
    ∃ rule, (RuleEntry.keep text).rules = .ok [rule] ∧
      ∀ word, rule.result? word = if p.endsIn word then some word else none := by
  refine ⟨.keep p, ?_, Rule.result?_keep p⟩
  rw [RuleEntry.rules_keep read, if_pos plain]

theorem keep_gives_back_words_cases :
    ∃ p, Pattern.read? "(?:[a-c]|^)a?ses$".toList = some p ∧ p.captures = 0 ∧
      ∃ rule, (RuleEntry.keep "(?:[a-c]|^)a?ses$".toList).rules = .ok [rule] ∧
        rule.result? "CASES".toList = some "CASES".toList ∧ rule.result? "cases\n".toList = none := by
  obtain ⟨p, read, plain, at_end, newline⟩ :
      ∃ p, Pattern.read? "(?:[a-c]|^)a?ses$".toList = some p ∧ p.captures = 0 ∧
        p.endsIn "CASES".toList = true ∧ p.endsIn "cases\n".toList = false :=
    ⟨.seq (.alt (.oneOf false [.range 'a' 'c']) .start) (.seq (.opt (.char 'a')) (.seq (.char 's')
      (.seq (.char 'e') (.seq (.char 's') .stopLine)))), by decide +kernel, rfl, by decide, by decide⟩
  obtain ⟨rule, made, result⟩ := keep_gives_back_words read plain
  exact ⟨p, read, plain, rule, made, (result _).trans (if_pos at_end), (result _).trans (by rw [newline]; rfl)⟩

end Inflection
