import Inflection.Proofs.Ending.Clause

/-! # Rules that cut off short endings

A rule whose pattern has shapes keeps the start of a word as it is: it cuts off the characters that the
pattern has after the kept part, and puts its replacement in their place.
-/

namespace Inflection

variable {rule : Rule} {bound : Nat} {word lead kept : List Char}

/-- A word is as long at least as the row of sets that its end fits. -/
theorem Clause.length_le_of_fits {clause : Clause} (fitting : clause.fits word = true) :
    clause.letters.length ≤ word.length := by
  rw [fits, fitsReversed, Place.fits_iff] at fitting
  obtain ⟨ending, lead, reversed, members, -⟩ := fitting
  have lengths := congrArg List.length reversed
  rw [List.length_reverse, List.length_append, members.length_eq] at lengths
  omega

namespace Rule

/-- Whether a rule cuts off a bounded number of characters at most. -/
def cutsAtMost (bound : Nat) (rule : Rule) : Bool :=
  (rule.clauses 0).all (·.edit.cut ≤ bound)

/-- A rule with a bound cuts off no more than that, and adds its replacement. -/
theorem exists_cut_of_match? (ruled : rule.hasClauses = true) (short : rule.cutsAtMost bound = true)
    (matched : rule.match? word = some (lead, kept)) :
    ∃ cut ≤ bound, cut ≤ word.length ∧ rule.build lead kept = word.rdrop cut ++ rule.replacement := by
  obtain ⟨clause, member, fitting⟩ : ∃ clause ∈ rule.clauses 0, clause.fits word = true := by
    by_contra unfit
    have none := (match?_eq_none_iff ruled 0 word).mpr fun clause member =>
      Bool.not_eq_true _ ▸ fun fitting => unfit ⟨clause, member, fitting⟩
    rw [none] at matched
    cases matched
  have small : clause.edit.cut ≤ bound := of_decide_eq_true (List.all_eq_true.mp short clause member)
  have built := build_eq_of_fits ruled matched member fitting
  have long := Clause.length_le_of_fits fitting
  rw [clauses] at member
  split at member
  · obtain ⟨shape, -, rfl⟩ := List.mem_map.mp member
    refine ⟨shape.cut, small, ?_, built⟩
    rw [Clause.ofShape, List.length_reverse] at long
    exact (Nat.sub_le ..).trans long
  · cases member

end Rule

end Inflection
