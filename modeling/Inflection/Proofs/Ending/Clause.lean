import Inflection.Proofs.Ending.Shape
import Inflection.Rule.Table
import Mathlib.Data.List.DropRight

/-! # Clauses for word endings

A rule whose pattern has shapes is a list of clauses. A clause says which last letters a word has to
have, letter by letter from its end, and how the end of such a word is edited. The clauses of a whole
table, in the order of its rules, decide what the table does: the first clause that fits a word gives
its new form.
-/

namespace Inflection

/-- A change at the end of a word: so many characters are cut off and others are added. -/
structure Edit where
  cut : Nat
  added : List Char
deriving DecidableEq, Repr

namespace Edit

def nothing : Edit :=
  ⟨0, []⟩

def apply (edit : Edit) (word : List Char) : List Char :=
  word.rdrop edit.cut ++ edit.added

def andThen (first second : Edit) : Edit :=
  if second.cut ≤ first.added.length then
    ⟨first.cut, first.added.rdrop second.cut ++ second.added⟩
  else ⟨first.cut + (second.cut - first.added.length), second.added⟩

@[simp]
theorem apply_nothing (word : List Char) : nothing.apply word = word := by
  simp [nothing, apply]

/-- An edit that adds lower-case letters makes a word of lower-case letters out of one. -/
theorem isLower_of_mem_apply {edit : Edit} {word : List Char}
    (added : edit.added.all Char.isLower = true) (lower : ∀ c ∈ word, c.isLower = true) :
    ∀ c ∈ edit.apply word, c.isLower = true := by
  intro c member
  rcases List.mem_append.mp member with kept | new
  · exact lower c (List.mem_of_mem_take kept)
  · exact List.all_eq_true.mp added c new

/-- Read from its end, an edited word begins with what was added to it. -/
theorem reverse_apply (edit : Edit) (word : List Char) :
    (edit.apply word).reverse = edit.added.reverse ++ word.reverse.drop edit.cut := by
  rw [apply, List.reverse_append, List.rdrop_eq_reverse_drop_reverse, List.reverse_reverse]

/-- Two edits in one do what they do one after the other. -/
theorem apply_andThen (first second : Edit) (word : List Char) :
    (first.andThen second).apply word = second.apply (first.apply word) := by
  rw [← List.reverse_inj, reverse_apply, reverse_apply, reverse_apply, andThen]
  split
  · next within =>
    rw [List.drop_append_of_le_length (by simpa using within), List.reverse_append,
      List.rdrop_eq_reverse_drop_reverse, List.reverse_reverse, List.append_assoc]
  · next beyond =>
    have gone : first.added.reverse.drop second.cut = [] :=
      List.drop_eq_nil_of_le (by rw [List.length_reverse]; omega)
    rw [List.drop_append, gone, List.nil_append, List.drop_drop, List.length_reverse]

end Edit

/-- Whether a word, read from its end, begins with characters of the sets and goes on from a place. -/
def Place.fits (place : Place) : List LetterSet → List Char → Bool
  | [], word => place.admits word.head?
  | _ :: _, [] => false
  | set :: sets, c :: word => decide (c ∈ set) && place.fits sets word

/-- A word fits if characters of the sets begin it and the place admits what comes after them. -/
theorem Place.fits_iff {place : Place} {sets : List LetterSet} {word : List Char} :
    place.fits sets word = true ↔ ∃ ending lead, word = ending ++ lead ∧
      List.Forall₂ (· ∈ ·) ending sets ∧ place.admits lead.head? = true := by
  induction sets generalizing word with
  | nil =>
    constructor
    · exact fun admitted => ⟨[], word, rfl, .nil, admitted⟩
    · rintro ⟨_, lead, rfl, members, admitted⟩
      rw [List.forall₂_nil_right_iff.mp members]
      exact admitted
  | cons set sets ih =>
    constructor
    · intro fitting
      cases word with
      | nil => cases fitting
      | cons c word =>
        simp only [fits, Bool.and_eq_true, decide_eq_true_eq] at fitting
        obtain ⟨ending, lead, rfl, members, admitted⟩ := ih.mp fitting.2
        exact ⟨c :: ending, lead, rfl, .cons fitting.1 members, admitted⟩
    · rintro ⟨_, lead, rfl, members, admitted⟩
      obtain ⟨c, ending, member, rest, rfl⟩ := List.forall₂_cons_right_iff.mp members
      simp only [List.cons_append, fits, Bool.and_eq_true, decide_eq_true_eq]
      exact ⟨member, ih.mpr ⟨ending, lead, rfl, rest, admitted⟩⟩

/-- The number of characters after the kept part of a stretch. -/
def Shape.cut (shape : Shape) : Nat :=
  shape.letters.length - shape.kept.getD 0

/-- What a rule does to a word: the place of the rule in its table, and the edit that it makes. -/
structure Effect where
  index : Nat
  edit : Edit
deriving DecidableEq, Repr

/-- An effect for words that end in certain letters, given with the last letter first, which begin at a
place. -/
structure Clause extends Effect where
  place : Place
  letters : List LetterSet
deriving DecidableEq, Repr

/-- Whether two rows of sets cannot both begin one word. -/
def LetterSet.clash : List LetterSet → List LetterSet → Bool
  | set :: sets, other :: others => (set.meet other).isEmpty || clash sets others
  | _, _ => false

private theorem Place.not_fits_of_clash {place place' : Place} {sets others : List LetterSet}
    {word : List Char} (clash : LetterSet.clash sets others = true)
    (fitting : place.fits sets word = true) : place'.fits others word = false := by
  induction sets generalizing others word with
  | nil => simp [LetterSet.clash] at clash
  | cons set sets ih =>
    cases others with
    | nil => simp [LetterSet.clash] at clash
    | cons other others =>
      cases word with
      | nil => rfl
      | cons c word =>
        simp only [fits, Bool.and_eq_true, decide_eq_true_eq] at fitting
        simp only [LetterSet.clash, Bool.or_eq_true] at clash
        rw [fits, Bool.and_eq_false_iff, decide_eq_false_iff_not]
        exact clash.imp (LetterSet.not_mem_of_meet · fitting.1) (ih · fitting.2)

/-- The edit of an effect; without an effect, a word stays as it is. -/
def Effect.editOf (effect : Option Effect) : Edit :=
  effect.elim .nothing (·.edit)

namespace Clause

/-- Whether a word, read from its end, is as the clause says. -/
def fitsReversed (clause : Clause) (word : List Char) : Bool :=
  clause.place.fits clause.letters word

/-- Whether the word ends as the clause says. -/
def fits (clause : Clause) (word : List Char) : Bool :=
  clause.fitsReversed word.reverse

/-- The clause for a shape of a pattern at the end of words. -/
def ofShape (index : Nat) (added : List Char) (shape : Shape) : Clause :=
  { index := index, edit := ⟨shape.cut, added⟩, place := shape.place,
    letters := shape.letters.reverse }

/-- The clause for a shape fits the words that end in a stretch of that shape. -/
theorem fits_ofShape (index : Nat) (added : List Char) {shape : Shape} {word : List Char} :
    (ofShape index added shape).fits word = true ↔ ∃ lead ending, word = lead ++ ending ∧
      shape.place.admits lead.getLast? = true ∧ List.Forall₂ (· ∈ ·) ending shape.letters := by
  rw [fits, fitsReversed, Place.fits_iff]
  constructor
  · rintro ⟨ending, lead, reversed, members, admitted⟩
    refine ⟨lead.reverse, ending.reverse, ?_, by rwa [List.getLast?_reverse], ?_⟩
    · rw [← List.reverse_append, ← reversed, List.reverse_reverse]
    · rw [← List.reverse_reverse shape.letters]
      exact List.rel_reverse members
  · rintro ⟨lead, ending, rfl, admitted, members⟩
    refine ⟨ending.reverse, lead.reverse, List.reverse_append, List.rel_reverse members, ?_⟩
    rwa [List.head?_reverse]

end Clause

namespace Pattern

variable {p q : Pattern} {word : List Char}

/-- A pattern that stops at the end of a word matches it if the word ends in one of its shapes. -/
theorem find?_eq_none_iff (stops : p.beforeStop? = some q) (shaped : q.hasShapes = true)
    (index : Nat) (added : List Char) :
    p.find? word = none ↔
      ∀ shape ∈ q.shapes, (Clause.ofShape index added shape).fits word = false := by
  rw [find?, findFrom?_eq_none_iff]
  constructor
  · intro none shape member
    rw [← Bool.not_eq_true, Clause.fits_ofShape]
    rintro ⟨lead, ending, rfl, admitted, members⟩
    have way : ⟨ending, [], shape.kept.map ending.take⟩ ∈
        p.outcomes (lead.getLast?.or Option.none) ending := by
      rw [mem_outcomes_beforeStop stops, mem_outcomes_iff shaped]
      refine ⟨⟨List.append_nil ending, shape, member, ?_, members, rfl⟩, rfl⟩
      rwa [Option.or_none]
    rw [none lead ending rfl] at way
    cases way
  · intro none lead rest split
    refine List.eq_nil_iff_forall_not_mem.mpr fun way => ?_
    rw [mem_outcomes_beforeStop stops, mem_outcomes_iff shaped, Option.or_none]
    rintro ⟨⟨taken, shape, member, place, members, -⟩, ended⟩
    rw [ended, List.append_nil] at taken
    have fitting := (Clause.fits_ofShape index added).mpr
      ⟨lead, rest, split, place, taken ▸ members⟩
    rw [none shape member] at fitting
    cases fitting

/-- A match found by a pattern that stops at the end of a word has one of its shapes. -/
theorem exists_shape_of_find? (stops : p.beforeStop? = some q) (shaped : q.hasShapes = true)
    {found : Match} (matched : p.find? word = some found) :
    word = found.lead ++ found.outcome.taken ∧ ∃ shape ∈ q.shapes,
      shape.Describes found.lead.getLast? found.outcome.taken found.outcome.kept := by
  have way := outcome_mem_of_findFrom? matched
  rw [mem_outcomes_beforeStop stops, mem_outcomes_iff shaped, Option.or_none] at way
  refine ⟨?_, way.1.2⟩
  rw [← lead_append_of_find? matched, way.2, List.append_nil]

/-- Whether the word ends in a stretch that the pattern describes. -/
def endsIn (p : Pattern) (word : List Char) : Bool :=
  ((p ++ stop).find? word).isSome

def clauses (p : Pattern) : List Clause :=
  p.shapes.map (.ofShape 0 [])

/-- A word ends in a pattern if a clause of the pattern fits it. -/
theorem endsIn_eq (shaped : p.hasShapes = true) :
    p.endsIn word = (p.clauses.find? (·.fits word)).isSome := by
  have unfit : (p ++ stop).find? word = none ↔ _ := find?_eq_none_iff rfl shaped 0 []
  rw [Bool.eq_iff_iff, endsIn, ← not_iff_not, Bool.not_eq_true, Option.isSome_eq_false_iff,
    Option.isNone_iff_eq_none, unfit, Bool.not_eq_true, Option.isSome_eq_false_iff,
    Option.isNone_iff_eq_none, List.find?_eq_none, clauses, List.forall_mem_map]
  simp only [Bool.not_eq_true]

end Pattern

namespace Rule

def clauses (index : Nat) (rule : Rule) : List Clause :=
  match rule.pattern.beforeStop? with
  | some p => p.shapes.map (.ofShape index rule.replacement)
  | none => []

/-- Whether the clauses of a rule say what it does: those that fit one word make the same edit. -/
def hasClauses (rule : Rule) : Bool :=
  rule.pattern.beforeStop?.any fun p =>
    p.hasShapes && p.shapes.all fun shape => p.shapes.all fun other =>
      shape.cut == other.cut || LetterSet.clash shape.letters.reverse other.letters.reverse

variable {rule : Rule} {index : Nat} {word : List Char}

private theorem shapes_of_hasClauses (ruled : rule.hasClauses = true) (index : Nat) :
    ∃ p, rule.pattern.beforeStop? = some p ∧ p.hasShapes = true ∧
      rule.clauses index = p.shapes.map (.ofShape index rule.replacement) ∧
      ∀ shape ∈ p.shapes, ∀ other ∈ p.shapes,
        shape.cut = other.cut ∨ LetterSet.clash shape.letters.reverse other.letters.reverse := by
  rw [hasClauses] at ruled
  cases stops : rule.pattern.beforeStop? with
  | none => simp [stops] at ruled
  | some p =>
    simp only [stops, Option.any_some, Bool.and_eq_true, List.all_eq_true, Bool.or_eq_true,
      beq_iff_eq] at ruled
    exact ⟨p, rfl, ruled.1, by rw [clauses, stops], ruled.2⟩

/-- A rule does not apply to a word that none of its clauses fits. -/
theorem match?_eq_none_iff (ruled : rule.hasClauses = true) (index : Nat) (word : List Char) :
    rule.match? word = none ↔ ∀ clause ∈ rule.clauses index, clause.fits word = false := by
  obtain ⟨p, stops, shaped, clausesEq, -⟩ := shapes_of_hasClauses ruled index
  rw [match?, Option.map_eq_none_iff, clausesEq, List.forall_mem_map]
  exact Pattern.find?_eq_none_iff stops shaped index rule.replacement

private theorem index_of_mem_clauses {clause : Clause} (member : clause ∈ rule.clauses index) :
    clause.index = index := by
  rw [clauses] at member
  split at member
  · obtain ⟨shape, -, rfl⟩ := List.mem_map.mp member
    rfl
  · cases member

private theorem rdrop_length_sub (lead ending : List Char) (size : Nat) :
    (lead ++ ending).rdrop (ending.length - size) = lead ++ ending.take size := by
  rw [List.rdrop, List.length_append, List.take_append, List.take_of_length_le (by omega)]
  congr 1
  rcases Nat.le_total size ending.length with within | beyond
  · congr 1
    omega
  · rw [List.take_of_length_le (by omega), List.take_of_length_le beyond]

/-- A rule that applies to a word makes the edit of each of its clauses that fit the word. -/
theorem build_eq_of_fits (ruled : rule.hasClauses = true) {lead kept : List Char}
    (matched : rule.match? word = some (lead, kept)) {clause : Clause}
    (member : clause ∈ rule.clauses index) (fitting : clause.fits word = true) :
    rule.build lead kept = clause.edit.apply word := by
  obtain ⟨p, stops, shaped, clausesEq, agree⟩ := shapes_of_hasClauses ruled index
  rw [clausesEq, List.mem_map] at member
  obtain ⟨other, otherMember, rfl⟩ := member
  obtain ⟨found, search, parts⟩ := Option.map_eq_some_iff.mp matched
  obtain ⟨rfl, rfl⟩ := Prod.mk.inj parts
  obtain ⟨split, shape, shapeMember, described⟩ := Pattern.exists_shape_of_find? stops shaped search
  have shapeFits : (Clause.ofShape index rule.replacement shape).fits word = true :=
    (Clause.fits_ofShape index rule.replacement).mpr ⟨_, _, split, described.place, described.letters⟩
  have sameCut : shape.cut = other.cut := by
    refine (agree shape shapeMember other otherMember).resolve_right fun clash => ?_
    rw [Clause.fits, Clause.fitsReversed, Clause.ofShape, Place.not_fits_of_clash clash shapeFits] at fitting
    cases fitting
  have keptEq : found.kept = found.outcome.taken.take (shape.kept.getD 0) := by
    rw [Match.kept, described.kept]
    cases shape.kept <;> rfl
  rw [build, Clause.ofShape, Edit.apply, ← sameCut, Shape.cut, ← described.letters.length_eq, keptEq,
    split, rdrop_length_sub]

end Rule

namespace Table

def clausesFrom (index : Nat) : List Rule → List Clause
  | [] => []
  | rule :: rest => rule.clauses index ++ clausesFrom (index + 1) rest

def clauses (table : Table) : List Clause :=
  clausesFrom 0 table.rules

/-- Whether the clauses of a table say what it does. -/
def hasClauses (table : Table) : Bool :=
  table.rules.all (·.hasClauses)

/-- The effect of the first clause that fits a word. -/
def effect? (table : Table) (word : List Char) : Option Effect :=
  (table.clauses.find? (·.fits word)).map (·.toEffect)

variable {table : Table} {word : List Char}

private theorem firstFrom?_eq (word : List Char) (index : Nat) {rules : List Rule}
    (ruled : ∀ rule ∈ rules, rule.hasClauses = true) :
    match (clausesFrom index rules).find? (·.fits word) with
    | none => firstFrom? word index rules = none
    | some clause => ∃ application, firstFrom? word index rules = some application ∧
        application.index = clause.index ∧ application.result = clause.edit.apply word := by
  induction rules generalizing index with
  | nil => rfl
  | cons rule rules ih =>
    rw [List.forall_mem_cons] at ruled
    have unfit := Rule.match?_eq_none_iff ruled.1 index word
    rw [clausesFrom, List.find?_append, firstFrom?]
    cases first : (rule.clauses index).find? (·.fits word) with
    | none =>
      rw [unfit.mpr fun clause member => by simpa using List.find?_eq_none.mp first clause member]
      exact ih (index + 1) ruled.2
    | some clause =>
      have member := List.mem_of_find?_eq_some first
      have fitting : clause.fits word = true := by simpa using List.find?_some first
      cases matched : rule.match? word with
      | none => rw [unfit.mp matched clause member] at fitting; cases fitting
      | some parts =>
        exact ⟨_, rfl, (Rule.index_of_mem_clauses member).symm,
          Rule.build_eq_of_fits ruled.1 matched member fitting⟩

/-- No rule of a table applies to a word that no clause fits. -/
theorem first?_eq_none (ruled : table.hasClauses = true) (unfit : table.effect? word = none) :
    table.first? word = none := by
  have first := firstFrom?_eq word 0 (List.all_eq_true.mp ruled)
  rw [effect?, clauses, Option.map_eq_none_iff] at unfit
  rwa [unfit] at first

/-- The first clause that fits a word tells the rule that is applied to it, and its result. -/
theorem exists_application (ruled : table.hasClauses = true) {effect : Effect}
    (fitting : table.effect? word = some effect) :
    ∃ application, table.first? word = some application ∧
      application.index = effect.index ∧ application.result = effect.edit.apply word := by
  have first := firstFrom?_eq word 0 (List.all_eq_true.mp ruled)
  rw [effect?, clauses, Option.map_eq_some_iff] at fitting
  obtain ⟨clause, found, rfl⟩ := fitting
  rwa [found] at first

/-- The rule that is applied to a word is the one of the first clause that fits it. -/
theorem exists_effect_of_first? (ruled : table.hasClauses = true) {application : Application}
    (first : table.first? word = some application) :
    ∃ effect, table.effect? word = some effect ∧ application.index = effect.index ∧
      application.result = effect.edit.apply word := by
  cases fitting : table.effect? word with
  | none =>
    rw [first?_eq_none ruled fitting] at first
    cases first
  | some effect =>
    obtain ⟨other, applied, same⟩ := exists_application ruled fitting
    obtain rfl := Option.some.inj (first.symm.trans applied)
    exact ⟨effect, rfl, same⟩

/-- What holds of the rule that is applied holds of the rule at the place that the first fitting clause
tells. -/
theorem any_first?_eq (ruled : table.hasClauses = true) (check : Rule → Bool) :
    (table.first? word).any (check ·.rule) =
      (table.effect? word).any fun effect => table.rules[effect.index]?.any check := by
  cases first : table.effect? word with
  | none => rw [first?_eq_none ruled first, Option.any_none, Option.any_none]
  | some effect =>
    obtain ⟨application, applied, indexEq, -⟩ := exists_application ruled first
    have place := getElem?_of_first? applied
    rw [indexEq] at place
    rw [applied, Option.any_some, Option.any_some, place, Option.any_some]

def edit (table : Table) (word : List Char) : Edit :=
  Effect.editOf (table.effect? word)

/-- A table gives the form of a word that the first fitting clause tells. -/
theorem apply_eq (ruled : table.hasClauses = true) (word : List Char) :
    table.apply word = (table.edit word).apply word := by
  rw [apply, edit]
  cases first : table.effect? word with
  | none => rw [first?_eq_none ruled first, Effect.editOf, Option.elim_none, Edit.apply_nothing]
  | some effect =>
    obtain ⟨application, applied, -, result⟩ := exists_application ruled first
    rw [applied]
    exact result

end Table

end Inflection
