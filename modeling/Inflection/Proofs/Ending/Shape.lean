import Inflection.Pattern.Match
import Inflection.Proofs.Ending.LetterSet
import Mathlib.Data.List.Forall2

/-! # The shapes of a pattern

A pattern made of letters, classes of letters, choices and optional parts stands for finitely many
rows of letter sets. Each row is a shape: it says which characters a match takes, where the match may
begin, and how much of its beginning is kept. Patterns of other kinds have no shapes to reason with.
-/

namespace Inflection

/-- Where a stretch of a word may begin. -/
inductive Place where
  | anywhere
  /-- At the start of the word. -/
  | start
  /-- Where no character of a word comes before it. -/
  | boundary
deriving DecidableEq, Repr

/-- Whether a stretch may begin after the given character. -/
def Place.admits : Place → Option Char → Bool
  | anywhere, _ => true
  | start, before => before.isNone
  | boundary, before => !Pattern.isWordNeighbour before

/-- One way for a stretch of a word to be built: the place where it begins, its letters and the length
of the kept part at its beginning. -/
structure Shape where
  place : Place
  letters : List LetterSet
  kept : Option Nat
deriving DecidableEq, Repr

namespace Shape

def nothing : Shape :=
  ⟨.anywhere, [], none⟩

def one (set : LetterSet) : Shape :=
  ⟨.anywhere, [set], none⟩

def append (first second : Shape) : Shape :=
  ⟨if second.place = .anywhere then first.place else second.place,
    first.letters ++ second.letters, second.kept.or first.kept⟩

/-- Whether the row of two stretches has a shape: before a stretch with a kept part or a condition on
its place there can be no letters, and only one of them can have such a condition. -/
def composes (first second : Shape) : Bool :=
  first.kept.all (· ≤ first.letters.length) &&
    (second.kept.isNone || first.letters.isEmpty) &&
    (second.place == .anywhere || first.letters.isEmpty && first.place == .anywhere)

def beginsInWord (shape : Shape) : Bool :=
  shape.place == .anywhere &&
    match shape.letters with
    | [] => false
    | set :: _ => (set.meet .outsideWords).isEmpty

/-- Whether a match that follows the character `before` has the shape. -/
structure Describes (shape : Shape) (before : Option Char) (taken : List Char)
    (kept : Option (List Char)) : Prop where
  place : shape.place.admits before = true
  letters : List.Forall₂ (· ∈ ·) taken shape.letters
  kept : kept = shape.kept.map taken.take

/-- A stretch has the shape of a row if it is a row of stretches of these shapes. -/
theorem describes_append {first second : Shape} (composed : first.composes second = true)
    {before : Option Char} {taken : List Char} {kept : Option (List Char)} :
    (first.append second).Describes before taken kept ↔
      ∃ taken₁ taken₂ kept₁ kept₂, first.Describes before taken₁ kept₁ ∧
        second.Describes (taken₁.getLast?.or before) taken₂ kept₂ ∧
        taken = taken₁ ++ taken₂ ∧ kept = kept₂.or kept₁ := by
  simp only [composes, Bool.and_eq_true, Bool.or_eq_true, beq_iff_eq, Option.isNone_iff_eq_none,
    List.isEmpty_iff] at composed
  obtain ⟨⟨within, keptAtStart⟩, placeAtStart⟩ := composed
  -- The kept part of the first stretch is the same part of the whole row.
  have keptFirst : ∀ taken₁ taken₂ : List Char, List.Forall₂ (· ∈ ·) taken₁ first.letters →
      (second.kept.map taken₂.take).or (first.kept.map taken₁.take) =
        (second.kept.or first.kept).map (taken₁ ++ taken₂).take := by
    intro taken₁ taken₂ letters
    cases keeps : second.kept with
    | some size =>
      rw [keptAtStart.resolve_left (by simp [keeps]), List.forall₂_nil_right_iff] at letters
      simp [letters]
    | none =>
      cases keepsFirst : first.kept with
      | none => rfl
      | some size =>
        have bound : size ≤ taken₁.length := by
          simpa [keepsFirst, letters.length_eq] using within
        simp [List.take_append_of_le_length bound]
  constructor
  · rintro ⟨place, letters, rfl⟩
    obtain ⟨taken₁, taken₂, rfl, letters₁, letters₂⟩ : ∃ taken₁ taken₂, taken = taken₁ ++ taken₂ ∧
        List.Forall₂ (· ∈ ·) taken₁ first.letters ∧ List.Forall₂ (· ∈ ·) taken₂ second.letters :=
      ⟨_, _, (List.take_append_drop first.letters.length taken).symm,
        List.forall₂_take_append _ _ _ letters, List.forall₂_drop_append _ _ _ letters⟩
    have places : first.place.admits before = true ∧
        second.place.admits (taken₁.getLast?.or before) = true := by
      by_cases free : second.place = .anywhere
      · rw [free]
        exact ⟨by simpa [append, free] using place, rfl⟩
      · obtain ⟨empty, anywhere⟩ := placeAtStart.resolve_left free
        rw [empty, List.forall₂_nil_right_iff] at letters₁
        rw [anywhere, letters₁]
        exact ⟨rfl, by simpa [append, free] using place⟩
    exact ⟨taken₁, taken₂, _, _, ⟨places.1, letters₁, rfl⟩, ⟨places.2, letters₂, rfl⟩, rfl,
      (keptFirst taken₁ taken₂ letters₁).symm⟩
  · rintro ⟨taken₁, taken₂, kept₁, kept₂, ⟨place₁, letters₁, rfl⟩, ⟨place₂, letters₂, rfl⟩, rfl, rfl⟩
    refine ⟨?_, List.rel_append letters₁ letters₂, keptFirst taken₁ taken₂ letters₁⟩
    by_cases free : second.place = .anywhere
    · simpa [append, free] using place₁
    · obtain ⟨empty, -⟩ := placeAtStart.resolve_left free
      rw [empty, List.forall₂_nil_right_iff] at letters₁
      simpa [append, free, letters₁] using place₂

end Shape

namespace Pattern

def isBoundary : Pattern → Bool
  | boundary => true
  | _ => false

def shapes : Pattern → List Shape
  | empty => [.nothing]
  | char c => [.one (.letter c)]
  | oneOf negated items =>
    [.one (if negated then .without .all (.ofItems items) else .ofItems items)]
  | seq first second => first.shapes.flatMap fun s => second.shapes.map s.append
  | alt first second => first.shapes ++ second.shapes
  | opt inner => inner.shapes ++ [.nothing]
  | capture inner => inner.shapes.map fun s => { s with kept := some s.letters.length }
  | start => [⟨.start, [], none⟩]
  | boundary => [⟨.boundary, [], none⟩]
  | stop | stopLine => []

/-- Whether the shapes of a pattern say how it matches. A boundary has to be followed by a letter. -/
def hasShapes : Pattern → Bool
  | empty | start => true
  | char c => c.isLower
  | oneOf _ items => LetterSet.areLetters items
  | seq first second =>
    second.hasShapes &&
      if first.isBoundary then second.shapes.all (·.beginsInWord)
      else first.hasShapes && first.shapes.all fun s => second.shapes.all s.composes
  | alt first second => first.hasShapes && second.hasShapes
  | opt inner | capture inner => inner.hasShapes
  | stop | stopLine | boundary => false

variable {before : Option Char} {text : List Char} {found : Outcome}

private theorem mem_here {condition : Bool} :
    found ∈ here condition text ↔ condition = true ∧ found = ⟨[], text, none⟩ := by
  rw [here]
  split <;> simp_all

private theorem mem_takeOne {condition : Char → Bool} :
    found ∈ takeOne condition text ↔
      ∃ c rest, text = c :: rest ∧ condition c = true ∧ found = ⟨[c], rest, none⟩ := by
  cases text with
  | nil => simp [takeOne]
  | cons c rest =>
    simp only [takeOne, List.cons.injEq]
    split
    · next holds =>
      rw [List.mem_singleton]
      constructor
      · rintro rfl
        exact ⟨c, rest, ⟨rfl, rfl⟩, holds, rfl⟩
      · rintro ⟨_, _, ⟨rfl, rfl⟩, -, rfl⟩
        rfl
    · next fails =>
      simp only [List.not_mem_nil, false_iff]
      rintro ⟨_, _, ⟨rfl, rfl⟩, holds, -⟩
      exact fails holds

private theorem mem_takeOne_iff (set : LetterSet) {condition : Char → Bool}
    (same : ∀ c, condition c = true ↔ c ∈ set) :
    found ∈ takeOne condition text ↔
      found.taken ++ found.rest = text ∧ (Shape.one set).Describes before found.taken found.kept := by
  rw [mem_takeOne]
  constructor
  · rintro ⟨c, rest, rfl, holds, rfl⟩
    exact ⟨rfl, rfl, .cons ((same c).mp holds) .nil, rfl⟩
  · rintro ⟨rfl, -, letters, kept⟩
    obtain ⟨taken, rest, kept'⟩ := found
    obtain ⟨c, _, member, nothing, rfl⟩ := List.forall₂_cons_right_iff.mp letters
    obtain rfl := List.forall₂_nil_right_iff.mp nothing
    exact ⟨c, rest, rfl, (same c).mpr member, congrArg (Outcome.mk [c] rest) kept⟩

private theorem mem_here_iff (place : Place) :
    found ∈ here (place.admits before) text ↔
      found.taken ++ found.rest = text ∧
        (Shape.mk place [] none).Describes before found.taken found.kept := by
  rw [mem_here]
  constructor
  · rintro ⟨admitted, rfl⟩
    exact ⟨rfl, admitted, .nil, rfl⟩
  · rintro ⟨rfl, admitted, letters, kept⟩
    obtain ⟨taken, rest, kept'⟩ := found
    obtain rfl := List.forall₂_nil_right_iff.mp letters
    exact ⟨admitted, congrArg (Outcome.mk [] rest) kept⟩

private theorem describes_boundary {shape : Shape} (begins : shape.beginsInWord = true)
    {taken rest : List Char} {kept : Option (List Char)} (split : taken ++ rest = text) :
    ((Shape.mk .boundary [] none).append shape).Describes before taken kept ↔
      (isWordNeighbour before != isWordNeighbour text.head?) = true ∧
        shape.Describes before taken kept := by
  obtain ⟨place, letters, size⟩ := shape
  simp only [Shape.beginsInWord, Bool.and_eq_true, beq_iff_eq] at begins
  obtain ⟨rfl, begins⟩ := begins
  have atLetter : List.Forall₂ (· ∈ ·) taken letters → isWordNeighbour text.head? = true := by
    intro members
    cases members with
    | nil => simp at begins
    | cons member members =>
      rw [← split]
      have outside := LetterSet.not_mem_of_meet begins member
      rw [LetterSet.mem_outsideWords, Bool.not_eq_false] at outside
      exact outside
  constructor
  · rintro ⟨admitted, members, rfl⟩
    rw [atLetter members]
    exact ⟨by simpa [Shape.append, Place.admits] using admitted, rfl, members, by simp [Shape.append]⟩
  · rintro ⟨apart, -, members, rfl⟩
    rw [atLetter members] at apart
    exact ⟨by simpa [Shape.append, Place.admits] using apart, members, by simp [Shape.append]⟩

/-- The ways in which a pattern matches the beginning of a text are those of its shapes. -/
theorem mem_outcomes_iff {p : Pattern} (shaped : p.hasShapes = true) :
    found ∈ p.outcomes before text ↔ found.taken ++ found.rest = text ∧
      ∃ shape ∈ p.shapes, shape.Describes before found.taken found.kept := by
  induction p generalizing before text found with
  | stop | stopLine | boundary => simp [hasShapes] at shaped
  | empty =>
    simp only [outcomes, shapes, List.mem_singleton, exists_eq_left]
    exact mem_here_iff .anywhere
  | start =>
    simp only [outcomes, shapes, List.mem_singleton, exists_eq_left]
    exact mem_here_iff .start
  | char c =>
    simp only [outcomes, shapes, List.mem_singleton, exists_eq_left]
    exact mem_takeOne_iff _ fun d => (LetterSet.mem_letter shaped).symm
  | oneOf negated items =>
    simp only [outcomes, shapes, List.mem_singleton, exists_eq_left]
    refine mem_takeOne_iff _ fun c => ?_
    have members := LetterSet.mem_ofItems shaped c
    cases negated <;> simp [members]
  | alt first second firstIh secondIh =>
    simp only [hasShapes, Bool.and_eq_true] at shaped
    simp only [outcomes, shapes, List.mem_append, firstIh shaped.1, secondIh shaped.2, or_and_right,
      exists_or, and_or_left]
  | opt inner ih =>
    simp only [outcomes, shapes, List.mem_append, ih shaped, List.mem_singleton, or_and_right,
      exists_or, and_or_left, exists_eq_left]
    exact or_congr_right (mem_here_iff .anywhere)
  | capture inner ih =>
    simp only [outcomes, shapes, List.mem_map]
    constructor
    · rintro ⟨a, member, rfl⟩
      obtain ⟨split, shape, shapeMember, place, letters, -⟩ := (ih shaped).mp member
      refine ⟨split, _, ⟨shape, shapeMember, rfl⟩, place, letters, ?_⟩
      simp [← letters.length_eq]
    · rintro ⟨split, _, ⟨shape, shapeMember, rfl⟩, place, letters, kept⟩
      obtain ⟨taken, rest, kept'⟩ := found
      refine ⟨⟨taken, rest, shape.kept.map taken.take⟩, (ih shaped).mpr
        ⟨split, shape, shapeMember, place, letters, rfl⟩, ?_⟩
      have whole : kept' = some taken := by simpa [← letters.length_eq] using kept
      rw [whole]
  | seq first second firstIh secondIh =>
    simp only [hasShapes, Bool.and_eq_true] at shaped
    obtain ⟨secondShaped, shaped⟩ := shaped
    simp only [outcomes, shapes, List.mem_flatMap, List.mem_map]
    -- A boundary has no shape of its own and is taken together with what follows it.
    split at shaped
    · next boundary =>
      obtain rfl : first = .boundary := by
        cases first <;> simp [isBoundary] at boundary
        rfl
      simp only [outcomes, shapes, mem_here, List.mem_singleton, List.all_eq_true] at shaped ⊢
      constructor
      · rintro ⟨_, ⟨apart, rfl⟩, b, member, rfl⟩
        obtain ⟨split, shape, shapeMember, described⟩ := (secondIh secondShaped).mp member
        refine ⟨split, _, ⟨_, rfl, shape, shapeMember, rfl⟩, ?_⟩
        simp only [List.nil_append, Option.or_none]
        exact (describes_boundary (shaped shape shapeMember) split).mpr ⟨apart, described⟩
      · rintro ⟨split, _, ⟨_, rfl, shape, shapeMember, rfl⟩, described⟩
        rw [describes_boundary (shaped shape shapeMember) split] at described
        refine ⟨⟨[], text, none⟩, ⟨described.1, rfl⟩, found, ?_, by simp⟩
        exact (secondIh secondShaped).mpr ⟨split, shape, shapeMember, described.2⟩
    · next =>
      simp only [Bool.and_eq_true, List.all_eq_true] at shaped
      obtain ⟨firstShaped, composed⟩ := shaped
      constructor
      · rintro ⟨a, firstMember, b, secondMember, rfl⟩
        obtain ⟨split, s, sMember, firstDescribed⟩ := (firstIh firstShaped).mp firstMember
        obtain ⟨rest, t, tMember, secondDescribed⟩ := (secondIh secondShaped).mp secondMember
        refine ⟨by rw [List.append_assoc, rest, split], _, ⟨s, sMember, t, tMember, rfl⟩, ?_⟩
        rw [Shape.describes_append (composed s sMember t tMember)]
        exact ⟨_, _, _, _, firstDescribed, secondDescribed, rfl, rfl⟩
      · rintro ⟨split, _, ⟨s, sMember, t, tMember, rfl⟩, described⟩
        rw [Shape.describes_append (composed s sMember t tMember)] at described
        obtain ⟨taken₁, taken₂, kept₁, kept₂, firstDescribed, secondDescribed, takenEq, keptEq⟩ :=
          described
        obtain ⟨taken, rest, kept⟩ := found
        subst takenEq keptEq
        refine ⟨⟨taken₁, taken₂ ++ rest, kept₁⟩, (firstIh firstShaped).mpr
          ⟨by rw [← split, List.append_assoc], s, sMember, firstDescribed⟩,
          ⟨taken₂, rest, kept₂⟩, (secondIh secondShaped).mpr
          ⟨rfl, t, tMember, secondDescribed⟩, rfl⟩

/-- The pattern in front of the end of a word, for a pattern that stops there. -/
def beforeStop? : Pattern → Option Pattern
  | seq p stop => some p
  | stop => some empty
  | _ => none

/-- A pattern that stops at the end of a word matches as what is before the stop does, with nothing
after it. -/
theorem mem_outcomes_beforeStop {p q : Pattern} (stops : p.beforeStop? = some q) :
    found ∈ p.outcomes before text ↔ found ∈ q.outcomes before text ∧ found.rest = [] := by
  unfold beforeStop? at stops
  split at stops
  · obtain rfl := Option.some.inj stops
    simp only [outcomes, List.mem_flatMap, List.mem_map, mem_here, List.isEmpty_iff]
    constructor
    · rintro ⟨⟨taken, rest, kept⟩, member, _, ⟨rfl, rfl⟩, rfl⟩
      simpa using member
    · rintro ⟨member, ended⟩
      exact ⟨found, member, ⟨[], found.rest, none⟩, ⟨ended, rfl⟩, by simp⟩
  · obtain rfl := Option.some.inj stops
    simp only [outcomes, mem_here, List.isEmpty_iff, true_and]
    constructor
    · rintro ⟨rfl, rfl⟩
      exact ⟨rfl, rfl⟩
    · rintro ⟨rfl, ended⟩
      exact ⟨ended, rfl⟩
  · cases stops

/-- A pattern without a match in a text has none at any place of it. -/
theorem findFrom?_eq_none_iff {p : Pattern} :
    p.findFrom? before text = none ↔ ∀ lead rest, text = lead ++ rest →
      p.outcomes (lead.getLast?.or before) rest = [] := by
  induction text generalizing before with
  | nil =>
    simp only [findFrom?, Option.map_eq_none_iff, List.head?_eq_none_iff]
    constructor
    · intro none lead rest split
      obtain ⟨rfl, rfl⟩ := List.append_eq_nil_iff.mp split.symm
      exact none
    · exact fun none => none [] [] rfl
  | cons c text ih =>
    simp only [findFrom?]
    split
    · next best others ways =>
      simp only [reduceCtorEq, false_iff]
      intro none
      have := none [] (c :: text) rfl
      simp [ways] at this
    · next ways =>
      rw [Option.map_eq_none_iff, ih]
      constructor
      · intro none lead rest split
        cases lead with
        | nil =>
          obtain rfl := split
          exact ways
        | cons d lead =>
          obtain ⟨rfl, rfl⟩ := List.cons.inj split
          simpa [List.getLast?_cons, Option.or_assoc] using none lead rest rfl
      · intro none lead rest split
        have := none (c :: lead) rest (by rw [split, List.cons_append])
        simpa [List.getLast?_cons] using this

/-- A match found in a text is one of the ways to match at its place. -/
theorem outcome_mem_of_findFrom? {p : Pattern} {m : Match}
    (matched : p.findFrom? before text = some m) :
    m.outcome ∈ p.outcomes (m.lead.getLast?.or before) (m.outcome.taken ++ m.outcome.rest) := by
  induction text generalizing before m with
  | nil =>
    simp only [findFrom?, Option.map_eq_some_iff] at matched
    obtain ⟨best, first, rfl⟩ := matched
    have member := List.mem_of_head? first
    rwa [← taken_append_rest member] at member
  | cons c text ih =>
    simp only [findFrom?] at matched
    split at matched
    · next best others ways =>
      obtain rfl := Option.some.inj matched
      have member : best ∈ p.outcomes before (c :: text) := by simp [ways]
      rwa [← taken_append_rest member] at member
    · obtain ⟨later, found, rfl⟩ := Option.map_eq_some_iff.mp matched
      have member := ih found
      simpa [List.getLast?_cons] using member

end Pattern

end Inflection
