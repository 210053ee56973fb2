import Inflection.Proofs.Ending.Known

/-! # Surveys of all words

A survey reads words from their ends and sorts them by their letters, as far as the clauses of a list
tell letters apart, until it is settled which clause is the first to fit. A condition that the survey
checks in each of these cases, where it knows the last letters of the word, holds of every word over
the alphabet.

Surveys are evaluated by the kernel. Where a number is matched on, that is to have it evaluated once.
The surveys that a proof needs are best checked together, in one theorem.
-/

namespace Inflection

namespace LetterSet

def isSingle (set : LetterSet) : Bool :=
  Nat.beq (Nat.land set.bits (Nat.pred set.bits)) 0

/-- Checks a condition for the part of a set inside another and one for the part outside it, where
these parts are not empty. -/
def split (set other : LetterSet) (inside outside : LetterSet → Bool) : Bool :=
  match (set.meet other).bits with
  | 0 => outside set
  | common + 1 =>
    match (set.without other).bits with
    | 0 => inside set
    | others + 1 => inside ⟨common + 1⟩ && outside ⟨others + 1⟩

variable {set other : LetterSet} {c : Char}

private theorem mem_of_bits {bits : Nat} (same : set.bits = bits) (member : c ∈ set) :
    c ∈ LetterSet.mk bits := by
  rwa [mem_def, ← same]

private theorem not_mem_of_bits (empty : set.bits = 0) : c ∉ set :=
  not_mem_of_isEmpty (by rw [isEmpty, empty]; rfl)

private theorem of_split {inside outside : LetterSet → Bool} (checked : set.split other inside outside = true)
    (member : c ∈ set) : ∃ part, c ∈ part ∧ (inside part = true ∨ outside part = true) := by
  rw [split] at checked
  split at checked
  · exact ⟨set, member, .inr checked⟩
  · next common commonBits =>
    split at checked
    · exact ⟨set, member, .inl checked⟩
    · next others othersBits =>
      rw [Bool.and_eq_true] at checked
      by_cases inside : c ∈ other
      · exact ⟨_, mem_of_bits commonBits (mem_meet.mpr ⟨member, inside⟩), .inl checked.1⟩
      · exact ⟨_, mem_of_bits othersBits (mem_without.mpr ⟨member, inside⟩), .inr checked.2⟩

end LetterSet

namespace Clause

/-- The letters with which a word that fits may end; a word without letters is not considered. -/
def last (clause : Clause) : LetterSet :=
  match clause.letters, clause.place with
  | set :: _, _ => set
  | [], .anywhere => .all
  | [], .start => .none
  | [], .boundary => .outsideWords

/-- What the clause asks of a word before its last letter. -/
def before (clause : Clause) : Clause :=
  match clause.letters, clause.place with
  | _ :: sets, _ => { clause with letters := sets }
  | [], .boundary => { clause with place := .anywhere }
  | [], _ => clause

/-- Whether the clause asks nothing of a word. -/
def isSettled (clause : Clause) : Bool :=
  match clause.letters, clause.place with
  | [], .anywhere => true
  | _, _ => false

@[simp]
theorem toEffect_before (clause : Clause) : clause.before.toEffect = clause.toEffect := by
  unfold before
  split <;> rfl

private theorem fitsReversed_cons (clause : Clause) (c : Char) (word : List Char) :
    clause.fitsReversed (c :: word) =
      (decide (c ∈ clause.last) && clause.before.fitsReversed word) := by
  obtain ⟨effect, place, _ | ⟨set, sets⟩⟩ := clause
  · cases place with
    | anywhere => simp [fitsReversed, last, before, Place.fits, Place.admits]
    | start => simp [fitsReversed, last, Place.fits, Place.admits]
    | boundary =>
      simp only [fitsReversed, last, before, Place.fits, Place.admits, List.head?_cons,
        Pattern.isWordNeighbour, Option.elim_some, LetterSet.mem_outsideWords, Bool.and_true]
      cases Text.isWordChar c <;> rfl
  · rfl

private theorem fitsReversed_of_isSettled {clause : Clause} (settled : clause.isSettled = true)
    (word : List Char) : clause.fitsReversed word = true := by
  unfold isSettled at settled
  split at settled
  · next letters place => rw [fitsReversed, letters, place]; cases word <;> rfl
  · cases settled

/-- What remains of clauses for the words with a last letter in the set, provided that each clause
takes all letters of the set or none. -/
def advance (set : LetterSet) : List Clause → Option (List Clause)
  | [] => some []
  | clause :: clauses =>
    match (set.meet clause.last).bits with
    | 0 => advance set clauses
    | _ + 1 =>
      match (set.without clause.last).bits, clause.before.isSettled with
      | 0, true => some [clause.before]
      | 0, false => (advance set clauses).map (clause.before :: ·)
      | _ + 1, _ => none

/-- The effect of the first clause that fits a word, which is read from its end. -/
def firstEffect? (clauses : List Clause) (word : List Char) : Option Effect :=
  (clauses.find? (·.fitsReversed word)).map (·.toEffect)

private theorem firstEffect?_cons (clause : Clause) (clauses : List Clause) (word : List Char) :
    firstEffect? (clause :: clauses) word =
      if clause.fitsReversed word then some clause.toEffect else firstEffect? clauses word := by
  rw [firstEffect?, List.find?_cons]
  cases clause.fitsReversed word <;> rfl

/-- Advancing clauses does not change which of them is the first to fit. -/
theorem firstEffect?_advance {set : LetterSet} {clauses earlier : List Clause} {c : Char}
    (advanced : advance set clauses = some earlier) (member : c ∈ set) (word : List Char) :
    firstEffect? clauses (c :: word) = firstEffect? earlier word := by
  induction clauses generalizing earlier with
  | nil =>
    obtain rfl := Option.some.inj advanced
    rfl
  | cons clause clauses ih =>
    rw [advance] at advanced
    rw [firstEffect?_cons, fitsReversed_cons]
    split at advanced
    · next apart =>
      have outside : c ∉ clause.last := fun inside =>
        LetterSet.not_mem_of_bits apart (LetterSet.mem_meet.mpr ⟨member, inside⟩)
      rw [decide_eq_false outside, Bool.false_and, if_neg Bool.false_ne_true]
      exact ih advanced
    · have inside : (set.without clause.last).bits = 0 → c ∈ clause.last := by
        intro within
        by_contra outside
        exact LetterSet.not_mem_of_bits within (LetterSet.mem_without.mpr ⟨member, outside⟩)
      split at advanced
      · -- The clause fits every word now, so the clauses after it do not count.
        next within settled =>
        obtain rfl := Option.some.inj advanced
        rw [decide_eq_true (inside within), Bool.true_and, firstEffect?_cons,
          fitsReversed_of_isSettled settled, if_pos rfl, if_pos rfl, toEffect_before]
      · next within _ =>
        obtain ⟨rest, restAdvanced, rfl⟩ := Option.map_eq_some_iff.mp advanced
        rw [decide_eq_true (inside within), Bool.true_and, firstEffect?_cons, toEffect_before,
          ih restAdvanced]
      · cases advanced

/-- Checks a condition for parts of a set that each clause takes as a whole or not at all. -/
def narrow : List Clause → LetterSet → (LetterSet → Bool) → Bool
  | [], set, check => check set
  | clause :: clauses, set, check =>
    set.split clause.last (fun part => narrow clauses part check) fun part =>
      narrow clauses part check

/-- Checks a condition as `narrow` does. A single kind of characters needs no narrowing. -/
def sort (clauses : List Clause) (set : LetterSet) (check : LetterSet → Bool) : Bool :=
  match set.isSingle with
  | true => check set
  | false => narrow clauses set check

variable {clauses : List Clause} {set : LetterSet} {check : LetterSet → Bool} {c : Char}

private theorem of_narrow (checked : narrow clauses set check = true) (member : c ∈ set) :
    ∃ part, c ∈ part ∧ check part = true := by
  induction clauses generalizing set with
  | nil => exact ⟨set, member, checked⟩
  | cons clause clauses ih =>
    obtain ⟨part, partMember, checked | checked⟩ := LetterSet.of_split checked member
    · exact ih checked partMember
    · exact ih checked partMember

private theorem of_sort (checked : sort clauses set check = true) (member : c ∈ set) :
    ∃ part, c ∈ part ∧ check part = true := by
  rw [sort] at checked
  split at checked
  · exact ⟨set, member, checked⟩
  · exact of_narrow checked member

end Clause

namespace Known

/-- Checks a condition for the effect of the first clause that fits a word, in every case that can be.
The fuel bounds the number of letters that are looked at. -/
def survey (alphabet : LetterSet) :
    Nat → (Option Effect → Known → Bool) → List Clause → Known → Bool
  | 0, _, _, _ => false
  | _ + 1, check, [], known => check none known
  | fuel + 1, check, clause :: clauses, known =>
    match clause.isSettled with
    | true => check (some clause.toEffect) known
    | false =>
      known.look alphabet (check (Clause.firstEffect? (clause :: clauses) []) ended) fun last before =>
        Clause.sort (clause :: clauses) last fun part =>
          match Clause.advance part (clause :: clauses) with
          | none => false
          | some earlier =>
            survey alphabet fuel (fun effect known => check effect (letter part known)) earlier before

variable {alphabet : LetterSet} {known : Known} {word : List Char}

/-- What a survey checks holds of the effect of the first clause that fits a word, with what is known of
the word then. -/
theorem of_survey {check : Option Effect → Known → Bool} {fuel : Nat} {clauses : List Clause}
    (covers : known.Covers alphabet word) (checked : survey alphabet fuel check clauses known = true) :
    ∃ settled : Known, settled.Covers alphabet word ∧
      check (Clause.firstEffect? clauses word) settled = true := by
  induction fuel generalizing check clauses known word with
  | zero => cases checked
  | succ fuel ih =>
    cases clauses with
    | nil => exact ⟨known, covers, checked⟩
    | cons clause clauses =>
      rw [survey] at checked
      split at checked
      · next settled =>
        refine ⟨known, covers, ?_⟩
        rwa [Clause.firstEffect?, List.find?_cons, Clause.fitsReversed_of_isSettled settled]
      · obtain ⟨rfl, none⟩ | ⟨c, rest, last, before, rfl, member, coversRest, looked⟩ :=
          of_look covers checked
        · exact ⟨ended, rfl, none⟩
        · obtain ⟨part, partMember, advanced⟩ := Clause.of_sort looked member
          split at advanced
          · cases advanced
          · next earlier advance =>
            obtain ⟨settled, coversSettled, checked⟩ := ih coversRest advanced
            refine ⟨letter part settled, ⟨partMember, coversSettled⟩, ?_⟩
            rwa [Clause.firstEffect?_advance advance partMember]

end Known

/-- The number of last letters that surveys may look at. -/
def surveyDepth : Nat :=
  40

variable {alphabet : LetterSet} {known : Known} {word : List Char}

/-- Checks a condition on whether a word ends in the pattern. -/
def Pattern.survey (p : Pattern) (alphabet : LetterSet) (check : Bool → Known → Bool) (known : Known) :
    Bool :=
  Known.survey alphabet surveyDepth (fun effect settled => check effect.isSome settled) p.clauses known

/-- A condition that a survey checks holds of every word, with whether the word ends in the pattern. -/
theorem Pattern.of_survey {p : Pattern} (shaped : p.hasShapes = true) {check : Bool → Known → Bool}
    (covers : known.Covers alphabet word.reverse) (checked : p.survey alphabet check known = true) :
    ∃ settled : Known, settled.Covers alphabet word.reverse ∧
      check (p.endsIn word) settled = true := by
  obtain ⟨settled, coversSettled, checked⟩ := Known.of_survey covers checked
  rw [Clause.firstEffect?, Option.isSome_map] at checked
  rw [endsIn_eq shaped]
  exact ⟨settled, coversSettled, checked⟩

/-- Whether the same words end in either pattern, as far as a survey can tell. -/
def Pattern.endsAlike (p q : Pattern) : Bool :=
  p.hasShapes && q.hasShapes &&
    p.survey .all (fun found => q.survey .all fun other _ => found == other) .unknown

/-- Patterns that a survey takes for alike are endings of the same words. -/
theorem Pattern.endsIn_eq_of_endsAlike {p q : Pattern} (alike : p.endsAlike q = true)
    (word : List Char) : p.endsIn word = q.endsIn word := by
  simp only [endsAlike, Bool.and_eq_true] at alike
  obtain ⟨⟨shaped, shaped'⟩, surveyed⟩ := alike
  have start : Known.unknown.Covers .all word.reverse := fun c _ => LetterSet.mem_all c
  obtain ⟨known, covers, surveyed⟩ := of_survey shaped start surveyed
  obtain ⟨-, -, same⟩ := of_survey shaped' covers surveyed
  exact eq_of_beq same

/-- Checks a condition on which of several patterns a word ends in. -/
def Pattern.surveyAll (alphabet : LetterSet) :
    List Pattern → (List Bool → Known → Bool) → Known → Bool
  | [], check, known => check [] known
  | p :: patterns, check, known =>
    p.survey alphabet (fun found => surveyAll alphabet patterns fun others => check (found :: others))
      known

/-- A condition that is checked for several patterns holds of every word, with the patterns it ends in.
-/
theorem Pattern.of_surveyAll {patterns : List Pattern} (shaped : patterns.all (·.hasShapes) = true)
    {check : List Bool → Known → Bool} (covers : known.Covers alphabet word.reverse)
    (checked : surveyAll alphabet patterns check known = true) :
    ∃ settled : Known, settled.Covers alphabet word.reverse ∧
      check (patterns.map (·.endsIn word)) settled = true := by
  induction patterns generalizing check known with
  | nil => exact ⟨known, covers, checked⟩
  | cons p patterns ih =>
    rw [List.all_cons, Bool.and_eq_true] at shaped
    obtain ⟨settled, coversSettled, others⟩ := of_survey shaped.1 covers checked
    exact ih shaped.2 coversSettled others

/-- Checks a condition on the edit that a table makes. -/
def Table.survey (table : Table) (alphabet : LetterSet) (check : Edit → Known → Bool) (known : Known) :
    Bool :=
  Known.survey alphabet surveyDepth (fun effect settled => check (Effect.editOf effect) settled) table.clauses
    known

/-- A condition that a survey checks holds of every word, with the edit that the table makes to it. -/
theorem Table.of_survey {table : Table} {check : Edit → Known → Bool}
    (covers : known.Covers alphabet word.reverse) (checked : table.survey alphabet check known = true) :
    ∃ settled : Known, settled.Covers alphabet word.reverse ∧
      check (table.edit word) settled = true :=
  Known.of_survey covers checked

/-- A survey of all words of lower-case letters may start from knowing nothing. -/
theorem Known.covers_unknown_of_isLower (lower : ∀ c ∈ word, c.isLower = true) :
    unknown.Covers .letters word.reverse :=
  fun c member => LetterSet.mem_letters_of_isLower (lower c (List.mem_reverse.mp member))

/-- What is known of every word over an alphabet that has a last letter, one of a set. -/
theorem Known.covers_letter_unknown {set : LetterSet} {lead : List Char} {c : Char} (last : c ∈ set)
    (members : ∀ d ∈ lead, d ∈ alphabet) :
    (letter set unknown).Covers alphabet (lead ++ [c]).reverse := by
  rw [List.reverse_append]
  exact ⟨last, fun d member => members d (List.mem_reverse.mp member)⟩

end Inflection
