import Inflection.Pattern.Basic
import Inflection.Text.WordChar

/-! # Matching a pattern

`Pattern.outcomes` lists every way in which a pattern matches the beginning of a text, the preferred
way first. `Pattern.find?` takes the preferred way at the leftmost place of a word where there is
one, and splits the word there.
-/

namespace Inflection

/-- One way to match the beginning of a text: what was taken, what is left, and the kept part. -/
structure Outcome where
  taken : List Char
  rest : List Char
  kept : Option (List Char)
deriving DecidableEq, Repr

/-- A match within a word: the text before it, the way it matched, and so the text after it. -/
structure Match where
  lead : List Char
  outcome : Outcome
deriving DecidableEq, Repr

/-- The captured text, which is empty when nothing was captured. -/
def Match.kept (found : Match) : List Char :=
  found.outcome.kept.getD []

namespace Pattern

/-- Whether an optional neighbour of a place is a word character. -/
def isWordNeighbour (c : Option Char) : Bool :=
  c.elim false Text.isWordChar

/-- Takes nothing from the text if the condition holds. -/
def here (condition : Bool) (text : List Char) : List Outcome :=
  if condition then [⟨[], text, none⟩] else []

/-- Takes one character from the text if it satisfies the condition. -/
def takeOne (condition : Char → Bool) : List Char → List Outcome
  | [] => []
  | c :: rest => if condition c then [⟨[c], rest, none⟩] else []

/-- Every way to match the beginning of the text after the character `before`, best first. -/
def outcomes : Pattern → Option Char → List Char → List Outcome
  | empty, _, text => here true text
  | char c, _, text => takeOne (Text.sameLetter c) text
  | oneOf negated items, _, text => takeOne (fun c => classIncludes items c != negated) text
  | seq first second, before, text =>
    (first.outcomes before text).flatMap fun a =>
      (second.outcomes (a.taken.getLast?.or before) a.rest).map fun b =>
        ⟨a.taken ++ b.taken, b.rest, b.kept.or a.kept⟩
  | alt first second, before, text => first.outcomes before text ++ second.outcomes before text
  | opt inner, before, text => inner.outcomes before text ++ here true text
  | capture inner, before, text =>
    (inner.outcomes before text).map fun a => { a with kept := some a.taken }
  | start, before, text => here before.isNone text
  | stop, _, text => here text.isEmpty text
  | stopLine, _, text => here (text.isEmpty || text == ['\n']) text
  | boundary, before, text => here (isWordNeighbour before != isWordNeighbour text.head?) text

/-- The preferred match at the leftmost place of a text that follows the character `before`. -/
def findFrom? (p : Pattern) (before : Option Char) : List Char → Option Match
  | [] => (p.outcomes before []).head?.map (⟨[], ·⟩)
  | c :: rest =>
    match p.outcomes before (c :: rest) with
    | best :: _ => some ⟨[], best⟩
    | [] => (p.findFrom? (some c) rest).map fun found => { found with lead := c :: found.lead }

/-- The preferred match at the leftmost place of a word that has one. -/
def find? (p : Pattern) (word : List Char) : Option Match :=
  p.findFrom? none word

/-- What a way of matching took and what it left make up the text. -/
theorem taken_append_rest {p : Pattern} {before : Option Char} {text : List Char} {a : Outcome}
    (matched : a ∈ p.outcomes before text) : a.taken ++ a.rest = text := by
  induction p generalizing before text a with
  | char _ | oneOf _ _ =>
    cases text with
    | nil => simp [outcomes, takeOne] at matched
    | cons c rest =>
      simp only [outcomes, takeOne] at matched
      split at matched <;> simp_all
  | seq first second firstIh secondIh =>
    simp only [outcomes, List.mem_flatMap, List.mem_map] at matched
    obtain ⟨x, hx, y, hy, rfl⟩ := matched
    simp only [List.append_assoc, secondIh hy, firstIh hx]
  | alt first second firstIh secondIh =>
    simp only [outcomes, List.mem_append] at matched
    exact matched.elim firstIh secondIh
  | opt inner ih =>
    simp only [outcomes, List.mem_append] at matched
    exact matched.elim ih fun last => by simp_all [here]
  | capture inner ih =>
    simp only [outcomes, List.mem_map] at matched
    obtain ⟨x, hx, rfl⟩ := matched
    exact (ih hx : x.taken ++ x.rest = text)
  | empty => simp_all [outcomes, here]
  | start | stop | stopLine | boundary =>
    simp only [outcomes, here] at matched
    split at matched <;> simp_all

/-- A match found in a text splits it. -/
theorem lead_append_of_findFrom? {p : Pattern} {before : Option Char} {text : List Char}
    {found : Match} (matched : p.findFrom? before text = some found) :
    found.lead ++ (found.outcome.taken ++ found.outcome.rest) = text := by
  induction text generalizing before found with
  | nil =>
    simp only [findFrom?, Option.map_eq_some_iff] at matched
    obtain ⟨best, hbest, rfl⟩ := matched
    exact taken_append_rest (List.mem_of_head? hbest)
  | cons c rest ih =>
    simp only [findFrom?] at matched
    split at matched
    · next best others hbest =>
      obtain rfl := Option.some.inj matched
      exact taken_append_rest (by rw [hbest]; exact List.mem_cons_self)
    · obtain ⟨later, hlater, rfl⟩ := Option.map_eq_some_iff.mp matched
      exact congrArg (c :: ·) (ih hlater)

/-- A match found in a word splits it. -/
theorem lead_append_of_find? {p : Pattern} {word : List Char} {found : Match}
    (matched : p.find? word = some found) :
    found.lead ++ (found.outcome.taken ++ found.outcome.rest) = word :=
  lead_append_of_findFrom? matched

end Pattern

end Inflection
