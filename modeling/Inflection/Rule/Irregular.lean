import Inflection.Rule.Table

/-! # Irregular pairs

An irregular word and its counterpart give two rules for each direction: the source form becomes the
target form, and the target form is kept. Both rules are for whole words. When the two forms begin
with the same letter, that letter is kept as it stands in the word, and with it its case.
-/

namespace Inflection

/-- The direction in which a table of pairs is read. -/
inductive Direction where
  /-- From the first form of each pair to the second. -/
  | forward
  /-- From the second form of each pair to the first. -/
  | backward
deriving DecidableEq, Repr

/-- The source form and the target form of a pair. -/
def Direction.orient (direction : Direction) (pair : List Char × List Char) :
    List Char × List Char :=
  match direction with
  | .forward => pair
  | .backward => pair.swap

/-- The rule for the source form `s :: source`, given that the target form is `t :: target`. -/
def irregularRule (s t : Char) (source target : List Char) : Rule :=
  if Text.lower s = Text.lower t then
    ⟨.start ++ .capture (.char s) ++ .ofChars source ++ .stop, target⟩
  else
    ⟨.start ++ .ofChars (s :: source) ++ .stop, t :: target⟩

/-- The two rules of one pair, unless one of its forms is empty. -/
def irregularRules? : List Char × List Char → Option (List Rule)
  | (s :: source, t :: target) =>
    some [irregularRule s t source target, .keep (.start ++ .ofChars (t :: target))]
  | _ => none

/-- The rules of all pairs in one direction, unless a form is empty. -/
def irregulars? (direction : Direction) (pairs : List (List Char × List Char)) :
    Option (List Rule) :=
  (pairs.mapM fun pair => irregularRules? (direction.orient pair)).map List.flatten

/-- The rules of pairs whose forms are known not to be empty. -/
def irregulars (direction : Direction) (pairs : List (String × String)) : List Rule :=
  (irregulars? direction (pairs.map fun (first, second) => (first.toList, second.toList))).getD []

end Inflection
