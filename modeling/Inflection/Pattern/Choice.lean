import Inflection.Pattern.Basic

/-! # Choices as they are written

Alternatives are rows of items. The items that all of them begin with are put in front of the choice,
and alternatives that then are single characters or classes make up one class. A class with a lone
member is a letter.
-/

namespace Inflection.Pattern

/-- The pattern for a class: a lone member is a letter like any other. -/
def ofClass (negated : Bool) (items : List ClassItem) : Pattern :=
  match negated, items.eraseDups with
  | false, [.one c] => char c
  | _, members => oneOf negated members

/-- Patterns in a row, without a trace of an empty row after the last one. -/
def inSequence (items : List Pattern) : Pattern :=
  items.foldr (fun item following => if following = empty then item else seq item following) empty

def isAtomic : Pattern → Bool
  | empty | char _ | oneOf .. | start | stop | stopLine | boundary => true
  | seq .. | alt .. | opt _ | capture _ => false

/-- The members of a class that takes the same characters as a row of items. -/
def classMembers? : List Pattern → Option (List ClassItem)
  | [char c] => some [.one c]
  | [oneOf false items] => some items
  | _ => none

/-- A choice among rows of items, which is one class if each of them takes one character. -/
def merged (alternatives : List (List Pattern)) : Pattern :=
  match alternatives.mapM classMembers? with
  | some members => oneOf false members.flatten.eraseDups
  | none => anyOf (alternatives.map inSequence)

/-- A choice between a row of items and others, with the items that all of them begin with in front. -/
def choiceAmong (others : List (List Pattern)) : List Pattern → List Pattern
  | [] => [merged ([] :: others)]
  | item :: rest =>
    if isAtomic item && others.all (·.head? == some item) then
      item :: choiceAmong (others.map List.tail) rest
    else [merged ((item :: rest) :: others)]

/-- The items for alternatives, of which there is at least one. -/
def choice : List (List Pattern) → List Pattern
  | [] => []
  | [only] => only
  | first :: others => choiceAmong others first

end Inflection.Pattern
