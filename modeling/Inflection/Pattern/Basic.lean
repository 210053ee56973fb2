import Inflection.Text.Case

/-! # Patterns

A pattern describes a stretch of a word: letters without regard to case, classes of characters,
choices, optional parts, and conditions on the place where it is matched. One part of a pattern may
be captured: the text it matched is kept when the rest of the stretch is replaced.
-/

namespace Inflection

/-- A member of a character class: one character or a range of characters. -/
inductive ClassItem where
  | one (c : Char)
  | range (first last : Char)
deriving DecidableEq, Repr

/-- Whether a range has the character among those from `first` to `last`. -/
def inRange (first last c : Char) : Bool :=
  first ≤ c && c ≤ last

/-- Whether a range includes the character in any of its spellings. A range that reaches beyond the
basic plane also includes the letters whose capital form begins with a character of the range. -/
def rangeIncludes (first last c : Char) : Bool :=
  (Text.spellings c).any (inRange first last) ||
    (Text.isSupplementary last && (Text.laterCapitalStart? c).any (inRange first last))

/-- Whether an item that is not alone in its class includes the character. Case does not matter to a
member in the basic plane. A member beyond it is compared as it stands with the lower-case form of the
character, so that a capital there includes nothing. -/
def ClassItem.includes (item : ClassItem) (c : Char) : Bool :=
  match item with
  | .one member =>
    if Text.isSupplementary member then Text.toLower c == member else Text.sameLetter member c
  | .range first last => rangeIncludes first last c

/-- Whether a class includes the character. A lone member is compared like any letter of a pattern. -/
def classIncludes (items : List ClassItem) (c : Char) : Bool :=
  match items with
  | [.one member] => Text.sameLetter member c
  | _ => items.any (·.includes c)

/-- A description of a stretch of a word. -/
inductive Pattern where
  /-- Nothing at all. -/
  | empty
  /-- One character, in any case. -/
  | char (c : Char)
  /-- One character of a class, or one outside it when the class is negated. -/
  | oneOf (negated : Bool) (items : List ClassItem)
  /-- One pattern after the other. -/
  | seq (first second : Pattern)
  /-- The first pattern or else the second. -/
  | alt (first second : Pattern)
  /-- The pattern, or else nothing. -/
  | opt (inner : Pattern)
  /-- The pattern, whose text is kept. -/
  | capture (inner : Pattern)
  /-- The start of the word. -/
  | start
  /-- The very end of the word. -/
  | stop
  /-- The end of the word, or the place before a newline that ends it. -/
  | stopLine
  /-- A place between a word character and anything else. -/
  | boundary
deriving DecidableEq, Repr

namespace Pattern

instance : Append Pattern := ⟨seq⟩

def ofChars : List Char → Pattern
  | [] => empty
  | [c] => char c
  | c :: rest => seq (char c) (ofChars rest)

def word (letters : String) : Pattern :=
  ofChars letters.toList

/-- A choice among patterns, tried in order. -/
def anyOf : List Pattern → Pattern
  | [] => empty
  | [p] => p
  | p :: rest => alt p (anyOf rest)

def anyWord (words : List String) : Pattern :=
  anyOf (words.map word)

def letterOf (letters : String) : Pattern :=
  oneOf false (letters.toList.map .one)

/-- One character that is not among the letters of a text. -/
def letterNotOf (letters : String) : Pattern :=
  oneOf true (letters.toList.map .one)

def captures : Pattern → Nat
  | seq first second | alt first second => first.captures + second.captures
  | opt inner => inner.captures
  | capture inner => inner.captures + 1
  | _ => 0

end Pattern

end Inflection
