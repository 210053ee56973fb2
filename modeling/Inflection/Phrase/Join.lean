import Inflection.Text.Blank

/-! # Joining words

Words are joined into a phrase with a conjunction before the last one: "one, two, and three". In the
phrase every run of blanks shrinks to its first character, and in a phrase of three words or more
no blank stays before a comma.
-/

namespace Inflection.Phrase

/-- How words are joined. Without a final separator, the separator stands before the conjunction. -/
structure Style where
  separator : List Char := ", ".toList
  conjunctive : List Char := "and".toList
  finalSeparator : Option (List Char) := none
deriving DecidableEq, Repr

/-- Shrinks runs of blanks; after a blank, the text goes on with something else. -/
def collapseFrom (afterBlank : Bool) : List Char → List Char
  | [] => []
  | c :: rest =>
    if afterBlank && Text.isBlank c then collapseFrom true rest
    else c :: collapseFrom (Text.isBlank c) rest

/-- Shrinks every run of blanks to its first character. -/
def collapse (text : List Char) : List Char :=
  collapseFrom false text

/-- Removes the blanks that stand directly before a comma. -/
def tighten : List Char → List Char
  | [] => []
  | c :: rest =>
    let tight := tighten rest
    if Text.isBlank c && tight.head? == some ',' then tight else c :: tight

def Style.link (style : Style) : List Char :=
  ' ' :: style.conjunctive ++ [' ']

/-- The words with everything that stands between them, before any clean-up. -/
def raw (style : Style) (words : List (List Char)) : List Char :=
  if words.length ≤ 2 then style.link.intercalate words
  else
    style.separator.intercalate words.dropLast ++ style.finalSeparator.getD style.separator ++
      style.link ++ words.getLast?.getD []

def join (style : Style) (words : List (List Char)) : List Char :=
  let phrase := collapse (raw style words)
  if words.length ≤ 2 then phrase else tighten phrase

end Inflection.Phrase
