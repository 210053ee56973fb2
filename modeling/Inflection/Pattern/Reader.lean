import Inflection.Pattern.Choice

/-! # Patterns in writing

A pattern is written with its letters as they are, `[...]` and `[^...]` for classes with ranges such
as `a-c`, `|` between alternatives, `(...)` around a captured part and `(?:...)` around any other
group, `?` after an optional part, `^` for the start, `\Z` for the very end, `$` for the end before a
final newline, `\b` for a word boundary, and a backslash before any other sign that stands for
itself.
-/

namespace Inflection.Pattern

/-- The signs that need a backslash to stand for themselves. -/
def isSign (c : Char) : Bool :=
  ".^$*+?{}[]\\|()-/#&~ !\"%',:;<=>@_`\t\n\r\x0b\x0c".toList.contains c

def readMember? : List Char → Option (Char × List Char)
  | '\\' :: c :: rest => if isSign c then some (c, rest) else none
  | '\\' :: [] => none
  | c :: rest => some (c, rest)
  | [] => none

/-- Reads the members of a class up to the bracket that closes it; right after the opening, a
closing bracket is a member. -/
def readMembers? : Nat → Bool → List Char → Option (List ClassItem × List Char)
  | 0, _, _ => none
  | fuel + 1, opening, text =>
    match opening, text with
    | false, ']' :: rest => some ([], rest)
    | _, _ => do
      let (first, rest) ← readMember? text
      let (item, rest) ←
        match rest with
        | '-' :: ']' :: _ => some (.one first, rest)
        | '-' :: rest => do
          let (last, rest) ← readMember? rest
          if first ≤ last then some (.range first last, rest) else none
        | _ => some (.one first, rest)
      let (items, rest) ← readMembers? fuel false rest
      some (item :: items, rest)

def readClass? (text : List Char) : Option (Pattern × List Char) :=
  match text with
  | '^' :: rest => (readMembers? rest.length true rest).map fun (items, rest) =>
    (ofClass true items, rest)
  | _ => (readMembers? text.length true text).map fun (items, rest) => (ofClass false items, rest)

def readClosing? (items : List Pattern) : List Char → Option (List Pattern × List Char)
  | ')' :: rest => some (items, rest)
  | _ => none

mutual

/-- Reads alternatives up to the end of the text or of the group. -/
def readAlternatives? : Nat → List Char → Option (List (List Pattern) × List Char)
  | 0, _ => none
  | fuel + 1, text => do
    let (first, rest) ← readSequence? fuel text
    match rest with
    | '|' :: rest =>
      let (others, rest) ← readAlternatives? fuel rest
      some (first :: others, rest)
    | _ => some ([first], rest)

def readSequence? : Nat → List Char → Option (List Pattern × List Char)
  | 0, _ => none
  | fuel + 1, text =>
    match text with
    | [] | '|' :: _ | ')' :: _ => some ([], text)
    | _ => do
      let (items, rest) ← readItem? fuel text
      let (items, rest) :=
        match rest with
        | '?' :: rest => ([opt (inSequence items)], rest)
        | _ => (items, rest)
      let (following, rest) ← readSequence? fuel rest
      some (items ++ following, rest)

/-- Reads one item. A group that is not captured gives the items in it. -/
def readItem? : Nat → List Char → Option (List Pattern × List Char)
  | 0, _ => none
  | fuel + 1, text =>
    match text with
    | '(' :: '?' :: ':' :: rest => do
      let (alternatives, rest) ← readAlternatives? fuel rest
      readClosing? (choice alternatives) rest
    | '(' :: rest => do
      let (alternatives, rest) ← readAlternatives? fuel rest
      readClosing? [capture (inSequence (choice alternatives))] rest
    | '[' :: rest => (readClass? rest).map fun (item, rest) => ([item], rest)
    | '^' :: rest => some ([start], rest)
    | '$' :: rest => some ([stopLine], rest)
    | '\\' :: 'Z' :: rest => some ([stop], rest)
    | '\\' :: 'b' :: rest => some ([boundary], rest)
    | '\\' :: c :: rest => if isSign c then some ([char c], rest) else none
    | c :: rest => if ".*+?\\".toList.contains c then none else some ([char c], rest)
    | [] => none

end

def read? (text : List Char) : Option Pattern :=
  match readAlternatives? (3 * text.length + 3) text with
  | some (alternatives, []) => some (inSequence (choice alternatives))
  | _ => none

end Inflection.Pattern
