import Inflection.Text.Case.Table

/-! # Letter case

`toLower` gives the lower-case form of one character, `lower` the lower-case text of one character,
which has two characters for the dotted capital I. Two characters are the same letter when `fold`
sends them to the same representative: the long s and the kelvin sign, for instance, fold to s
and k. `spellings` lists all characters that are the same letter as a given one.
-/

namespace Inflection.Text

def isAscii (c : Char) : Bool :=
  c.toNat < 0x80

/-- The lower-case form of a letter; any other character is its own. -/
def toLower (c : Char) : Char :=
  if isAscii c then c.toLower
  else
    match capitals.find? (·.includes c.toNat) with
    | some run => Char.ofNat (Int.toNat (c.toNat + run.offset))
    | none => c

/-- The lower-case text of a character: the dotted capital I keeps its dot as a mark of its own. -/
def lower (c : Char) : List Char :=
  if c = '\u0130' then ['i', '\u0307'] else [toLower c]

/-- The capitals of a character if they are all in ASCII: the letters of ASCII themselves, the dotless
i, the long s and the ligatures of Latin letters. Any other character is left as it is. -/
def asciiUpper (c : Char) : List Char :=
  match c with
  | '\u00df' => ['S', 'S']
  | '\u0131' => ['I']
  | '\u017f' => ['S']
  | '\ufb00' => ['F', 'F']
  | '\ufb01' => ['F', 'I']
  | '\ufb02' => ['F', 'L']
  | '\ufb03' => ['F', 'F', 'I']
  | '\ufb04' => ['F', 'F', 'L']
  | '\ufb05' | '\ufb06' => ['S', 'T']
  | c => [c.toUpper]

/-- The character that stands for all case variants of a letter. -/
def fold (c : Char) : Char :=
  let small := toLower c
  if isAscii small then small
  else
    match variants.find? (·.1 == small.toNat) with
    | some (_, representative) => Char.ofNat representative
    | none => small

/-- Whether two characters are the same up to case. -/
def sameLetter (c d : Char) : Bool :=
  fold c == fold d

/-- The capitals with the given lower-case form. -/
def capitalsOf (small : Char) : List Char :=
  (if small.isLower then [small.toUpper] else []) ++
    capitals.filterMap fun run =>
      let code := Int.toNat (small.toNat - run.offset)
      if run.includes code then some (Char.ofNat code) else none

/-- All characters that are the same letter as the given one, which is among them. -/
def spellings (c : Char) : List Char :=
  let representative := fold c
  let others := (variants.filter (·.2 == representative.toNat)).map fun variant =>
    Char.ofNat variant.1
  (representative :: others).flatMap fun small => small :: capitalsOf small

def isSupplementary (c : Char) : Bool :=
  0xffff < c.toNat

/-- The character that begins the capital form of a letter, if the letter has no capital of its own
and the character comes later than it. -/
def laterCapitalStart? (c : Char) : Option Char :=
  (laterCapitalStarts.find? (·.1 == c.toNat)).map fun entry => Char.ofNat entry.2

theorem lower_of_isAscii {c : Char} (ascii : isAscii c = true) : lower c = [c.toLower] := by
  have plain : c ≠ '\u0130' := by
    rintro rfl
    exact absurd ascii (by decide)
  simp [lower, plain, toLower, ascii]

end Inflection.Text
