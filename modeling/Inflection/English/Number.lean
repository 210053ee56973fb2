import Inflection.English.Verbs
import Inflection.Text.Blank

/-! # Number of nouns and verbs

A word is inflected by the table for its kind and number; the blanks that end it stay as they are.
Blank words and nouns with one form for both numbers are never changed.
-/

namespace Inflection

/-- The form that the table gives to a word, with the blanks that end the word. -/
def Table.inflect (table : Table) (word : List Char) : List Char :=
  table.apply (Text.stem word) ++ Text.tail word

/-- The two numbers of a noun, and of the subject of a verb. -/
inductive Number where
  | singular
  | plural
deriving DecidableEq, Repr

/-- Exactly one item takes the singular; no item takes the plural. -/
def Number.ofCount (count : Nat) : Number :=
  if count = 1 then singular else plural

namespace Nouns

/-- Whether the word, as it is written, has one form for both numbers. -/
def isUncountable (word : List Char) : Bool :=
  uncountables.any (·.toList == word)

def table : Number → Table
  | .singular => singulars
  | .plural => plurals

/-- Whether a noun is inflected at all. -/
def isFixed (word : List Char) : Bool :=
  Text.isBlankText word || isUncountable (Text.stem word)

def form (number : Number) (word : List Char) : List Char :=
  if isFixed word then word else (table number).inflect word

def singularize (word : List Char) : List Char :=
  form .singular word

def pluralize (word : List Char) : List Char :=
  form .plural word

/-- The form of a noun that goes with a count. -/
def inflect (word : List Char) (count : Nat) : List Char :=
  form (.ofCount count) word

/-- Whether a word is there and is its own form in a number. -/
def isInForm (number : Number) (word : List Char) : Bool :=
  !Text.isBlankText word && form number word == word

def isSingular (word : List Char) : Bool :=
  isInForm .singular word

def isPlural (word : List Char) : Bool :=
  isInForm .plural word

end Nouns

namespace Verbs

def table : Number → Table
  | .singular => singulars
  | .plural => plurals

/-- The form of a verb for the number of its subject. -/
def form (number : Number) (word : List Char) : List Char :=
  if Text.isBlankText word then word else (table number).inflect word

/-- The form of a verb for a singular subject. -/
def singularize (word : List Char) : List Char :=
  form .singular word

/-- The form of a verb for a plural subject. -/
def pluralize (word : List Char) : List Char :=
  form .plural word

/-- The form of a verb that goes with a count of subjects. -/
def conjugate (word : List Char) (count : Nat) : List Char :=
  form (.ofCount count) word

end Verbs

end Inflection
