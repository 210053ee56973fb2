import Inflection.Pattern.Match

/-! # Inflection rules

A rule finds its pattern in a word, keeps what comes before the match and the captured part of the
match, and appends its replacement. What follows the match is dropped, so a rule for word endings
has a pattern that stops at the end of the word.
-/

namespace Inflection

/-- A pattern and the text that follows the kept part of a match. -/
structure Rule where
  pattern : Pattern
  replacement : List Char
deriving DecidableEq, Repr

namespace Rule

/-- A rule that puts a new ending after what it keeps. -/
def ending (pattern : Pattern) (replacement : String) : Rule :=
  ⟨pattern, replacement.toList⟩

/-- A rule that recognises words that end in the pattern and leaves them as they are. -/
def keep (pattern : Pattern) : Rule :=
  ⟨.capture pattern ++ .stop, []⟩

/-- The text before the match and the captured part of the match, if the rule applies. -/
def match? (rule : Rule) (word : List Char) : Option (List Char × List Char) :=
  (rule.pattern.find? word).map fun found => (found.lead, found.kept)

def build (rule : Rule) (lead kept : List Char) : List Char :=
  lead ++ kept ++ rule.replacement

/-- The new form of a word, if the rule applies. -/
def result? (rule : Rule) (word : List Char) : Option (List Char) :=
  (rule.match? word).map fun (lead, kept) => rule.build lead kept

end Rule

end Inflection
