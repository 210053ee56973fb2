import Inflection.Count
import Inflection.English.Number
import Inflection.FuzzyCount
import Inflection.Template.Span

/-! # Rendering templates

Every span of a template is replaced by the text of its tag for a count; the first span that is not
a tag makes the whole template an error.
-/

namespace Inflection

namespace Tag

/-- The number that the first of the modifiers s and p forces on a noun. -/
def forcedNumber? (modifiers : List (List Char)) : Option Number :=
  modifiers.findSome? fun modifier =>
    if modifier = ['s'] then some .singular
    else if modifier = ['p'] then some .plural
    else none

def nounNumber (tag : Tag) (count : Nat) : Number :=
  (forcedNumber? tag.modifiers).getD (.ofCount count)

/-- The text of a tag for a count. -/
def render (tag : Tag) (count : Nat) : List Char :=
  match tag.kind with
  | .noun => Nouns.form (tag.nounNumber count) tag.payload
  | .verb => Verbs.conjugate tag.payload count
  | .count => if tag.modifiers.contains ['f'] then (fuzzyLabel count).toList else Text.decimal count

end Tag

namespace Template

/-- The text of spans for a count, up to the first one that is not a tag. -/
def renderSpans (count : Nat) : List Span → Except TagError (List Char)
  | [] => .ok []
  | span :: rest => do
    let tag ← span.tag
    return span.lead ++ tag.render count ++ (← renderSpans count rest)

/-- The text of a template for a count. -/
def render (text : List Char) (count : Nat) : Except TagError (List Char) := do
  let template := scan text
  return (← renderSpans count template.spans) ++ template.rest

/-- The tags of spans, up to the first one that is not a tag, and the error of that one. -/
def tagsOfSpans : List Span → List Tag × Option TagError
  | [] => ([], none)
  | span :: rest =>
    match span.tag with
    | .error error => ([], some error)
    | .ok tag =>
      let (tags, error) := tagsOfSpans rest
      (tag :: tags, error)

def tags (text : List Char) : List Tag × Option TagError :=
  tagsOfSpans (scan text).spans

end Template

end Inflection
