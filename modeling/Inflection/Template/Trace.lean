import Inflection.English.Trace
import Inflection.Template.Render

/-! # Events of templates

Each span of a template reports the rule that was applied to its payload. A span that is refused for
a modifier reports that and ends the report; a template without bad spans reports how many it has.
-/

namespace Inflection

open Log (Event)

namespace Tag

/-- The events of reading a tag, given how that ended. -/
def readEvents (source : List Char) : Except TagError Tag → List Event
  | .error (.unknownOption option kind) => [.tagRejected source option kind]
  | _ => []

def renderEvents (tag : Tag) (count : Nat) : List Event :=
  match tag.kind with
  | .noun => Nouns.formEvents (tag.nounNumber count) tag.payload
  | .verb => Verbs.formEvents (.ofCount count) tag.payload
  | .count => []

end Tag

namespace Template

/-- The events of rendering spans when `pieces` texts have been put out already. A span puts out two
more, its lead and the text of its tag, so that half of them at the end is the number of tags. -/
def spanEvents (pieces count : Nat) : List Span → List Event
  | [] => [.templateParsed (pieces / 2) count]
  | span :: rest =>
    match span.tag with
    | .ok tag => tag.renderEvents count ++ spanEvents (pieces + 2) count rest
    | error => Tag.readEvents span.source error

/-- The events of rendering a template for a count. -/
def events (text : List Char) (count : Nat) : List Event :=
  spanEvents 0 count (scan text).spans

def tagEventsOfSpans : List Span → List Event
  | [] => []
  | span :: rest =>
    match span.tag with
    | .ok _ => tagEventsOfSpans rest
    | error => Tag.readEvents span.source error

/-- The events of reading all tags of a template. -/
def tagEvents (text : List Char) : List Event :=
  tagEventsOfSpans (scan text).spans

end Template

end Inflection
