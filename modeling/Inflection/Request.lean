import Inflection.Count
import Inflection.Template.Trace

/-! # Requests with a count

A request may come with any value for its count. The count is checked before anything else is done,
so that a request with a bad count fails in the same way whatever else it holds, and reports no
event.
-/

namespace Inflection

/-- Why a request has no answer. -/
inductive RequestError where
  | count (error : CountError)
  | tag (error : TagError)

def RequestError.message : RequestError → List Char
  | count error => error.message
  | tag error => error.message

/-- Answers for a value that must be a count. -/
def withCount {α : Type} (count : Json) (answer : Nat → α) : Except RequestError α :=
  match checkCount count with
  | .ok n => .ok (answer n)
  | .error error => .error (.count error)

/-- The text of a template for a value that must be a count; the count is checked first. -/
def renderTemplate (template : List Char) (count : Json) : Except RequestError (List Char) :=
  match checkCount count with
  | .ok n => (Template.render template n).mapError .tag
  | .error error => .error (.count error)

/-- The events for a value that must be a count: none if it is not. -/
def eventsWithCount (count : Json) (events : Nat → List Log.Event) : List Log.Event :=
  match checkCount count with
  | .ok n => events n
  | .error _ => []

end Inflection
