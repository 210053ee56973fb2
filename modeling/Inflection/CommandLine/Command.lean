import Inflection.Json.Writer
import Inflection.Phrase.Join
import Inflection.Request

/-! # Commands

A command is one request to the library, with everything it needs. It answers with a text or fails,
and its events are computed beside the answer. An option that was given without a value is `none`: as
a count it is refused like every value that is no number, and as a separator it joins two words at
most.
-/

namespace Inflection.CommandLine

/-- How words are to be joined, with a separator that may have no value. -/
structure JoinStyle where
  separator : Option (List Char)
  conjunctive : List Char
  finalSeparator : Option (List Char)
deriving DecidableEq, Repr

/-- A request made on the command line. -/
inductive Command where
  | render (template : List Char) (count : Option Int) (json : Bool)
  | singularize (word : List Char)
  | pluralize (word : List Char)
  | inflect (word : List Char) (count : Option Int)
  | conjugate (word : List Char) (count : Option Int)
  | fuzzy (count : Int)
  | join (words : List (List Char)) (style : JoinStyle)
deriving DecidableEq, Repr

/-- Why a command has no answer. -/
inductive Failure where
  /-- The library refuses the request. -/
  | refused (error : RequestError)
  /-- There is no separator for three words or more. -/
  | noSeparator

def Failure.message : Failure → List Char
  | refused error => error.message
  | noSeparator => "'list' object has no attribute 'join'".toList

/-- Whether a failure is one that the program reports. Any other ends the program at once. -/
def Failure.isReported : Failure → Bool
  | refused (.count .tooLong) | noSeparator => false
  | refused _ => true

/-- The phrase that the words make, unless there are more than two and no separator for them. -/
def JoinStyle.join (style : JoinStyle) (words : List (List Char)) :
    Except Failure (List Char) :=
  match style.separator with
  | some separator => .ok (Phrase.join ⟨separator, style.conjunctive, style.finalSeparator⟩ words)
  | none =>
    if words.length ≤ 2 then .ok (Phrase.join ⟨[], style.conjunctive, style.finalSeparator⟩ words)
    else .error .noSeparator

/-- The value of a count: a number, or an empty array without one. -/
def countValue (count : Option Int) : Json :=
  count.elim (.arr []) .int

namespace Command

def name : Command → String
  | render .. => "render"
  | singularize _ => "singularize"
  | pluralize _ => "pluralize"
  | inflect .. => "inflect"
  | conjugate .. => "conjugate"
  | fuzzy _ => "fuzzy"
  | join .. => "join"

def renderedObject (template : List Char) (count : Json) (text : List Char) : Json :=
  .obj [("template".toList, .str template), ("count".toList, count), ("text".toList, .str text)]

/-- The answer to a command. -/
def answer : Command → Except Failure (List Char)
  | render template count json =>
    ((renderTemplate template (countValue count)).map fun text =>
      if json then (renderedObject template (countValue count) text).write else text).mapError
      .refused
  | singularize word => .ok (Nouns.singularize word)
  | pluralize word => .ok (Nouns.pluralize word)
  | inflect word count => (withCount (countValue count) (Nouns.inflect word)).mapError .refused
  | conjugate word count => (withCount (countValue count) (Verbs.conjugate word)).mapError .refused
  | fuzzy count => (withCount (.int count) fun n => (fuzzyLabel n).toList).mapError .refused
  | join words style => style.join words

/-- The events of working out the answer. -/
def workEvents : Command → List Log.Event
  | render template count _ => eventsWithCount (countValue count) (Template.events template)
  | singularize word => Nouns.formEvents .singular word
  | pluralize word => Nouns.formEvents .plural word
  | inflect word count =>
    eventsWithCount (countValue count) fun n => Nouns.formEvents (.ofCount n) word
  | conjugate word count =>
    eventsWithCount (countValue count) fun n => Verbs.formEvents (.ofCount n) word
  | fuzzy _ => []
  | join .. => []

/-- All events of a command: those of its work, and one for a failure that is reported. -/
def events (command : Command) : List Log.Event :=
  command.workEvents ++
    match command.answer with
    | .ok _ => []
    | .error failure =>
      if failure.isReported then [.commandFailed command.name.toList failure.message] else []

end Command

end Inflection.CommandLine
