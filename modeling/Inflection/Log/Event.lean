import Inflection.Json.Value
import Inflection.Template.Tag

/-! # Log events

What the library reports while it works: which table has a rule for a word, which tag was refused,
which template was rendered and which command was refused. Events of other origin carry their own
name and fields.

One field is left out. A log of the program shows with every rule that was applied the text of its
pattern, as `pattern` between `word` and `result`. Rules hold their patterns as trees here, not as texts.
-/

namespace Inflection.Log

/-- How important an event is. -/
inductive Severity where
  | debug
  | info
  | warning
  | error
  | critical
deriving DecidableEq, Repr

namespace Severity

/-- The place of a severity among the levels of a log. -/
def rank : Severity → Int
  | debug => 10
  | info => 20
  | warning => 30
  | error => 40
  | critical => 50

def name : Severity → String
  | debug => "debug"
  | info => "info"
  | warning => "warning"
  | error => "error"
  | critical => "critical"

def all : List Severity :=
  [debug, info, warning, error, critical]

/-- The severity of a given name; two of them have a second name. -/
def ofName? : String → Option Severity
  | "warn" => some warning
  | "fatal" => some critical
  | name => all.find? (·.name == name)

end Severity

/-- Something that happened. -/
inductive Event where
  /-- A rule of a table was applied to a word. The text of its pattern is not part of the event. -/
  | ruleApplied (table word result : List Char)
  /-- A tag was refused for a modifier. -/
  | tagRejected (tag option : List Char) (kind : Kind)
  /-- A template was rendered. -/
  | templateParsed (tags count : Nat)
  /-- A command ended with an error. -/
  | commandFailed (command error : List Char)
  /-- Something that the user of the log reports. -/
  | other (severity : Severity) (logger name : List Char) (fields : List (List Char × Json))

namespace Event

def severity : Event → Severity
  | ruleApplied .. | tagRejected .. | templateParsed .. => .debug
  | commandFailed .. => .info
  | other severity .. => severity

def logger : Event → List Char
  | ruleApplied .. => "morphology.english".toList
  | tagRejected .. | templateParsed .. => "nlg.template".toList
  | commandFailed .. => "nlg.cli_frontend".toList
  | other _ logger .. => logger

def name : Event → List Char
  | ruleApplied .. => "rule_applied".toList
  | tagRejected .. => "template_tag_rejected".toList
  | templateParsed .. => "template_parsed".toList
  | commandFailed .. => "cli_command_failed".toList
  | other _ _ name _ => name

/-- The names under which a record shows the event itself, so that no field has them. -/
def reservedNames : List String :=
  ["event", "logger", "level"]

/-- The fields of an event, but for the `pattern` of a rule that was applied. -/
def fields : Event → List (List Char × Json)
  | ruleApplied table word result =>
    [("table".toList, .str table), ("word".toList, .str word), ("result".toList, .str result)]
  | tagRejected tag option kind =>
    [("tag".toList, .str tag), ("option".toList, .str option),
     ("kind".toList, .str [kind.letter])]
  | templateParsed tags count => [("tags".toList, .int tags), ("count".toList, .int count)]
  | commandFailed command error =>
    [("command".toList, .str command), ("error".toList, .str error)]
  | other _ _ _ fields =>
    fields.filter fun (name, _) => !reservedNames.contains (String.ofList name)

end Event

end Inflection.Log
