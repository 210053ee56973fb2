import Inflection.CommandLine.Command
import Inflection.CommandLine.Reading
import Inflection.Settings.Basic

/-! # Invocations

The arguments of the program are options of its own, the name of a command and the arguments of the
command. Missing styles of joining come from the settings. Arguments that nothing takes are reported
only when everything else is in order.
-/

namespace Inflection.CommandLine

def programName : String :=
  "inflect-cli"

/-- The names of the commands. -/
inductive CommandName where
  | render
  | singularize
  | pluralize
  | inflect
  | conjugate
  | fuzzy
  | join
deriving DecidableEq, Repr

namespace CommandName

/-- All names, in the order in which they are listed. -/
def all : List CommandName :=
  [render, singularize, pluralize, inflect, conjugate, fuzzy, join]

def title : CommandName → String
  | render => "render"
  | singularize => "singularize"
  | pluralize => "pluralize"
  | inflect => "inflect"
  | conjugate => "conjugate"
  | fuzzy => "fuzzy"
  | join => "join"

def ofText? (text : List Char) : Option CommandName :=
  all.find? (·.title.toList == text)

def countOption : OptionSpec :=
  ⟨["--count", "-n"], .integer, true⟩

def options : CommandName → List OptionSpec
  | render => [countOption, ⟨["--json"], .switch, false⟩]
  | inflect | conjugate => [countOption]
  | join =>
    [⟨["--separator"], .text, false⟩, ⟨["--final-separator"], .text, false⟩,
      ⟨["--conjunctive"], .text, false⟩]
  | singularize | pluralize | fuzzy => []

def operands : CommandName → Operands
  | render => .one "template"
  | singularize | pluralize | inflect | conjugate => .one "word"
  | fuzzy => .number "count"
  | join => .many "words"

def grammar (command : CommandName) : Grammar :=
  ⟨programName.toList ++ ' ' :: command.title.toList, helpOption :: command.options,
    command.operands⟩

end CommandName

def logLevelOption : OptionSpec :=
  ⟨["--log-level"], .text, false⟩

def mainOptions : List OptionSpec :=
  [helpOption, logLevelOption]

/-- A command with the level of the log that was asked for. -/
structure Invocation where
  logLevel : Option (List Char)
  command : Command
deriving DecidableEq, Repr

namespace Reading

/-- The text of an option, if it was given with one. -/
def text? (reading : Reading) (name : String) : Option (List Char) :=
  (reading.value? name).bind Argument.text?

/-- The number of an option, if it was given with one. -/
def integer? (reading : Reading) (name : String) : Option Int :=
  (reading.value? name).bind Argument.integer?

def texts (reading : Reading) : List (List Char) :=
  (reading.operands.getD []).filterMap Argument.text?

def word (reading : Reading) : List Char :=
  reading.texts.head?.getD []

def number (reading : Reading) : Int :=
  ((reading.operands.getD []).findSome? Argument.integer?).getD 0

/-- The style of joining; what is not given comes from the settings. -/
def style (reading : Reading) (settings : Settings) : JoinStyle where
  separator := (reading.value? "--separator").elim (some settings.joinSeparator) Argument.text?
  conjunctive := (reading.value? "--conjunctive").elim settings.joinConjunctive Argument.shown
  finalSeparator := (reading.value? "--final-separator").map Argument.shown

/-- The command that the arguments of a command name make. -/
def command (reading : Reading) (settings : Settings) : CommandName → Command
  | .render => .render reading.word (reading.integer? "--count") (reading.value? "--json").isSome
  | .singularize => .singularize reading.word
  | .pluralize => .pluralize reading.word
  | .inflect => .inflect reading.word (reading.integer? "--count")
  | .conjugate => .conjugate reading.word (reading.integer? "--count")
  | .fuzzy => .fuzzy reading.number
  | .join => .join reading.texts (reading.style settings)

end Reading

/-- Reads the options before the command, and returns the first operand with the arguments after it.
Two dashes before an operand are taken for the name of a command. -/
def readMain : Nat → Reading → List Token → List (List Char) →
    Except Stop (Reading × List Char × List (List Char))
  | 0, _, _, _ | _, _, [], _ =>
    .error (.fault programName.toList (.missing ["command".toList]))
  | fuel + 1, reading, token :: tokens, arguments =>
    match token with
    | .known option name attached => do
      let (reading, rest) ←
        takeOption programName.toList mainOptions reading option name attached tokens
      readMain fuel reading rest (arguments.drop (arguments.length - rest.length))
    | .unknown text => readMain fuel (reading.leave [text]) tokens (arguments.drop 1)
    | .operand text => .ok (reading, text, arguments.drop 1)
    | .dashes =>
      if tokens.isEmpty then .error (.fault programName.toList (.missing ["command".toList]))
      else .ok (reading, ['-', '-'], arguments.drop 1)

def readCommandName (text : List Char) : Except Stop CommandName :=
  match CommandName.ofText? text with
  | some command => .ok command
  | none =>
    .error (.fault programName.toList
      (.notAllowed "command".toList text (CommandName.all.map (·.title.toList))))

/-- The invocation that arguments make. -/
def Invocation.read (settings : Settings) (arguments : List (List Char)) :
    Except Stop Invocation :=
  match Token.ofArguments mainOptions arguments with
  | .error fault => .error (.fault programName.toList fault)
  | .ok tokens => do
    let (main, text, rest) ← readMain (tokens.length + 1) {} tokens arguments
    let command ← readCommandName text
    let reading ← readArguments command.grammar rest
    match main.extras ++ reading.extras with
    | [] => return ⟨main.text? "--log-level", reading.command settings command⟩
    | extras => .error (.fault programName.toList (.unrecognised extras))

/-- What a run of the program shows. -/
inductive Outcome where
  /-- The help of a program. -/
  | help (program : List Char)
  /-- A fault in the arguments. -/
  | misuse (line : List Char)
  /-- The exit code and what is written to both outputs. -/
  | finished (code : Nat) (output errors : List Char)
  /-- A failure that ends the program at once. -/
  | aborted (message : List Char)
deriving DecidableEq, Repr

/-- The outcome of a command: its answer on a line, or the failure that it reports with exit code two.
Any other failure ends the program at once. -/
def Command.outcome (command : Command) : Outcome :=
  match command.answer with
  | .ok text => .finished 0 (text ++ ['\n']) []
  | .error failure =>
    if failure.isReported then .finished 2 [] ("Error: ".toList ++ failure.message ++ ['\n'])
    else .aborted failure.message

def Stop.outcome : Stop → Outcome
  | fault program cause => .misuse (usageLine program cause)
  | help program => .help program

/-- The outcome of a run of the program. -/
def outcome (settings : Settings) (arguments : List (List Char)) : Outcome :=
  match Invocation.read settings arguments with
  | .ok invocation => invocation.command.outcome
  | .error stop => stop.outcome

end Inflection.CommandLine
