import Inflection.Log.Format
import Inflection.Settings.Dotenv

/-! # Settings

Every setting has a default, which an environment file may replace, and an environment variable
replaces both. The log format must be one of the formats there are, and the separator of joined words
must not be empty; all settings in error are reported together.
-/

namespace Inflection

/-- The names of the settings. -/
inductive Field where
  | appName
  | logLevel
  | logFormat
  | logFile
  | joinSeparator
  | joinConjunctive
deriving DecidableEq, Repr

namespace Field

def name : Field → String
  | appName => "APP_NAME"
  | logLevel => "LOG_LEVEL"
  | logFormat => "LOG_FORMAT"
  | logFile => "LOG_FILE"
  | joinSeparator => "JOIN_SEPARATOR"
  | joinConjunctive => "JOIN_CONJUNCTIVE"

/-- The environment variable of a setting. -/
def variableName (field : Field) : List Char :=
  "INFLECT_".toList ++ field.name.toList

end Field

/-- The value of every setting. -/
structure Settings where
  appName : List Char := "Strings Inflect".toList
  logLevel : List Char := "WARNING".toList
  logFormat : Log.Format := .console
  logFile : Option (List Char) := none
  joinSeparator : List Char := ", ".toList
  joinConjunctive : List Char := "and".toList
deriving DecidableEq, Repr

/-- What is wrong with the value of a setting. -/
inductive Fault where
  /-- The value is not among those allowed. -/
  | notAllowed
  /-- The value is empty. -/
  | tooShort
deriving DecidableEq, Repr

/-- A setting with a value that it cannot have. -/
structure InvalidSetting where
  field : Field
  fault : Fault
deriving DecidableEq, Repr

namespace Settings

/-- The variables of the environment and of the environment file, if there is one. -/
structure Source where
  environment : Environment
  dotenv : Option (List Char) := none
deriving DecidableEq, Repr

/-- The value that a setting is given: by the environment, or else by the file. -/
def Source.value? (source : Source) (field : Field) : Option (List Char) :=
  (source.environment.lookup? field.variableName).or
    ((source.dotenv.map Dotenv.read).bind (·.lookup? field.variableName))

def readFormat : Option (List Char) → Except Fault Log.Format
  | none => .ok ({} : Settings).logFormat
  | some name =>
    match Log.Format.ofName? name with
    | some format => .ok format
    | none => .error .notAllowed

def readSeparator : Option (List Char) → Except Fault (List Char)
  | none => .ok ({} : Settings).joinSeparator
  | some [] => .error .tooShort
  | some separator => .ok separator

def faultOf (field : Field) {α : Type} : Except Fault α → List InvalidSetting
  | .ok _ => []
  | .error fault => [⟨field, fault⟩]

/-- The settings of a source, or all settings in error in the order of the fields. -/
def read (source : Source) : Except (List InvalidSetting) Settings :=
  let format := readFormat (source.value? .logFormat)
  let separator := readSeparator (source.value? .joinSeparator)
  match format, separator with
  | .ok format, .ok separator =>
    .ok
      { appName := (source.value? .appName).getD ({} : Settings).appName
        logLevel := (source.value? .logLevel).getD ({} : Settings).logLevel
        logFormat := format
        logFile := source.value? .logFile
        joinSeparator := separator
        joinConjunctive :=
          (source.value? .joinConjunctive).getD ({} : Settings).joinConjunctive }
  | format, separator =>
    .error (faultOf .logFormat format ++ faultOf .joinSeparator separator)

end Settings

end Inflection
