import Inflection.CommandLine.Help
import Inflection.Log.Line
import Inflection.Session

/-! # The program

Reads the environment and the environment file, runs a session of one step and shows its outcome.
Everything that is decided is decided by `Session.run`.
-/

namespace Inflection.Program

def fields : List Field :=
  [.appName, .logLevel, .logFormat, .logFile, .joinSeparator, .joinConjunctive]

/-- The variables of the environment that are named like a setting, in capitals or in small
letters. -/
def readEnvironment : IO Environment := do
  let names := fields.flatMap fun field =>
    [field.variableName.map Char.toLower, field.variableName]
  let values ← names.mapM fun name => do
    return (← IO.getEnv (String.ofList name)).map fun value => (name, value.toList)
  return values.filterMap id

/-- The text of the environment file in the working directory, if there is one. -/
def readDotenv : IO (Option (List Char)) := do
  try
    return some (← IO.FS.readFile ".env").toList
  catch _ =>
    return none

def appendLine (path line : List Char) : IO Unit :=
  IO.FS.withFile (String.ofList path) .append fun file => file.putStrLn (String.ofList line)

/-- Writes records to the standard error, and what the log keeps to its files. -/
def writeLog (log : Log.State) (records : List Log.Record) : IO Unit := do
  for record in records do
    IO.eprintln (String.ofList record.line)
  for (path, record) in log.written do
    appendLine path record.line

def settingLine (error : InvalidSetting) : String :=
  match error.fault with
  | .notAllowed => error.field.name ++ ": value is not allowed"
  | .tooShort => error.field.name ++ ": value is too short"

end Inflection.Program

open Inflection Program in
/-- Runs the program and gives its exit code. -/
def main (arguments : List String) : IO UInt32 := do
  let session : Session :=
    { source := ⟨← readEnvironment, ← readDotenv⟩
      log := { setup := some ⟨Log.Level.standard, .console, none⟩ } }
  let (session, result, records) := session.run (arguments.map String.toList)
  writeLog session.log records
  match result with
  | .done => return 0
  | .invalidSettings errors =>
    for error in errors do
      IO.eprintln (settingLine error)
    return 1
  | .ran (.help program) =>
    IO.print (String.ofList (CommandLine.helpText program))
    return 0
  | .ran (.misuse line) =>
    IO.eprint (String.ofList line)
    return 2
  | .ran (.aborted message) =>
    IO.eprintln (String.ofList message)
    return 1
  | .ran (.finished code output errors) =>
    IO.print (String.ofList output)
    IO.eprint (String.ofList errors)
    return UInt32.ofNat code
