import Inflection.CommandLine.Invocation
import Inflection.Log.State

/-! # Sessions

A session is a sequence of steps that share an environment and a log. A step may set up the log,
change the environment, report events or run the program; it answers with the records that the log
made of its events. Results never depend on the state of the log.
-/

namespace Inflection

/-- The environment and the log that steps share. -/
structure Session where
  source : Settings.Source := ⟨[], none⟩
  log : Log.State := {}

/-- What is done in one step. -/
inductive Step where
  /-- Sets up the log. -/
  | initialise (options : Log.Options)
  /-- Replaces the variables of the environment. -/
  | setEnvironment (environment : Environment)
  /-- Asks for a logger, which sets up the log unless that was done before. -/
  | getLogger
  /-- Asks for a logger and reports an event through it. -/
  | emit (event : Log.Event)
  /-- Uses the library, which reports events. -/
  | work (events : List Log.Event)
  /-- Runs the program. -/
  | run (arguments : List (List Char))

/-- How a step ended. -/
inductive StepResult where
  | done
  | invalidSettings (errors : List InvalidSetting)
  | ran (outcome : CommandLine.Outcome)

namespace Session

/-- The session after events were reported, and the records of them. -/
def report (session : Session) (events : List Log.Event) : Session × List Log.Record :=
  ({ session with log := session.log.report events }, session.log.records events)

/-- The session after its log was set up. -/
def initialise (session : Session) (options : Log.Options) :
    Except (List InvalidSetting) Session :=
  (session.log.initialise options session.source).map fun log => { session with log }

/-- The options for the log that an invocation asks for: a level that is there and not empty is a
set-up by force. -/
def logOptions? (invocation : CommandLine.Invocation) : Option Log.Options :=
  match invocation.logLevel with
  | none | some [] => none
  | some level => some { level := some (.str level), force := true }

/-- Runs the program: the settings are read first, then the arguments; then the log is set up if that
is asked for, and the command is carried out. -/
def run (session : Session) (arguments : List (List Char)) :
    Session × StepResult × List Log.Record :=
  match Settings.read session.source with
  | .error errors => (session, .invalidSettings errors, [])
  | .ok settings =>
    match CommandLine.Invocation.read settings arguments with
    | .error stop => (session, .ran stop.outcome, [])
    | .ok invocation =>
      let ready := ((logOptions? invocation).map session.initialise).getD (.ok session)
      match ready with
      | .error errors => (session, .invalidSettings errors, [])
      | .ok session =>
        let (session, records) := session.report invocation.command.events
        (session, .ran invocation.command.outcome, records)

section Run

variable {session ready : Session} {arguments : List (List Char)} {settings : Settings}
  {errors : List InvalidSetting} {stop : CommandLine.Stop} {invocation : CommandLine.Invocation}

/-- Invalid settings end a run before its arguments are read. -/
theorem run_of_invalid (invalid : Settings.read session.source = .error errors) :
    session.run arguments = (session, .invalidSettings errors, []) := by
  simp only [run, invalid]

/-- Arguments that lead to no command leave the session as it is. -/
theorem run_of_stop (valid : Settings.read session.source = .ok settings)
    (stopped : CommandLine.Invocation.read settings arguments = .error stop) :
    session.run arguments = (session, .ran stop.outcome, []) := by
  simp only [run, valid, stopped]

/-- A command is carried out with the log that was made ready for it. -/
theorem run_of_ready (valid : Settings.read session.source = .ok settings)
    (parsed : CommandLine.Invocation.read settings arguments = .ok invocation)
    (prepared : ((logOptions? invocation).map session.initialise).getD (.ok session) = .ok ready) :
    session.run arguments = ((ready.report invocation.command.events).1,
      .ran invocation.command.outcome, (ready.report invocation.command.events).2) := by
  simp only [run, valid, parsed, prepared]

/-- A log that cannot be set up ends a run before its command is carried out. -/
theorem run_of_unready (valid : Settings.read session.source = .ok settings)
    (parsed : CommandLine.Invocation.read settings arguments = .ok invocation)
    (prepared : ((logOptions? invocation).map session.initialise).getD (.ok session) =
      .error errors) : session.run arguments = (session, .invalidSettings errors, []) := by
  simp only [run, valid, parsed, prepared]

end Run

def step (session : Session) : Step → Session × StepResult × List Log.Record
  | .initialise options =>
    match session.initialise options with
    | .ok session => (session, .done, [])
    | .error errors => (session, .invalidSettings errors, [])
  | .setEnvironment environment =>
    ({ session with source := { session.source with environment } }, .done, [])
  | .getLogger =>
    match session.initialise {} with
    | .ok session => (session, .done, [])
    | .error errors => (session, .invalidSettings errors, [])
  | .emit event =>
    match session.initialise {} with
    | .ok session =>
      let (session, records) := session.report [event]
      (session, .done, records)
    | .error errors => (session, .invalidSettings errors, [])
  | .work events =>
    let (session, records) := session.report events
    (session, .done, records)
  | .run arguments => session.run arguments

/-- Takes steps one after the other: the session after each of them, with its result and its
records. -/
def replay (session : Session) : List Step → List (Session × StepResult × List Log.Record)
  | [] => []
  | step :: rest => session.step step :: replay (session.step step).1 rest

def after (session : Session) (steps : List Step) : Session :=
  steps.foldl (fun session step => (session.step step).1) session

/-- Steps may be taken in two parts. -/
theorem after_append (session : Session) (first second : List Step) :
    session.after (first ++ second) = (session.after first).after second :=
  List.foldl_append

end Session

end Inflection
