import Inflection.Log.Event
import Inflection.Log.Level
import Inflection.Settings.Basic

/-! # The state of the log

A log is set up at most once unless a set-up is forced. A set-up fixes the level, the format and the
file of the log from its own arguments and, for those that are missing, from the settings, and it puts
new outlets in the place of those that were there. The log delivers the events whose severity reaches
its level, each to every outlet.
-/

namespace Inflection.Log

/-- The level, the format and the file of a log. -/
structure Setup where
  level : Int
  format : Format
  file : Option (List Char)
deriving DecidableEq, Repr

/-- A place that events are delivered to. -/
inductive Outlet where
  | console
  | file (name : List Char)
deriving DecidableEq, Repr

def Setup.outlets (setup : Setup) : List Outlet :=
  .console :: setup.file.toList.map .file

/-- What a set-up asks for. -/
structure Options where
  level : Option Json := none
  format : Option Format := none
  file : Option (List Char) := none
  force : Bool := false

/-- An event as it was delivered. -/
structure Record where
  format : Format
  event : Event

/-- The record that an outlet shows on the console, if it does. -/
def Outlet.shown? (record : Record) : Outlet → Option Record
  | console => some record
  | file _ => none

/-- The record that an outlet writes to a file, with the name of the file, if it does. -/
def Outlet.written? (record : Record) : Outlet → Option (List Char × Record)
  | console => none
  | file name => some (name, record)

/-- The set-up in effect, the outlets, and everything that was written to files. -/
structure State where
  setup : Option Setup := none
  outlets : List Outlet := setup.elim [] Setup.outlets
  written : List (List Char × Record) := []

/-- A name of a file, unless it is empty. -/
def fileNamed (name : Option (List Char)) : Option (List Char) :=
  name.filter (!·.isEmpty)

/-- The set-up that the options ask for; the settings give what is missing. -/
def Options.setup (options : Options) (settings : Settings) : Setup where
  level := (Level.ofValue (options.level.getD (.str settings.logLevel))).rank
  format := options.format.getD settings.logFormat
  file := (fileNamed options.file).or (fileNamed settings.logFile)

namespace State

def isInitialised (state : State) : Bool :=
  state.setup.isSome

/-- The level of the log, which is that of warnings before the first set-up. -/
def level (state : State) : Int :=
  state.setup.elim Level.standard (·.level)

/-- The format of the log, which is that for people before the first set-up. -/
def format (state : State) : Format :=
  state.setup.elim .console (·.format)

def handlers (state : State) : Nat :=
  state.outlets.length

/-- Sets the log up, unless that was done before and is not forced. The settings are read only when
the set-up takes place, and nothing changes if they are in error. -/
def initialise (state : State) (options : Options) (source : Settings.Source) :
    Except (List InvalidSetting) State :=
  if state.isInitialised && !options.force then .ok state
  else (Settings.read source).map fun settings =>
    let setup := options.setup settings
    { state with setup := some setup, outlets := setup.outlets }

/-- The records that the log makes of events. -/
def delivered (state : State) (events : List Event) : List Record :=
  (events.filter (state.level ≤ ·.severity.rank)).map (⟨state.format, ·⟩)

/-- The records of events that appear on the console. -/
def records (state : State) (events : List Event) : List Record :=
  (state.delivered events).flatMap fun record => state.outlets.filterMap (·.shown? record)

/-- The records of events that are written to files, each with the name of its file. -/
def additions (state : State) (events : List Event) : List (List Char × Record) :=
  (state.delivered events).flatMap fun record => state.outlets.filterMap (·.written? record)

/-- The state after events were reported. -/
def report (state : State) (events : List Event) : State :=
  { state with written := state.written ++ state.additions events }

/-- The records in a file, in the order in which they were written. -/
def fileRecords (state : State) (file : List Char) : List Record :=
  (state.written.filter (·.1 == file)).map (·.2)

@[simp]
theorem records_nil (state : State) : state.records [] = [] := rfl

@[simp]
theorem report_nil (state : State) : state.report [] = state := by
  simp [report, additions, delivered]

end State

end Inflection.Log
