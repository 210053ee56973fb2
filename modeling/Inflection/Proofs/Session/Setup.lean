import Inflection.Session

/-! # The set-up of a log that steps share

Steps of a session set up the log, by force or not, while its environment changes between them and may
be in error. However many steps there were, the log is as the last of the set-ups that took effect has
made it, and as it was at the start if there was none: set-ups that are refused or in error leave no
trace, and outlets never pile up. The events of every step are delivered once to each outlet.
-/

namespace Inflection

namespace Log.State

def configuration (state : State) : Option Setup × List Outlet :=
  (state.setup, state.outlets)

def configurationOf (setup : Setup) : Option Setup × List Outlet :=
  (some setup, setup.outlets)

/-- Whether a log is as it is at the start: not set up, at the level of warnings and without outlets. -/
structure IsInitial (state : State) : Prop where
  isInitialised : state.isInitialised = false
  level : state.level = Level.standard
  outlets : state.outlets = []

/-- Whether a log is as options make it with the settings: it has the console and perhaps one file as
its outlets, and what the options leave open comes from the settings. -/
structure IsSetUpBy (options : Options) (settings : Settings) (state : State) : Prop where
  isInitialised : state.isInitialised = true
  level : state.level = (Level.ofValue (options.level.getD (.str settings.logLevel))).rank
  format : state.format = options.format.getD settings.logFormat
  outlets : ∃ file : Option (List Char), state.outlets = .console :: file.toList.map .file ∧
    (file.isSome = true ↔ (∃ name, options.file = some name ∧ name ≠ []) ∨
      ∃ name, settings.logFile = some name ∧ name ≠ []) ∧
    ∀ name, file = some name → options.file = some name ∨ settings.logFile = some name

variable {state : State} {options : Options} {settings : Settings}

theorem isInitial_of_configuration (same : state.configuration = (none, [])) : state.IsInitial := by
  obtain ⟨setup, outlets⟩ := Prod.mk.inj same
  exact ⟨by rw [isInitialised, setup]; rfl, by rw [level, setup]; rfl, outlets⟩

private theorem fileNamed_eq_some_iff {file : Option (List Char)} {name : List Char} :
    fileNamed file = some name ↔ file = some name ∧ name ≠ [] := by
  rw [fileNamed, Option.filter_eq_some_iff, Bool.not_eq_true', List.isEmpty_eq_false_iff]

theorem isSetUpBy_of_configuration
    (same : state.configuration = configurationOf (options.setup settings)) :
    state.IsSetUpBy options settings := by
  obtain ⟨setup, outlets⟩ := Prod.mk.inj same
  refine ⟨by rw [isInitialised, setup]; rfl, by rw [level, setup]; rfl, by rw [format, setup]; rfl,
    (options.setup settings).file, outlets, ?_, ?_⟩
  · simp only [Options.setup, Option.isSome_or, Bool.or_eq_true, Option.isSome_iff_exists,
      fileNamed_eq_some_iff]
  · intro name chosen
    rw [Options.setup, Option.or_eq_some_iff, fileNamed_eq_some_iff, fileNamed_eq_some_iff] at chosen
    exact chosen.imp (·.1) (·.2.1)

/-- A log with one console shows every record once. -/
theorem records_eq_delivered {file : Option (List Char)}
    (outlets : state.outlets = .console :: file.toList.map .file) (events : List Event) :
    state.records events = state.delivered events := by
  have once : ∀ record, state.outlets.filterMap (·.shown? record) = [record] := by
    intro record
    rw [outlets]
    cases file <;> rfl
  simp only [records, once, List.flatMap_singleton']

/-- A log with at most one file writes every record to it once. -/
theorem fileRecords_report {file : Option (List Char)}
    (outlets : state.outlets = .console :: file.toList.map .file) (events : List Event)
    (name : List Char) : (state.report events).fileRecords name =
      state.fileRecords name ++ if .file name ∈ state.outlets then state.delivered events else [] := by
  have once : ∀ record, state.outlets.filterMap (·.written? record) =
      file.toList.map (·, record) := by
    intro record
    rw [outlets]
    cases file <;> rfl
  simp only [report, fileRecords, additions, once, List.filter_append, List.map_append]
  congr 1
  rw [outlets]
  cases file with
  | none => simp
  | some other =>
    simp only [Option.toList_some, List.map_cons, List.map_nil, ← List.map_eq_flatMap]
    by_cases same : other = name
    · simp [same, List.filter_map, Function.comp_def]
    · simp [same, List.filter_map, Function.comp_def, Ne.symm same]

end Log.State

/-- Which set-up of the log a step asks for. A run of the program asks for one, by force, if its
arguments make a command with a level that is not empty. -/
inductive Step.AsksFor (source : Settings.Source) : Step → Log.Options → Prop where
  | initialise (options : Log.Options) : AsksFor source (.initialise options) options
  | getLogger : AsksFor source .getLogger {}
  | emit (event : Log.Event) : AsksFor source (.emit event) {}
  | run {arguments : List (List Char)} {settings : Settings} {invocation : CommandLine.Invocation}
      {level : List Char} (valid : Settings.read source = .ok settings)
      (parsed : CommandLine.Invocation.read settings arguments = .ok invocation)
      (given : invocation.logLevel = some level) (present : level ≠ []) :
      AsksFor source (.run arguments) { level := some (.str level), force := true }

/-- The events that a step reports. Nothing is reported through a log that could not be set up, and
nothing by a program without a command to carry out. -/
def Step.reported (session : Session) : Step → List Log.Event
  | .emit event =>
    match session.initialise {} with
    | .ok _ => [event]
    | .error _ => []
  | .work events => events
  | .run arguments =>
    match Settings.read session.source with
    | .error _ => []
    | .ok settings =>
      match CommandLine.Invocation.read settings arguments with
      | .error _ => []
      | .ok invocation => invocation.command.events
  | .initialise _ | .setEnvironment _ | .getLogger => []

namespace Session

/-- Whether a step takes effect on the log: it asks for a set-up that the log is open to, while the
settings are valid. -/
structure SetsUp (session : Session) (step : Step) (options : Log.Options) (settings : Settings) :
    Prop where
  asked : step.AsksFor session.source options
  isOpen : session.log.isInitialised = false ∨ options.force = true
  valid : Settings.read session.source = .ok settings

/-- Whether none of the steps takes effect on the log. -/
def SetsNothingUp (session : Session) (steps : List Step) : Prop :=
  ∀ earlier step later options settings, steps = earlier ++ step :: later →
    ¬(session.after earlier).SetsUp step options settings

/-- Whether the last of the steps that take effect on the log does so by the options and settings. -/
def LastSetsUp (session : Session) (steps : List Step) (options : Log.Options) (settings : Settings) :
    Prop :=
  ∃ earlier step later, steps = earlier ++ step :: later ∧
    (session.after earlier).SetsUp step options settings ∧
    (session.after (earlier ++ [step])).SetsNothingUp later

variable {session : Session} {step : Step} {options : Log.Options} {settings : Settings}

/-- A set-up takes place, fails or is not needed. -/
theorem initialise_cases (session : Session) (options : Log.Options) :
    (∃ settings ready, (session.log.isInitialised = false ∨ options.force = true) ∧
        Settings.read session.source = .ok settings ∧ session.initialise options = .ok ready ∧
        ready.log.configuration = Log.State.configurationOf (options.setup settings) ∧
        ready.log.written = session.log.written) ∨
      (∃ errors, Settings.read session.source = .error errors ∧
        session.initialise options = .error errors) ∨
      ¬(session.log.isInitialised = false ∨ options.force = true) ∧
        session.initialise options = .ok session := by
  rw [initialise, Log.State.initialise]
  cases settled : session.log.isInitialised && !options.force with
  | true =>
    rw [Bool.and_eq_true, Bool.not_eq_true'] at settled
    exact .inr (.inr ⟨by simp [settled], rfl⟩)
  | false =>
    have isOpen : session.log.isInitialised = false ∨ options.force = true := by
      rwa [Bool.and_eq_false_iff, Bool.not_eq_false'] at settled
    cases valid : Settings.read session.source with
    | error errors => exact .inr (.inl ⟨errors, rfl, rfl⟩)
    | ok settings => exact .inl ⟨settings, _, isOpen, rfl, rfl, rfl, rfl⟩

private theorem logOptions?_of_given {invocation : CommandLine.Invocation} {level : List Char}
    (given : invocation.logLevel = some level) (present : level ≠ []) :
    logOptions? invocation = some { level := some (.str level), force := true } := by
  obtain ⟨c, level, rfl⟩ := List.exists_cons_of_ne_nil present
  rw [logOptions?, given]

/-- Nothing but a level that is there and not empty makes a run set the log up. -/
theorem logOptions?_eq_none {invocation : CommandLine.Invocation}
    (absent : ∀ level, invocation.logLevel = some level → level = []) :
    logOptions? invocation = none := by
  rw [logOptions?]
  split
  · rfl
  · rfl
  · next level present given => exact absurd (absent level given) present

/-- A step that asks for a set-up leaves the log as this set-up does. -/
theorem configuration_step_of_asksFor (asked : step.AsksFor session.source options) :
    (session.step step).1.log.configuration =
      match session.initialise options with
      | .ok ready => ready.log.configuration
      | .error _ => session.log.configuration := by
  cases attempt : session.initialise options with
  | error errors =>
    cases asked with
    | initialise | getLogger | emit => rw [Session.step, attempt]
    | run valid parsed given present =>
      rw [Session.step, run_of_unready valid parsed (by
        rw [logOptions?_of_given given present, Option.map_some, Option.getD_some, attempt])]
  | ok ready =>
    cases asked with
    | initialise | getLogger => rw [Session.step, attempt]
    | emit =>
      rw [Session.step, attempt]
      rfl
    | run valid parsed given present =>
      rw [Session.step, run_of_ready valid parsed (by
        rw [logOptions?_of_given given present, Option.map_some, Option.getD_some, attempt])]
      rfl

/-- A step that asks for no set-up leaves the log as it is set up. -/
theorem configuration_step_of_not_asksFor (silent : ∀ options, ¬step.AsksFor session.source options) :
    (session.step step).1.log.configuration = session.log.configuration := by
  cases step with
  | initialise options => exact absurd (.initialise options) (silent options)
  | getLogger => exact absurd .getLogger (silent {})
  | emit event => exact absurd (.emit event) (silent {})
  | setEnvironment | work => rfl
  | run arguments =>
    rw [Session.step]
    cases valid : Settings.read session.source with
    | error errors => rw [run_of_invalid valid]
    | ok settings =>
      cases parsed : CommandLine.Invocation.read settings arguments with
      | error stop => rw [run_of_stop valid parsed]
      | ok invocation =>
        have unasked : logOptions? invocation = none := logOptions?_eq_none fun level given =>
          Decidable.byContradiction fun present => silent _ (.run valid parsed given present)
        rw [run_of_ready valid parsed (by rw [unasked]; rfl)]
        rfl

/-- A step that sets the log up makes the configuration that its options ask for. -/
theorem configuration_step_of_setsUp (effective : session.SetsUp step options settings) :
    (session.step step).1.log.configuration = Log.State.configurationOf (options.setup settings) := by
  rw [configuration_step_of_asksFor effective.asked]
  obtain ⟨settings', ready, -, valid, made, configured, -⟩ | ⟨errors, invalid, -⟩ | ⟨settled, -⟩ :=
    initialise_cases session options
  · obtain rfl : settings = settings' := Except.ok.inj (effective.valid.symm.trans valid)
    rw [made]
    exact configured
  · cases effective.valid.symm.trans invalid
  · exact absurd effective.isOpen settled

/-- A step that takes no effect on the log leaves it as it is set up, also if it asks for more. -/
theorem configuration_step_of_not_setsUp
    (idle : ∀ options settings, ¬session.SetsUp step options settings) :
    (session.step step).1.log.configuration = session.log.configuration := by
  by_cases asks : ∃ options, step.AsksFor session.source options
  · obtain ⟨options, asked⟩ := asks
    rw [configuration_step_of_asksFor asked]
    obtain ⟨settings, ready, isOpen, valid, -⟩ | ⟨errors, -, failed⟩ | ⟨-, same⟩ :=
      initialise_cases session options
    · exact absurd ⟨asked, isOpen, valid⟩ (idle options settings)
    · rw [failed]
    · rw [same]
  · exact configuration_step_of_not_asksFor (not_exists.mp asks)

private theorem after_cons (session : Session) (step : Step) (steps : List Step) :
    session.after (step :: steps) = (session.step step).1.after steps :=
  rfl

private theorem setsNothingUp_cons (step : Step) (steps : List Step) :
    session.SetsNothingUp (step :: steps) ↔
      (∀ options settings, ¬session.SetsUp step options settings) ∧
        (session.step step).1.SetsNothingUp steps := by
  constructor
  · intro idle
    refine ⟨fun options settings => idle [] step steps options settings rfl, ?_⟩
    intro earlier later rest options settings split
    exact idle (step :: earlier) later rest options settings (by rw [split, List.cons_append])
  · rintro ⟨first, others⟩ earlier later rest options settings split
    cases earlier with
    | nil =>
      obtain ⟨rfl, -⟩ := List.cons.inj split
      exact first options settings
    | cons step' earlier =>
      obtain ⟨rfl, rest_eq⟩ := List.cons.inj split
      exact others earlier later rest options settings rest_eq

/-- Steps that take no effect leave the log as it is set up. -/
theorem configuration_after_of_setsNothingUp {steps : List Step} (idle : session.SetsNothingUp steps) :
    (session.after steps).log.configuration = session.log.configuration := by
  induction steps generalizing session with
  | nil => rfl
  | cons step steps ih =>
    rw [setsNothingUp_cons] at idle
    rw [after_cons, ih idle.2, configuration_step_of_not_setsUp idle.1]

/-- After steps, the log is as the last one that took effect has set it up. -/
theorem configuration_after_of_lastSetsUp {steps : List Step}
    (last : session.LastSetsUp steps options settings) :
    (session.after steps).log.configuration =
      Log.State.configurationOf (options.setup settings) := by
  obtain ⟨earlier, step, later, rfl, effective, idle⟩ := last
  have split : earlier ++ step :: later = (earlier ++ [step]) ++ later := by simp
  rw [split, after_append, configuration_after_of_setsNothingUp idle, after_append]
  exact configuration_step_of_setsUp effective

/-- Of steps, none takes effect on the log or one of them is the last to do so. -/
theorem setsNothingUp_or_lastSetsUp (session : Session) (steps : List Step) :
    session.SetsNothingUp steps ∨ ∃ options settings, session.LastSetsUp steps options settings := by
  induction steps generalizing session with
  | nil =>
    refine .inl fun earlier step later options settings split => ?_
    simp at split
  | cons step steps ih =>
    rcases ih (session.step step).1 with idle | ⟨options, settings, earlier, last, later, split, rest⟩
    · by_cases effective : ∃ options settings, session.SetsUp step options settings
      · obtain ⟨options, settings, effective⟩ := effective
        exact .inr ⟨options, settings, [], step, steps, rfl, effective, idle⟩
      · refine .inl ((setsNothingUp_cons step steps).mpr ⟨fun options settings sets => ?_, idle⟩)
        exact effective ⟨options, settings, sets⟩
    · exact .inr ⟨options, settings, step :: earlier, last, later, by rw [split]; rfl, rest⟩

/-- A set-up writes to no file. -/
theorem written_of_initialise {ready : Session} (made : session.initialise options = .ok ready) :
    ready.log.written = session.log.written := by
  obtain ⟨-, ready', -, -, made', -, written⟩ | ⟨errors, -, failed⟩ | ⟨-, same⟩ :=
    initialise_cases session options
  · rw [made] at made'
    rwa [Except.ok.inj made']
  · rw [made] at failed
    cases failed
  · rw [made] at same
    rw [Except.ok.inj same]

/-- With valid settings, what an invocation asks of the log can be done. -/
theorem exists_ready (valid : Settings.read session.source = .ok settings)
    (invocation : CommandLine.Invocation) : ∃ ready : Session,
      ((logOptions? invocation).map session.initialise).getD (.ok session) = .ok ready ∧
        ready.log.written = session.log.written := by
  cases asked : logOptions? invocation with
  | none => exact ⟨session, rfl, rfl⟩
  | some options =>
    obtain ⟨-, ready, -, -, made, -, written⟩ | ⟨errors, invalid, -⟩ | ⟨-, same⟩ :=
      initialise_cases session options
    · exact ⟨ready, made, written⟩
    · cases valid.symm.trans invalid
    · exact ⟨session, same, rfl⟩

/-- A step reports its events through the log that it has made ready for them. -/
theorem step_eq_report (session : Session) (step : Step) : ∃ ready : Log.State,
    ready.written = session.log.written ∧
      (session.step step).1.log = ready.report (step.reported session) ∧
      (session.step step).2.2 = ready.records (step.reported session) := by
  have ofInitialise (options : Log.Options) : ∃ ready : Log.State,
      ready.written = session.log.written ∧
        (session.step (.initialise options)).1.log = ready.report [] ∧
        (session.step (.initialise options)).2.2 = ready.records [] := by
    cases made : session.initialise options with
    | ok ready => exact ⟨ready.log, written_of_initialise made, by simp [Session.step, made]⟩
    | error errors => exact ⟨session.log, rfl, by simp [Session.step, made]⟩
  cases step with
  | setEnvironment | work =>
    exact ⟨session.log, rfl, by simp [Session.step, Step.reported, report], rfl⟩
  | initialise options => exact ofInitialise options
  | getLogger => exact ofInitialise {}
  | emit event =>
    cases made : session.initialise {} with
    | ok ready =>
      exact ⟨ready.log, written_of_initialise made, by
        simp [Session.step, made, Step.reported, report]⟩
    | error errors => exact ⟨session.log, rfl, by simp [Session.step, made, Step.reported]⟩
  | run arguments =>
    cases valid : Settings.read session.source with
    | error errors =>
      exact ⟨session.log, rfl, by simp [Session.step, run_of_invalid valid, Step.reported, valid]⟩
    | ok settings =>
      cases parsed : CommandLine.Invocation.read settings arguments with
      | error stop =>
        exact ⟨session.log, rfl, by
          simp [Session.step, run_of_stop valid parsed, Step.reported, valid, parsed]⟩
      | ok invocation =>
        obtain ⟨ready, prepared, written⟩ := exists_ready valid invocation
        have ran := run_of_ready valid parsed prepared
        exact ⟨ready.log, written, by
          simp [Session.step, ran, Step.reported, valid, parsed, report]⟩

/-- Whether a step delivers its events as the log is set up that it leaves: unless the log is still to be
set up, those whose severity reaches its level appear on the console, in their order and in its format,
and are added to its file, each once. -/
structure Delivers (session : Session) (step : Step) (log : Log.State) (records : List Log.Record) :
    Prop where
  shown : records =
    if log.isInitialised then
      ((step.reported session).filter fun event => log.level ≤ event.severity.rank).map
        fun event => { format := log.format, event }
    else []
  written : ∀ name, log.fileRecords name = session.log.fileRecords name ++
    if .file name ∈ log.outlets then records else []

/-- A log that was never set up delivers nothing. -/
theorem delivers_of_isInitial (initial : (session.step step).1.log.IsInitial) :
    session.Delivers step (session.step step).1.log (session.step step).2.2 := by
  obtain ⟨ready, written, log, records⟩ := step_eq_report session step
  have outlets : ready.outlets = [] := by
    rw [← initial.outlets, log]
    rfl
  constructor
  · rw [initial.isInitialised, if_neg Bool.false_ne_true, records, Log.State.records, outlets]
    simp
  · intro name
    rw [initial.outlets, if_neg List.not_mem_nil, List.append_nil, log, Log.State.report,
      Log.State.additions, outlets, Log.State.fileRecords, Log.State.fileRecords, written]
    simp

/-- A log that is set up delivers to each outlet what the step reports. -/
theorem delivers_of_isSetUpBy (made : (session.step step).1.log.IsSetUpBy options settings) :
    session.Delivers step (session.step step).1.log (session.step step).2.2 := by
  obtain ⟨ready, written, log, records⟩ := step_eq_report session step
  obtain ⟨file, outlets, -, -⟩ := made.outlets
  have kept : ready.outlets = (session.step step).1.log.outlets := by
    rw [log]
    rfl
  have shown : (session.step step).2.2 = ready.delivered (step.reported session) := by
    rw [records, Log.State.records_eq_delivered (kept.trans outlets)]
  constructor
  · rw [made.isInitialised, if_pos rfl, shown, log]
    rfl
  · intro name
    rw [← kept, shown, log, Log.State.fileRecords_report (kept.trans outlets), Log.State.fileRecords,
      Log.State.fileRecords, written]

end Session

end Inflection
