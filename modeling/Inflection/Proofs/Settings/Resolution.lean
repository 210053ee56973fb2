import Inflection.Proofs.Session.Independence
import Inflection.Proofs.Settings.Dotenv
import Inflection.Proofs.Settings.Environment

/-! # How settings are settled

The value that counts for a setting is that of its environment variable, or else that of the last line of
the environment file that assigns to it, or else its default. Reading the settings gives these values, and
it fails exactly if one of those that count is wrong: a wrong value that another one hides does no harm.
The program ends with the errors in the settings, whatever its arguments are.
-/

namespace Inflection

open Text (lowered)

namespace Settings

/-- The value of a setting in writing. Only the log file need not have one. -/
def text (settings : Settings) : Field → Option (List Char)
  | .appName => some settings.appName
  | .logLevel => some settings.logLevel
  | .logFormat => some settings.logFormat.name.toList
  | .logFile => settings.logFile
  | .joinSeparator => some settings.joinSeparator
  | .joinConjunctive => some settings.joinConjunctive

/-- The assignments that an environment file makes, if there is one. -/
inductive HasAssignments : Option (List Char) → Environment → Prop where
  | absent : HasAssignments none []
  | present {file : List Char} {assignments : Environment} (lines : Dotenv.IsFile file assignments) :
      HasAssignments (some file) assignments

/-- The value that counts for a setting, given variables and the assignments of a file in their order.
Names are those of a setting whatever the case of their letters is. -/
inductive IsEffective (environment assignments : Environment) (field : Field) :
    Option (List Char) → Prop where
  | environment {name value : List Char} (set : (name, value) ∈ environment)
      (same : lowered name = lowered field.variableName) :
      IsEffective environment assignments field (some value)
  | file {name value : List Char} {earlier later : Environment}
      (unset : ∀ entry ∈ environment, lowered entry.1 ≠ lowered field.variableName)
      (split : assignments = earlier ++ (name, value) :: later)
      (same : lowered name = lowered field.variableName)
      (last : ∀ entry ∈ later, lowered entry.1 ≠ lowered field.variableName) :
      IsEffective environment assignments field (some value)
  | default (unset : ∀ entry ∈ environment, lowered entry.1 ≠ lowered field.variableName)
      (unassigned : ∀ entry ∈ assignments, lowered entry.1 ≠ lowered field.variableName) :
      IsEffective environment assignments field (({} : Settings).text field)

/-- The value of a setting in a source, or else its default. -/
def Source.effective (source : Source) (field : Field) : Option (List Char) :=
  (source.value? field).or (({} : Settings).text field)

/-- The settings of a source that are in error, in the order of the fields. -/
def Source.errors (source : Source) : List InvalidSetting :=
  faultOf .logFormat (readFormat (source.value? .logFormat)) ++
    faultOf .joinSeparator (readSeparator (source.value? .joinSeparator))

variable {source : Source} {environment assignments : Environment} {dotenv value given : Option (List Char)}
  {field : Field} {settings : Settings} {errors : List InvalidSetting} {name : List Char}

section Values

/-- All names of settings are in ASCII and have no k, which only the kelvin sign shares with ASCII. -/
theorem sameName_variableName :
    Environment.sameName name field.variableName = true ↔ lowered name = lowered field.variableName := by
  refine Environment.sameName_iff_lowered ?_
  cases field with
  | appName | logLevel | logFormat | logFile | joinSeparator | joinConjunctive => decide

private theorem sameName_variableName_eq_false :
    Environment.sameName name field.variableName = false ↔ lowered name ≠ lowered field.variableName := by
  rw [ne_eq, ← sameName_variableName, Bool.not_eq_true]

private theorem value?_eq (file : HasAssignments dotenv assignments)
    (spelling : ∀ a ∈ assignments, ∀ b ∈ assignments, lowered a.1 = lowered b.1 → a.1 = b.1) (field : Field) :
    Source.value? ⟨environment, dotenv⟩ field =
      (environment.lookup? field.variableName).or (Environment.lookup? assignments field.variableName) := by
  cases file with
  | absent => rfl
  | present lines =>
    have read := Environment.lookup?_foldl_assign
      (fun a inside b inside' same => spelling a inside b inside' (Environment.lowered_eq_of_sameName same))
      field.variableName
    rw [← read, ← Dotenv.filterMap_readLine? lines]
    rfl

/-- Exactly one value counts for a setting: the one that is looked up, or else the default. -/
theorem isEffective_iff (distinct : environment.Pairwise fun a b => lowered a.1 ≠ lowered b.1) :
    IsEffective environment assignments field value ↔
      ((environment.lookup? field.variableName).or (Environment.lookup? assignments field.variableName)).or
        (({} : Settings).text field) = value := by
  constructor
  · intro effective
    cases effective with
    | environment set same =>
      rw [Environment.lookup?_eq_some_of_mem distinct set (sameName_variableName.mpr same)]
      rfl
    | file unset split same last =>
      rw [Environment.lookup?_eq_none_iff.mpr fun entry member =>
          sameName_variableName_eq_false.mpr (unset entry member),
        Environment.lookup?_eq_some_iff.mpr ⟨_, _, _, split, sameName_variableName.mpr same,
          fun entry member => sameName_variableName_eq_false.mpr (last entry member)⟩]
      rfl
    | default unset unassigned =>
      rw [Environment.lookup?_eq_none_iff.mpr fun entry member =>
          sameName_variableName_eq_false.mpr (unset entry member),
        Environment.lookup?_eq_none_iff.mpr fun entry member =>
          sameName_variableName_eq_false.mpr (unassigned entry member)]
      rfl
  · rintro rfl
    cases set : environment.lookup? field.variableName with
    | some value =>
      obtain ⟨earlier, name, later, rfl, same, -⟩ := Environment.lookup?_eq_some_iff.mp set
      exact .environment (List.mem_append_right _ List.mem_cons_self) (sameName_variableName.mp same)
    | none =>
      have unset : ∀ entry ∈ environment, lowered entry.1 ≠ lowered field.variableName :=
        fun entry member => sameName_variableName_eq_false.mp (Environment.lookup?_eq_none_iff.mp set entry member)
      cases assigned : Environment.lookup? assignments field.variableName with
      | some value =>
        obtain ⟨earlier, name, later, split, same, last⟩ := Environment.lookup?_eq_some_iff.mp assigned
        exact .file unset split (sameName_variableName.mp same)
          fun entry member => sameName_variableName_eq_false.mp (last entry member)
      | none =>
        exact .default unset fun entry member =>
          sameName_variableName_eq_false.mp (Environment.lookup?_eq_none_iff.mp assigned entry member)

end Values

section Reading

theorem ofName?_eq_some_iff {format : Log.Format} :
    Log.Format.ofName? name = some format ↔ name = format.name.toList := by
  constructor
  · intro found
    have own := List.find?_some found
    exact (beq_iff_eq.mp own).symm
  · rintro rfl
    cases format with
    | console | json => decide

/-- A format is read from its name, given or by default. -/
theorem readFormat_eq_ok_iff {format : Log.Format} : readFormat given = .ok format ↔
    given.or (({} : Settings).text .logFormat) = some format.name.toList := by
  cases given with
  | none =>
    cases format with
    | console | json => decide
  | some name =>
    rw [Option.some_or, Option.some.injEq, ← ofName?_eq_some_iff, readFormat]
    cases Log.Format.ofName? name with
    | none => simp
    | some other => simp

/-- A separator is read as it is, given or by default, unless it is empty. -/
theorem readSeparator_eq_ok_iff {separator : List Char} : readSeparator given = .ok separator ↔
    separator ≠ [] ∧ given.or (({} : Settings).text .joinSeparator) = some separator := by
  cases given with
  | none =>
    rw [readSeparator, Except.ok.injEq, Option.none_or, text, Option.some.injEq]
    refine ⟨?_, And.right⟩
    rintro rfl
    exact ⟨by decide, rfl⟩
  | some value =>
    rw [Option.some_or, Option.some.injEq]
    cases value with
    | nil =>
      refine ⟨nofun, ?_⟩
      rintro ⟨present, rfl⟩
      contradiction
    | cons c value =>
      rw [readSeparator, Except.ok.injEq]
      · refine ⟨?_, And.right⟩
        rintro rfl
        exact ⟨List.cons_ne_nil c value, rfl⟩
      · exact List.cons_ne_nil c value

/-- The settings that are read have the values that count, and are read if the separator is not empty. -/
theorem read_eq_ok_iff : read source = .ok settings ↔
    settings.joinSeparator ≠ [] ∧ ∀ field, source.effective field = settings.text field := by
  rw [read]
  constructor
  · intro valid
    cases formatted : readFormat (source.value? .logFormat) with
    | error fault =>
      rw [formatted] at valid
      cases valid
    | ok format =>
      cases separated : readSeparator (source.value? .joinSeparator) with
      | error fault =>
        rw [formatted, separated] at valid
        cases valid
      | ok separator =>
        rw [formatted, separated] at valid
        obtain rfl := Except.ok.inj valid
        obtain ⟨present, separated⟩ := readSeparator_eq_ok_iff.mp separated
        refine ⟨present, fun field => ?_⟩
        cases field with
        | logFormat => exact readFormat_eq_ok_iff.mp formatted
        | joinSeparator => exact separated
        | logFile => exact Option.or_none
        | appName | logLevel | joinConjunctive => exact Option.or_some
  · rintro ⟨present, effective⟩
    rw [readFormat_eq_ok_iff.mpr (effective .logFormat),
      readSeparator_eq_ok_iff.mpr ⟨present, effective .joinSeparator⟩]
    have appName := effective .appName
    have logLevel := effective .logLevel
    have logFile := effective .logFile
    have joinConjunctive := effective .joinConjunctive
    simp only [Source.effective, text, Option.or_some, Option.or_none, Option.some.injEq]
      at appName logLevel logFile joinConjunctive
    simp only [appName, logLevel, logFile, joinConjunctive]

/-- The settings cannot be read exactly if there are errors in them, and then all of these are reported. -/
theorem read_eq_error_iff : read source = .error errors ↔ errors ≠ [] ∧ errors = source.errors := by
  have reported {found : List InvalidSetting} (present : found ≠ []) :
      (.error found : Except (List InvalidSetting) Settings) = .error errors ↔
        errors ≠ [] ∧ errors = found := by
    rw [Except.error.injEq, eq_comm (a := errors)]
    refine ⟨?_, And.right⟩
    rintro rfl
    exact ⟨present, rfl⟩
  rw [read, Source.errors]
  cases readFormat (source.value? .logFormat) with
  | error fault =>
    cases readSeparator (source.value? .joinSeparator) with
    | error fault' => exact reported (by simp [faultOf])
    | ok separator => exact reported (by simp [faultOf])
  | ok format =>
    cases readSeparator (source.value? .joinSeparator) with
    | error fault' => exact reported (by simp [faultOf])
    | ok separator =>
      refine ⟨nofun, ?_⟩
      rintro ⟨present, rfl⟩
      exact absurd rfl present

/-- A format is in error unless it is one of the names of formats. -/
theorem faultOf_readFormat {format : List Char}
    (formatted : given.or (({} : Settings).text .logFormat) = some format) :
    faultOf .logFormat (readFormat given) =
      if format = "console".toList ∨ format = "json".toList then [] else [⟨.logFormat, .notAllowed⟩] := by
  have named : (format = "console".toList ∨ format = "json".toList) ↔
      ∃ known : Log.Format, format = known.name.toList := by
    constructor
    · rintro (rfl | rfl)
      · exact ⟨.console, rfl⟩
      · exact ⟨.json, rfl⟩
    · rintro ⟨known, rfl⟩
      cases known with
      | console => exact .inl rfl
      | json => exact .inr rfl
  by_cases known : ∃ known : Log.Format, format = known.name.toList
  · rw [if_pos (named.mpr known)]
    obtain ⟨known, rfl⟩ := known
    rw [readFormat_eq_ok_iff.mpr formatted]
    rfl
  · rw [if_neg (mt named.mp known)]
    cases given with
    | none => exact absurd ⟨.console, (Option.some.inj formatted).symm⟩ known
    | some name =>
      obtain rfl : name = format := Option.some.inj formatted
      cases found : Log.Format.ofName? name with
      | some other => exact absurd ⟨other, ofName?_eq_some_iff.mp found⟩ known
      | none => simp [readFormat, found, faultOf]

/-- A separator is in error if it is empty. -/
theorem faultOf_readSeparator {separator : List Char}
    (separated : given.or (({} : Settings).text .joinSeparator) = some separator) :
    faultOf .joinSeparator (readSeparator given) =
      if separator = [] then [⟨.joinSeparator, .tooShort⟩] else [] := by
  by_cases empty : separator = []
  · rw [if_pos empty]
    rw [empty] at separated
    cases given with
    | none => exact absurd separated (by decide)
    | some value =>
      obtain rfl : value = [] := Option.some.inj separated
      rfl
  · rw [if_neg empty, readSeparator_eq_ok_iff.mpr ⟨empty, separated⟩]
    rfl

end Reading

end Settings

/-- A run ends with errors in the settings exactly if they cannot be read. -/
theorem Session.run_eq_invalidSettings_iff {session : Session} {arguments : List (List Char)}
    {errors : List InvalidSetting} : (session.run arguments).2.1 = .invalidSettings errors ↔
      Settings.read session.source = .error errors := by
  cases read : Settings.read session.source with
  | ok settings =>
    rw [run_result_eq read]
    simp
  | error faults =>
    rw [run_of_invalid read]
    simp

namespace Settings

/-- Settings are settled by the variables and the file in one way. They are read exactly as the values that
count, and cannot be read exactly if the format that counts is not one of those that there are or the
separator that counts is empty; these are the errors that are reported, and every run of the program ends
with them. -/
theorem read_settles (distinct : environment.Pairwise fun a b => lowered a.1 ≠ lowered b.1)
    (file : HasAssignments dotenv assignments)
    (spelling : ∀ a ∈ assignments, ∀ b ∈ assignments, lowered a.1 = lowered b.1 → a.1 = b.1) :
    (∀ field, ∃! value, IsEffective environment assignments field value) ∧
    (∀ settings, read ⟨environment, dotenv⟩ = .ok settings ↔ settings.joinSeparator ≠ [] ∧
      ∀ field, IsEffective environment assignments field (settings.text field)) ∧
    (∃ format separator, IsEffective environment assignments .logFormat (some format) ∧
      IsEffective environment assignments .joinSeparator (some separator) ∧
      ∀ errors, read ⟨environment, dotenv⟩ = .error errors ↔ errors ≠ [] ∧ errors =
        (if format = "console".toList ∨ format = "json".toList then [] else [⟨.logFormat, .notAllowed⟩]) ++
          if separator = [] then [⟨.joinSeparator, .tooShort⟩] else []) ∧
    ∀ log arguments errors, (Session.run ⟨⟨environment, dotenv⟩, log⟩ arguments).2.1 =
      .invalidSettings errors ↔ read ⟨environment, dotenv⟩ = .error errors := by
  have effective (field : Field) (value : Option (List Char)) :
      IsEffective environment assignments field value ↔
        Source.effective ⟨environment, dotenv⟩ field = value := by
    rw [isEffective_iff distinct, Source.effective, value?_eq file spelling]
  have always (field : Field) {default : List Char} (text : ({} : Settings).text field = some default) :
      ∃ value, Source.effective ⟨environment, dotenv⟩ field = some value := by
    rw [Source.effective, text, Option.or_some]
    exact ⟨_, rfl⟩
  refine ⟨fun field => ?_, fun settings => ?_, ?_, fun log arguments errors => ?_⟩
  · exact ⟨_, (effective field _).mpr rfl, fun value other => ((effective field value).mp other).symm⟩
  · simp only [read_eq_ok_iff, effective]
  · obtain ⟨format, formatted⟩ := always .logFormat rfl
    obtain ⟨separator, separated⟩ := always .joinSeparator rfl
    refine ⟨format, separator, (effective _ _).mpr formatted, (effective _ _).mpr separated, ?_⟩
    intro errors
    rw [read_eq_error_iff, Source.errors, faultOf_readFormat formatted, faultOf_readSeparator separated]
  · exact Session.run_eq_invalidSettings_iff

/-- A file with a format that there is not and with an empty separator, which do not count. -/
def hiddenFaults : List Char :=
  "# style".toList ++ '\n' :: ("export INFLECT_LOG_FORMAT = 'plain'".toList ++ '\n' ::
    ("INFLECT_JOIN_SEPARATOR=".toList ++ '\r' :: " INFLECT_JOIN_SEPARATOR=\"; \" ".toList))

def hiddenAssignments : Environment :=
  [("INFLECT_LOG_FORMAT".toList, "plain".toList), ("INFLECT_JOIN_SEPARATOR".toList, []),
    ("INFLECT_JOIN_SEPARATOR".toList, "; ".toList)]

theorem hasAssignments_hiddenFaults : HasAssignments (some hiddenFaults) hiddenAssignments := by
  have space : Dotenv.IsGap [' '] := List.forall_mem_singleton.mpr (by decide)
  have nothing : Dotenv.IsGap [] := List.forall_mem_nil _
  have format : Dotenv.IsName "INFLECT_LOG_FORMAT".toList := by decide
  have separator : Dotenv.IsName "INFLECT_JOIN_SEPARATOR".toList := by decide
  have style : Dotenv.IsLine "# style".toList none :=
    .comment nothing (Dotenv.forall_line (by decide))
  have quoted : Dotenv.IsValue "'plain'".toList "plain".toList :=
    @Dotenv.IsValue.quoted '\'' "plain".toList (.inl rfl) (Dotenv.forall_line (by decide)) (by decide)
  have blank : Dotenv.IsValue "\"; \"".toList "; ".toList :=
    @Dotenv.IsValue.quoted '"' "; ".toList (.inr rfl) (Dotenv.forall_line (by decide)) (by decide)
  have empty : Dotenv.IsValue [] [] := .plain (List.forall_mem_nil _) (by simp) (by simp) List.isChain_nil
  have plain : Dotenv.IsLine "export INFLECT_LOG_FORMAT = 'plain'".toList
      (some ("INFLECT_LOG_FORMAT".toList, "plain".toList)) :=
    .assignment nothing (.exported space) format space space quoted nothing
  have bare : Dotenv.IsLine "INFLECT_JOIN_SEPARATOR=".toList (some ("INFLECT_JOIN_SEPARATOR".toList, [])) :=
    .assignment nothing (.bare fun _ => rfl) separator nothing nothing empty nothing
  have semicolon : Dotenv.IsLine " INFLECT_JOIN_SEPARATOR=\"; \" ".toList
      (some ("INFLECT_JOIN_SEPARATOR".toList, "; ".toList)) :=
    .assignment space (.bare fun _ => rfl) separator nothing nothing blank space
  exact .present (.more style (by decide) (.more plain (by decide) (.more bare (by decide) (.last semicolon))))

theorem read_settles_hiddenFaults :
    [("Inflect_Log_Format".toList, "json".toList)].Pairwise (fun a b => lowered a.1 ≠ lowered b.1) ∧
      HasAssignments (some hiddenFaults) hiddenAssignments ∧
      (∀ a ∈ hiddenAssignments, ∀ b ∈ hiddenAssignments, lowered a.1 = lowered b.1 → a.1 = b.1) ∧
      read ⟨[("Inflect_Log_Format".toList, "json".toList)], some hiddenFaults⟩ =
        .ok { logFormat := .json, joinSeparator := "; ".toList } := by
  have distinct : [("Inflect_Log_Format".toList, "json".toList)].Pairwise
      (fun a b => lowered a.1 ≠ lowered b.1) := List.pairwise_singleton _ _
  have spelling : ∀ a ∈ hiddenAssignments, ∀ b ∈ hiddenAssignments,
      lowered a.1 = lowered b.1 → a.1 = b.1 := by decide
  obtain ⟨-, valid, -, -⟩ := read_settles distinct hasAssignments_hiddenFaults spelling
  refine ⟨distinct, hasAssignments_hiddenFaults, spelling, (valid _).mpr ⟨by decide, fun field => ?_⟩⟩
  cases field with
  | logFormat => exact .environment (List.mem_singleton_self _) (by decide)
  | joinSeparator =>
    have split : hiddenAssignments = hiddenAssignments.take 2 ++
        [("INFLECT_JOIN_SEPARATOR".toList, "; ".toList)] := rfl
    exact .file (by decide) split rfl (List.forall_mem_nil _)
  | appName | logLevel | logFile | joinConjunctive => exact .default (by decide) (by decide)

end Settings

end Inflection
