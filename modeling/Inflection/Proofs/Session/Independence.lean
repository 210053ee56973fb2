import Inflection.Proofs.Session.Setup

/-! # What a run shows does not depend on settings or the log

The settings take part in a command only where words are joined and the style is left open, and the log
takes part in no command at all: setting it up by force cannot fail once the settings were read. Two runs
with the same arguments therefore end alike, whatever the environment and the log are like, as long as
the arguments leave nothing of the style of joining open.
-/

namespace Inflection

namespace CommandLine

/-- Whether arguments make a command: they name it, its own arguments are in order, and no argument is
left over. -/
inductive Makes (arguments : List (List Char)) : CommandName → Reading → Prop where
  | intro {tokens : List Token} {main reading : Reading} {text : List Char}
      {rest : List (List Char)} {name : CommandName}
      (meanings : Token.ofArguments mainOptions arguments = .ok tokens)
      (found : readMain (tokens.length + 1) {} tokens arguments = .ok (main, text, rest))
      (named : readCommandName text = .ok name)
      (read : readArguments name.grammar rest = .ok reading)
      (all : main.extras ++ reading.extras = []) : Makes arguments name reading

/-- Whether a separator and a conjunctive are among what was read. -/
def Reading.HasStyle (reading : Reading) : Prop :=
  (reading.value? "--separator").isSome = true ∧ (reading.value? "--conjunctive").isSome = true

/-- Whether arguments leave nothing of the style of joining open: if they make a command that joins words,
then they give a separator and a conjunctive. -/
def SettleStyle (arguments : List (List Char)) : Prop :=
  ∀ reading, Makes arguments .join reading → reading.HasStyle

variable {arguments : List (List Char)} {reading : Reading} {name : CommandName}

/-- Whether arguments make a command, and which one, is decided before the settings are asked. -/
theorem Invocation.read_cases (arguments : List (List Char)) :
    (∃ stop, ∀ settings, Invocation.read settings arguments = .error stop) ∨
      ∃ level name reading, Makes arguments name reading ∧ ∀ settings,
        Invocation.read settings arguments = .ok ⟨level, reading.command settings name⟩ := by
  cases meanings : Token.ofArguments mainOptions arguments with
  | error fault =>
    exact .inl ⟨.fault programName.toList fault, fun settings => by
      simp only [Invocation.read, meanings]⟩
  | ok tokens =>
    cases found : readMain (tokens.length + 1) {} tokens arguments with
    | error stop =>
      exact .inl ⟨stop, fun settings => by
        simp only [Invocation.read, meanings, found, bind, Except.bind]⟩
    | ok parts =>
      obtain ⟨main, text, rest⟩ := parts
      cases named : readCommandName text with
      | error stop =>
        exact .inl ⟨stop, fun settings => by
          simp only [Invocation.read, meanings, found, named, bind, Except.bind]⟩
      | ok name =>
        cases read : readArguments name.grammar rest with
        | error stop =>
          exact .inl ⟨stop, fun settings => by
            simp only [Invocation.read, meanings, found, named, read, bind, Except.bind]⟩
        | ok reading =>
          cases all : main.extras ++ reading.extras with
          | cons extra extras =>
            exact .inl ⟨.fault programName.toList (.unrecognised (extra :: extras)), fun settings => by
              simp only [Invocation.read, meanings, found, named, read, all, bind, Except.bind]⟩
          | nil =>
            refine .inr ⟨main.text? "--log-level", name, reading,
              ⟨meanings, found, named, read, all⟩, fun settings => ?_⟩
            simp only [Invocation.read, meanings, found, named, read, all, bind, Except.bind]
            rfl

private theorem Reading.style_eq_of_hasStyle (given : reading.HasStyle) (first second : Settings) :
    reading.style first = reading.style second := by
  obtain ⟨separator, separatorGiven⟩ := Option.isSome_iff_exists.mp given.1
  obtain ⟨conjunctive, conjunctiveGiven⟩ := Option.isSome_iff_exists.mp given.2
  simp only [style, separatorGiven, conjunctiveGiven, Option.elim_some]

/-- Only a command that joins words asks the settings, and only for a style that is left open. -/
theorem Reading.command_eq_of_hasStyle (given : name = .join → reading.HasStyle)
    (first second : Settings) : reading.command first name = reading.command second name := by
  cases name with
  | join => rw [command, command, style_eq_of_hasStyle (given rfl) first second]
  | render | singularize | pluralize | inflect | conjugate | fuzzy => rfl

/-- Arguments that leave no style open have one outcome with all settings. -/
theorem outcome_eq_of_settleStyle (settled : SettleStyle arguments) (first second : Settings) :
    outcome first arguments = outcome second arguments := by
  obtain ⟨stop, read⟩ | ⟨level, name, reading, makes, read⟩ := Invocation.read_cases arguments
  · rw [outcome, outcome, read, read]
  · have given : name = .join → reading.HasStyle := by
      rintro rfl
      exact settled reading makes
    simp only [outcome, read, Reading.command_eq_of_hasStyle given first second]

end CommandLine

namespace Session

open CommandLine (SettleStyle)

variable {session first second : Session} {arguments : List (List Char)}
  {settings settings₁ settings₂ : Settings}

/-- With valid settings, a run ends with the outcome of its arguments, whatever the state of the log. -/
theorem run_result_eq (valid : Settings.read session.source = .ok settings) :
    (session.run arguments).2.1 = .ran (CommandLine.outcome settings arguments) := by
  rw [CommandLine.outcome]
  cases parsed : CommandLine.Invocation.read settings arguments with
  | error stop => rw [run_of_stop valid parsed]
  | ok invocation =>
    obtain ⟨ready, prepared, -⟩ := exists_ready valid invocation
    rw [run_of_ready valid parsed prepared]

/-- Two runs with the same arguments end with the same outcome, whatever their environments, the files
beside them and their logs are like, unless words are joined in a style that is left open. -/
theorem run_independent (valid₁ : Settings.read first.source = .ok settings₁)
    (valid₂ : Settings.read second.source = .ok settings₂) (settled : SettleStyle arguments) :
    ∃ outcome, (first.run arguments).2.1 = .ran outcome ∧ (second.run arguments).2.1 = .ran outcome := by
  refine ⟨CommandLine.outcome settings₁ arguments, run_result_eq valid₁, ?_⟩
  rw [run_result_eq valid₂, CommandLine.outcome_eq_of_settleStyle settled settings₂ settings₁]

/-- A session with settings of its own and a log that is set up for people who want to see everything. -/
def talkative : Session where
  source :=
    ⟨[("INFLECT_LOG_FORMAT".toList, "json".toList), ("inflect_join_separator".toList, "; ".toList)],
      some "INFLECT_JOIN_CONJUNCTIVE=or\n".toList⟩
  log := { setup := some ⟨10, .json, some "events.log".toList⟩ }

def styledArguments : List (List Char) :=
  ["--log-level", "debug", "join", "a", "b", "c", "--sep=/", "--conj", "und"].map String.toList

theorem run_independent_talkative :
    (({} : Session).run styledArguments).2.1 = .ran (.finished 0 "a/b/ und c\n".toList []) ∧
      (talkative.run styledArguments).2.1 = .ran (.finished 0 "a/b/ und c\n".toList []) := by
  have settled : SettleStyle styledArguments := by
    rintro reading ⟨meanings, found, named, read, -⟩
    cases meanings
    cases found
    cases read
    exact ⟨rfl, rfl⟩
  have valid : Settings.read ({} : Session).source = .ok {} := by rfl
  obtain ⟨settings, talkativeValid⟩ : ∃ settings, Settings.read talkative.source = .ok settings :=
    ⟨_, by rfl⟩
  obtain ⟨outcome, first, second⟩ := run_independent valid talkativeValid settled
  have shown : (({} : Session).run styledArguments).2.1 =
      .ran (.finished 0 "a/b/ und c\n".toList []) := by rfl
  rw [shown] at first
  exact ⟨shown, second.trans first.symm⟩

end Session

end Inflection
