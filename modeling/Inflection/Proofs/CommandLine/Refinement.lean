import Inflection.Proofs.CommandLine.Arguments
import Inflection.Proofs.Log.Quiet
import Inflection.Session

/-! # The command line answers like the library

A call of the library can be written on the command line in several ways. However it is written, the
program shows the answer of the call: the text on a line, or the explanation of the error with exit code
two. A negative count is refused by the library and never taken for an option. Only a count with more
digits than can be read does not reach the library.
-/

namespace Inflection.CommandLine

/-- A call of the library. What is left open of a style of joining comes from the settings. -/
inductive Call where
  | inflect (word : List Char) (count : Int)
  | conjugate (word : List Char) (count : Int)
  | render (template : List Char) (count : Int)
  | singularize (word : List Char)
  | pluralize (word : List Char)
  | fuzzy (count : Int)
  | join (words : List (List Char)) (separator conjunctive finalSeparator : Option (List Char))

namespace Call

/-- The answer of the library. -/
def answer (settings : Settings) : Call → Except RequestError (List Char)
  | inflect word count => withCount (.int count) (Nouns.inflect word)
  | conjugate word count => withCount (.int count) (Verbs.conjugate word)
  | render template count => renderTemplate template (.int count)
  | singularize word => .ok (Nouns.singularize word)
  | pluralize word => .ok (Nouns.pluralize word)
  | fuzzy count => withCount (.int count) fun n => (fuzzyLabel n).toList
  | join words separator conjunctive finalSeparator =>
    .ok (Phrase.join ⟨separator.getD settings.joinSeparator,
      conjunctive.getD settings.joinConjunctive, finalSeparator⟩ words)

/-- What is to be shown of an answer. A count that cannot even be refused ends the program. -/
def shown : Except RequestError (List Char) → Outcome
  | .ok text => .finished 0 (text ++ ['\n']) []
  | .error (.count .tooLong) => .aborted CountError.tooLong.message
  | .error error => .finished 2 [] ("Error: ".toList ++ error.message ++ ['\n'])

def name : Call → CommandName
  | inflect .. => .inflect
  | conjugate .. => .conjugate
  | render .. => .render
  | singularize _ => .singularize
  | pluralize _ => .pluralize
  | fuzzy _ => .fuzzy
  | join .. => .join

def count? : Call → Option Int
  | inflect _ count | conjugate _ count | render _ count | fuzzy count => some count
  | singularize _ | pluralize _ | join .. => none

/-- How the count of a call is named on the command line. -/
def countTitle (call : Call) : List Char :=
  if call.name = .fuzzy then "count".toList else CommandName.countOption.title

/-- The ways to write a word with a count: the count stands before the word or after it. -/
inductive WritesCount (word : List Char) (n : Int) : List (List Char) → Prop where
  | before {given : List (List Char)} (dashless : word.head? ≠ some '-')
      (gives : GivesCount n given) : WritesCount word n (given ++ [word])
  | after {given : List (List Char)} (dashless : word.head? ≠ some '-')
      (gives : GivesCount n given) : WritesCount word n (word :: given)

/-- The ways to write a call on the command line. -/
inductive IsWritten : Call → List (List Char) → Prop where
  | inflect {word : List Char} {n : Int} {arguments : List (List Char)}
      (written : WritesCount word n arguments) :
      IsWritten (.inflect word n) ("inflect".toList :: arguments)
  | conjugate {word : List Char} {n : Int} {arguments : List (List Char)}
      (written : WritesCount word n arguments) :
      IsWritten (.conjugate word n) ("conjugate".toList :: arguments)
  | render {template : List Char} {n : Int} {arguments : List (List Char)}
      (written : WritesCount template n arguments) :
      IsWritten (.render template n) ("render".toList :: arguments)
  | singularize {word : List Char} (dashless : word.head? ≠ some '-') :
      IsWritten (.singularize word) ["singularize".toList, word]
  | pluralize {word : List Char} (dashless : word.head? ≠ some '-') :
      IsWritten (.pluralize word) ["pluralize".toList, word]
  | fuzzy (n : Int) : IsWritten (.fuzzy n) ["fuzzy".toList, Text.signed n]
  | join {words : List (List Char)} {separator conjunctive finalSeparator : Option (List Char)}
      (dashless : ∀ word ∈ words, word.head? ≠ some '-') :
      IsWritten (.join words separator conjunctive finalSeparator)
        ("join".toList :: (words ++ (optionArguments "--separator" separator ++
          optionArguments "--conjunctive" conjunctive ++
          optionArguments "--final-separator" finalSeparator)))

/-- Whether the values of options in a call are such that they are not taken for options themselves. -/
def HasPlainValues : Call → Prop
  | join _ separator conjunctive finalSeparator =>
    ∀ value ∈ [separator, conjunctive, finalSeparator], ∀ text ∈ value, IsJoinValue text
  | _ => True

def command (settings : Settings) : Call → Command
  | inflect word count => .inflect word (some count)
  | conjugate word count => .conjugate word (some count)
  | render template count => .render template (some count) false
  | singularize word => .singularize word
  | pluralize word => .pluralize word
  | fuzzy count => .fuzzy count
  | join words separator conjunctive finalSeparator =>
    .join words ⟨some (separator.getD settings.joinSeparator),
      conjunctive.getD settings.joinConjunctive, finalSeparator⟩

variable {settings : Settings} {call : Call} {arguments : List (List Char)}

private theorem answer_command :
    (call.command settings).answer = (call.answer settings).mapError .refused := by
  cases call with
  | render template count =>
    change ((renderTemplate template (.int count)).map fun text => text).mapError _ = _
    rw [answer]
    cases renderTemplate template (.int count) <;> rfl
  | _ => rfl

/-- A command shows the answer of the call. -/
theorem outcome_command : (call.command settings).outcome = shown (call.answer settings) := by
  rw [Command.outcome, answer_command]
  cases call.answer settings with
  | ok text => rfl
  | error error =>
    cases error with
    | count error => cases error <;> rfl
    | tag error => rfl

section Named

variable {text word : List Char} {n : Int} {given : List (List Char)}

theorem named_of_dashless (dashless : text.head? ≠ some '-') : ¬emptyName <+: text := by
  rintro ⟨rest, rfl⟩
  exact dashless rfl

theorem named_signed (n : Int) : ¬emptyName <+: Text.signed n := fun begins =>
  absurd (Text.eq_or_isDigit_of_mem_signed (begins.subset (List.mem_of_getLast? rfl))) (by decide)

private theorem named_of_givesCount (gives : GivesCount n given) :
    ∀ text ∈ given, ¬emptyName <+: text := by
  cases gives with
  | long => simpa [emptyName] using named_signed n
  | longAttached => simp [emptyName]
  | short => simpa [emptyName] using named_signed n
  | shortAttached => simp [emptyName]

private theorem named_of_optionArguments {name : String} {value : Option (List Char)}
    (known : ¬emptyName <+: name.toList) (plain : ∀ text ∈ value, IsJoinValue text) :
    ∀ text ∈ optionArguments name value, ¬emptyName <+: text := by
  cases value with
  | none => nofun
  | some text =>
    exact List.forall_mem_cons.mpr ⟨known, List.forall_mem_singleton.mpr (plain text rfl).not_emptyName⟩

end Named

private theorem read_of_writesCount (command : CommandName) {word : List Char} {n : Int}
    (counted : command.takesCount = true) (written : WritesCount word n arguments) :
    Invocation.read settings (command.title.toList :: arguments) =
      if Text.isReadable n then .ok ⟨none, (⟨some [.text word], [(CommandName.countOption, .integer n)],
        []⟩ : Reading).command settings command⟩
      else .error (.fault command.grammar.program
        (.notInteger CommandName.countOption.title (Text.signed n))) := by
  obtain ⟨given, dashless, gives, placed⟩ : ∃ given, word.head? ≠ some '-' ∧ GivesCount n given ∧
      (arguments = given ++ [word] ∨ arguments = word :: given) := by
    cases written with
    | before dashless gives => exact ⟨_, dashless, gives, .inl rfl⟩
    | after dashless gives => exact ⟨_, dashless, gives, .inr rfl⟩
  have named : ∀ text ∈ arguments, ¬emptyName <+: text := by
    rcases placed with rfl | rfl
    · exact List.forall_mem_append.mpr ⟨named_of_givesCount gives,
        List.forall_mem_singleton.mpr (named_of_dashless dashless)⟩
    · exact List.forall_mem_cons.mpr ⟨named_of_dashless dashless, named_of_givesCount gives⟩
  have read := readArguments_of_count counted dashless gives placed
  rw [Invocation.read_command command named read fun reading given => ?_]
  · cases Text.isReadable n <;> rfl
  · split at given <;> cases given
    rfl

private theorem style_of_joinUses (operands : Option (List Argument))
    (separator conjunctive finalSeparator : Option (List Char)) :
    (⟨operands, (joinUses separator conjunctive finalSeparator).map
        fun use => (use.1, .text use.2.2), []⟩ : Reading).style settings =
      ⟨some (separator.getD settings.joinSeparator),
        conjunctive.getD settings.joinConjunctive, finalSeparator⟩ := by
  cases separator <;> cases conjunctive <;> cases finalSeparator <;> rfl

/-- A written call is read as its command, unless the count is too long. -/
theorem read_of_isWritten (written : call.IsWritten arguments) (plain : call.HasPlainValues) :
    Invocation.read settings arguments =
      if call.count?.all Text.isReadable then .ok ⟨none, call.command settings⟩
      else .error (.fault call.name.grammar.program
        (.notInteger call.countTitle (Text.signed (call.count?.getD 0)))) := by
  cases written with
  | inflect written => exact read_of_writesCount .inflect rfl written
  | conjugate written => exact read_of_writesCount .conjugate rfl written
  | render written => exact read_of_writesCount .render rfl written
  | singularize dashless =>
    exact Invocation.read_command .singularize
      (List.forall_mem_singleton.mpr (named_of_dashless dashless))
      (readArguments_of_word dashless (.inl rfl)) (by rintro reading ⟨⟩; rfl)
  | pluralize dashless =>
    exact Invocation.read_command .pluralize
      (List.forall_mem_singleton.mpr (named_of_dashless dashless))
      (readArguments_of_word dashless (.inr rfl)) (by rintro reading ⟨⟩; rfl)
  | fuzzy n =>
    have named : ∀ text ∈ [Text.signed n], ¬emptyName <+: text :=
      List.forall_mem_singleton.mpr (named_signed n)
    refine (Invocation.read_command .fuzzy named (readArguments_of_number n) ?_).trans ?_
    · intro reading given
      split at given <;> cases given
      rfl
    · change _ = if Text.isReadable n then _ else _
      cases Text.isReadable n <;> rfl
  | @join words separator conjunctive finalSeparator dashless =>
    have separators := plain
    simp only [HasPlainValues, List.forall_mem_cons, List.not_mem_nil, false_imp_iff, implies_true,
      and_true] at separators
    have named : ∀ text ∈ words ++ (optionArguments "--separator" separator ++
        optionArguments "--conjunctive" conjunctive ++
        optionArguments "--final-separator" finalSeparator), ¬emptyName <+: text := by
      simp only [List.forall_mem_append]
      exact ⟨fun word member => named_of_dashless (dashless word member),
        ⟨named_of_optionArguments (by decide) separators.1,
          named_of_optionArguments (by decide) separators.2.1⟩,
        named_of_optionArguments (by decide) separators.2.2⟩
    have texts : (words.map Argument.text).filterMap Argument.text? = words := by
      simp [List.filterMap_map, Function.comp_def, Argument.text?]
    refine (Invocation.read_command .join named (readArguments_of_words dashless plain) ?_).trans ?_
    · rintro reading ⟨⟩
      rfl
    · rw [Except.map, Reading.command, style_of_joinUses, Reading.texts, Option.getD_some, texts]
      rfl

/-- However a call is written, the program shows the answer of the library and nothing else. It reports
an error of usage for a count that is too long. -/
theorem run_of_isWritten {session : Session} (valid : Settings.read session.source = .ok settings)
    (written : call.IsWritten arguments) (plain : call.HasPlainValues) :
    (session.run arguments).2.1 = .ran
        (if call.count?.all Text.isReadable then shown (call.answer settings)
        else .misuse (usageLine call.name.grammar.program
          (.notInteger call.countTitle (Text.signed (call.count?.getD 0))))) ∧
      (Log.Level.standard ≤ session.log.level → (session.run arguments).2.2 = []) := by
  have read : Invocation.read settings arguments = _ := read_of_isWritten written plain
  split at read
  · next short =>
    rw [if_pos short, Session.run_of_ready valid read rfl, outcome_command]
    exact ⟨rfl, Log.State.records_of_isQuiet (Command.isQuiet_events _)⟩
  · next long =>
    rw [if_neg long, Session.run_of_stop valid read]
    exact ⟨rfl, fun _ => rfl⟩

theorem run_of_isWritten_negative_and_joined :
    (({} : Session).run ["inflect".toList, "-n-3".toList, "box".toList]).2.1 =
        .ran (.finished 2 [] "Error: Count must be a non-negative integer, got -3\n".toList) ∧
      (({} : Session).run ["join".toList, "a".toList, "b".toList, "c".toList, "--separator".toList,
        ";".toList]).2.1 = .ran (.finished 0 "a;b; and c\n".toList []) := by
  have valid : Settings.read ({} : Session).source = .ok {} := rfl
  have negative : (inflect "box".toList (-3)).IsWritten
      ["inflect".toList, "-n-3".toList, "box".toList] :=
    .inflect (.before (by decide) .shortAttached)
  have joined : (join ["a".toList, "b".toList, "c".toList] (some ";".toList) none none).IsWritten
      ["join".toList, "a".toList, "b".toList, "c".toList, "--separator".toList, ";".toList] :=
    .join (by decide)
  have separator : IsJoinValue ";".toList := isJoinValue_of_head? (by decide)
  have plain : (join ["a".toList, "b".toList, "c".toList] (some ";".toList) none
      none).HasPlainValues := by
    simpa [HasPlainValues] using separator
  exact ⟨(run_of_isWritten valid negative trivial).1, (run_of_isWritten valid joined plain).1⟩

def longCount : Nat :=
  10 ^ Text.maxDigits

theorem isReadable_longCount : Text.isReadable longCount = false := by
  refine Text.isReadable_eq_false ?_
  rw [Int.natAbs_natCast, longCount]

private theorem nine_lt_longCount : 9 < longCount :=
  Nat.lt_of_lt_of_le (show 9 < 10 ^ 1 by decide)
    (Nat.pow_le_pow_right (by decide) (show 1 ≤ Text.maxDigits by decide))

private theorem answer_fuzzy_of_lt {n : Nat} (large : 9 < n) :
    (fuzzy n).answer settings = .ok "many".toList := by
  have beyond : fuzzyThresholds.find? (n ≤ ·.1) = none := by
    simp [fuzzyThresholds]
    omega
  rw [answer, withCount, checkCount_ofNat]
  simp only [fuzzyLabel, beyond]
  rfl

private theorem run_fuzzy_of_long {session : Session} {n : Int}
    (valid : Settings.read session.source = .ok settings) (long : Text.isReadable n = false) :
    (session.run ["fuzzy".toList, Text.signed n]).2.1 = .ran (.misuse (usageLine
      CommandName.fuzzy.grammar.program (.notInteger "count".toList (Text.signed n)))) := by
  have read : Invocation.read settings _ = _ := read_of_isWritten (.fuzzy n) trivial
  rw [if_neg (show ¬(count? (.fuzzy n)).all Text.isReadable = true from
    ne_true_of_eq_false long)] at read
  rw [Session.run_of_stop valid read]
  rfl

/-- The library has an answer for a count with too many digits, and it joins words by a text that looks
like an option, but the program shows neither. -/
theorem run_ne_shown :
    ((fuzzy longCount).IsWritten ["fuzzy".toList, Text.signed longCount] ∧
      (fuzzy longCount).answer {} = .ok "many".toList ∧
      (({} : Session).run ["fuzzy".toList, Text.signed longCount]).2.1 ≠
        .ran (.finished 0 "many\n".toList [])) ∧
    (join ["a".toList, "b".toList, "c".toList] (some "-x".toList) none none).IsWritten
        ["join".toList, "a".toList, "b".toList, "c".toList, "--separator".toList, "-x".toList] ∧
      (join ["a".toList, "b".toList, "c".toList] (some "-x".toList) none none).answer {} =
        .ok "a-xb-x and c".toList ∧
      (({} : Session).run ["join".toList, "a".toList, "b".toList, "c".toList, "--separator".toList,
        "-x".toList]).2.1 ≠ .ran (.finished 0 "a-xb-x and c\n".toList []) := by
  have valid : Settings.read ({} : Session).source = .ok {} := rfl
  refine ⟨⟨.fuzzy _, answer_fuzzy_of_lt nine_lt_longCount, ?_⟩, .join (by decide), rfl, nofun⟩
  rw [run_fuzzy_of_long valid isReadable_longCount]
  nofun

end Call

end Inflection.CommandLine
