import Inflection.Proofs.CommandLine.Refinement
import Inflection.Proofs.Json.Reading
import Inflection.Proofs.Json.Writing

/-! # Rendered templates as JSON

With the option for it, the program shows a rendered template as an object in JSON, on one line: the
template, the count and the text, in this order. Every decoder that follows the grammar of JSON gets the
three of them back as they are, whatever characters they have.
-/

namespace Inflection.CommandLine

variable {settings : Settings} {template text : List Char} {n : Nat}

def jsonOption : OptionSpec :=
  ⟨["--json"], .switch, false⟩

/-- An option without a value is read by itself. -/
theorem readTokens_of_switch {grammar : Grammar} {reading : Reading} {option : OptionSpec} {name : List Char}
    {fuel : Nat} {rest : List Token} (switch : option.kind = .switch) :
    readTokens grammar (fuel + 1) reading (.known option name none :: rest) =
      readTokens grammar fuel (reading.give option .given) rest := by
  obtain ⟨names, kind, required⟩ := option
  obtain rfl : kind = .switch := switch
  rw [readTokens, if_pos (by simp [Token.isOption])]
  rfl

/-- A template, its count and the option for JSON are read, unless the count is too long. -/
theorem readArguments_of_json (dashless : template.head? ≠ some '-') (n : Nat) :
    readArguments CommandName.render.grammar
        [template, "--count".toList, Text.signed n, "--json".toList] =
      if Text.isReadable n then
        .ok ⟨some [.text template], [(CommandName.countOption, .integer n), (jsonOption, .given)], []⟩
      else .error (.fault CommandName.render.grammar.program
        (.notInteger CommandName.countOption.title (Text.signed n))) := by
  have switch : Token.Means CommandName.render.grammar.options "--json".toList
      (.known jsonOption "--json".toList none) := ⟨by simp, rfl⟩
  have count : Token.Means CommandName.render.grammar.options "--count".toList
      (.known CommandName.countOption "--count".toList none) := ⟨by simp, rfl⟩
  let options := valueTokens CommandName.countOption "--count".toList (Text.signed n) false ++
    [Token.known jsonOption "--json".toList none]
  have one : CommandName.render.grammar.operands = .one "template" := rfl
  have option : ∃ token ∈ options, token.isOption = true := ⟨_, List.mem_cons_self, rfl⟩
  have separate : options.head? ≠ some .dashes := nofun
  have meanings : List.Forall₂ (Token.Means CommandName.render.grammar.options)
      [template, "--count".toList, Text.signed n, "--json".toList]
      (.operand template :: options) :=
    .cons (means_operand dashless) (.cons count (.cons (means_signed rfl n) (.cons switch .nil)))
  refine readArguments_of_means meanings ?_ fun reading given => ?_
  · change readTokens _ 5 {} _ = _
    rw [readTokens_of_operand rfl option (takeOperands_of_one one rfl separate),
      readTokens_valueTokens rfl, read_countOption]
    cases Text.isReadable n with
    | false => rfl
    | true =>
      have isSwitch : jsonOption.kind = .switch := rfl
      change readTokens _ 3 _ [Token.known jsonOption _ none] = _
      rw [readTokens_of_switch isSwitch, readTokens_of_all (List.forall_mem_nil _), takeOperands_of_isSome rfl]
      rfl
  · split at given <;> cases given
    rfl

/-- The arguments make the command to render the template as JSON, unless the count is too long. -/
theorem read_of_json (dashless : template.head? ≠ some '-') (n : Nat) :
    Invocation.read settings
        ["render".toList, template, "--count".toList, Text.signed n, "--json".toList] =
      if Text.isReadable n then .ok ⟨none, .render template (some n) true⟩
      else .error (.fault CommandName.render.grammar.program
        (.notInteger CommandName.countOption.title (Text.signed n))) := by
  have named : ∀ text ∈ [template, "--count".toList, Text.signed n, "--json".toList],
      ¬emptyName <+: text := by
    simp only [List.forall_mem_cons]
    exact ⟨Call.named_of_dashless dashless, by decide, Call.named_signed n, by decide, List.forall_mem_nil _⟩
  refine (Invocation.read_command .render named (readArguments_of_json dashless n) ?_).trans ?_
  · intro reading given
    split at given <;> cases given
    rfl
  · cases Text.isReadable n <;> rfl

/-- A rendered template is shown as its object. -/
theorem outcome_json (rendered : Template.render template n = .ok text) :
    (Command.render template (some n) true).outcome =
      .finished 0 ((Command.renderedObject template (.int n) text).write ++ ['\n']) [] := by
  have answer : renderTemplate template (countValue (some n)) = .ok text := by
    rw [renderTemplate, countValue, Option.elim_some, checkCount_ofNat]
    dsimp only
    rw [rendered]
    rfl
  rw [Command.outcome, Command.answer, answer]
  rfl

/-- A template that can be rendered for a count that can be read is shown on one line, as a text of JSON
that stands for the object of the template, the count and what is rendered, and for nothing else. So it
is what every decoder gets that follows the grammar. -/
theorem run_render_json {session : Session} (valid : Settings.read session.source = .ok settings)
    (dashless : template.head? ≠ some '-') (readable : Text.isReadable n = true)
    (rendered : Template.render template n = .ok text) :
    ∃ line, (session.run
        ["render".toList, template, "--count".toList, Text.decimal n, "--json".toList]).2.1 =
          .ran (.finished 0 (line ++ ['\n']) []) ∧
      (∀ c ∈ line, 0x20 ≤ c.toNat) ∧
      (∀ value, Json.IsText line value ↔ value = .obj
        [("template".toList, .str template), ("count".toList, .int n), ("text".toList, .str text)]) ∧
      ∀ decode, Json.Follows decode → decode line = some (.obj
        [("template".toList, .str template), ("count".toList, .int n), ("text".toList, .str text)]) := by
  have whole : (Command.renderedObject template (.int n) text).isWhole = true := rfl
  have shape := (Json.isValue_write _ whole).isText
  refine ⟨_, ?_, Json.isPrinted_write _ whole, fun value => ?_, fun decode follows => follows _ _ shape⟩
  · have read : Invocation.read settings
        ["render".toList, template, "--count".toList, Text.decimal n, "--json".toList] = _ :=
      read_of_json dashless n
    rw [if_pos readable] at read
    rw [Session.run_of_ready valid read rfl, outcome_json rendered]
  · constructor
    · intro other
      exact other.unique shape
    · rintro rfl
      exact shape

/-- A template with a quote, what looks like an escape, the end of a line and a control character. -/
def escapedTemplate : List Char :=
  "\"\\u0041\n\x01 \x7b\x7b#: n\x7d\x7d".toList

def escapedText : List Char :=
  "\"\\u0041\n\x01 12".toList

theorem run_render_json_escaped :
    Settings.read ({} : Session).source = .ok {} ∧ escapedTemplate.head? ≠ some '-' ∧
      Text.isReadable (12 : Nat) = true ∧ Template.render escapedTemplate 12 = .ok escapedText ∧
      ∃ line, (({} : Session).run ["render".toList, escapedTemplate,
          "--count".toList, Text.decimal 12, "--json".toList]).2.1 = .ran (.finished 0 (line ++ ['\n']) []) ∧
        (∀ c ∈ line, 0x20 ≤ c.toNat) ∧
        Json.read? line = some (.obj [("template".toList, .str escapedTemplate),
          ("count".toList, .int 12), ("text".toList, .str escapedText)]) := by
  have valid : Settings.read ({} : Session).source = .ok {} := rfl
  have readable : Text.isReadable (12 : Nat) = true := by decide
  have dashless : escapedTemplate.head? ≠ some '-' := by decide
  have rendered : Template.render escapedTemplate 12 = .ok escapedText := by cbv
  obtain ⟨line, ran, printed, -, decoded⟩ := run_render_json valid dashless readable rendered
  exact ⟨valid, dashless, readable, rendered, line, ran, printed, decoded _ Json.follows_read?⟩

end Inflection.CommandLine
