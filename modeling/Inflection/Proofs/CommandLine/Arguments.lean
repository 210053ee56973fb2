import Inflection.Proofs.CommandLine.Reading
import Mathlib.Data.List.Forall2

/-! # Arguments of commands

What each command reads from its arguments: a word with a count that is given in one of four ways,
before or after the word, one word, one number, or words with options for the style of joining them.
-/

namespace Inflection.CommandLine

variable {settings : Settings} {command : CommandName} {arguments : List (List Char)}
  {tokens : List Token} {result : Except Stop Reading}

private theorem ofArguments_command (command : CommandName)
    (named : ∀ text ∈ arguments, ¬emptyName <+: text) :
    ∃ tokens, Token.ofArguments mainOptions (command.title.toList :: arguments) =
      .ok (.operand command.title.toList :: tokens) := by
  obtain ⟨tokens, others⟩ := Token.exists_ofArguments_mainOptions named
  refine ⟨tokens, ?_⟩
  cases command <;> simp [CommandName.title, Token.ofArguments, Token.ofArgument, others] <;> rfl

private theorem readCommandName_title : readCommandName command.title.toList = .ok command := by
  cases command <;> rfl

/-- The name of a command and arguments of which the command leaves none over invoke the command, as far
as the program finds no fault with them. -/
theorem Invocation.read_command (command : CommandName)
    (named : ∀ text ∈ arguments, ¬emptyName <+: text)
    (read : readArguments command.grammar arguments = result)
    (all : ∀ reading, result = .ok reading → reading.extras = []) :
    Invocation.read settings (command.title.toList :: arguments) =
      result.map fun reading => ⟨none, reading.command settings command⟩ := by
  obtain ⟨tokens, meanings⟩ := ofArguments_command command named
  simp only [Invocation.read, meanings, readMain, List.drop_one, List.tail_cons, bind, Except.bind,
    readCommandName_title, read]
  cases result with
  | error stop => rfl
  | ok reading =>
    simp only [all reading rfl, List.nil_append]
    rfl

/-- Arguments among which nothing is missing are read through their meanings. -/
theorem readArguments_of_means {grammar : Grammar}
    (meanings : List.Forall₂ (Token.Means grammar.options) arguments tokens)
    (read : readTokens grammar (tokens.length + 1) {} tokens = result)
    (complete : ∀ reading, result = .ok reading → missingTitles grammar reading = []) :
    readArguments grammar arguments = result := by
  rw [readArguments, Token.ofArguments_of_means meanings]
  simp only [read, bind, Except.bind]
  cases result with
  | error stop => rfl
  | ok reading =>
    simp only [complete reading rfl]
    rfl

/-- The ways to give a count. -/
inductive GivesCount (n : Int) : List (List Char) → Prop where
  | long : GivesCount n ["--count".toList, Text.signed n]
  | longAttached : GivesCount n ["--count=".toList ++ Text.signed n]
  | short : GivesCount n ["-n".toList, Text.signed n]
  | shortAttached : GivesCount n ["-n".toList ++ Text.signed n]

namespace CommandName

def takesCount (command : CommandName) : Bool :=
  command.options.contains countOption

private theorem eq_of_takesCount (counted : command.takesCount = true) :
    command = render ∨ command = inflect ∨ command = conjugate := by
  cases command <;> first | decide | cases counted

end CommandName

section Count

open CommandName

variable {n : Int} {given : List (List Char)} {word : List Char}

/-- A text that begins with no dash is an operand. -/
theorem means_operand {options : List OptionSpec} (dashless : word.head? ≠ some '-') :
    Token.Means options word (.operand word) :=
  ⟨fun dashes => dashless (by rw [dashes]; rfl), Token.isPlain_of_head? dashless⟩

/-- A number is an operand, also a negative one, as long as no option has a digit for its letter. -/
theorem means_signed {options : List OptionSpec} (letters : hasDigitLetter options = false) (n : Int) :
    Token.Means options (Text.signed n) (.operand (Text.signed n)) :=
  ⟨Text.signed_ne_dashes n, Token.isPlain_signed letters n⟩

/-- The letter of the option for a count may be followed by the count at once. -/
theorem ofArgument_letter (counted : command.takesCount = true) (n : Int) :
    Token.ofArgument command.grammar.options ("-n".toList ++ Text.signed n) =
      .ok (.known countOption "-n".toList (some (Text.signed n))) := by
  have cut : splitEquals? ("-n".toList ++ Text.signed n) = none :=
    Token.splitEquals?_signed (by decide) n
  obtain ⟨c, digits, -, written⟩ := Text.exists_signed_eq_cons n
  rcases written with written | written <;> rw [written] at cut ⊢ <;>
    rw [Token.ofArgument, if_neg (by simp), namedOption?, cut] <;>
    rcases eq_of_takesCount counted with rfl | rfl | rfl <;> rfl

/-- A count is the value of the option for it, attached to one of its names or not. -/
theorem means_of_givesCount (counted : command.takesCount = true) (gives : GivesCount n given) :
    ∃ name isAttached, List.Forall₂ (Token.Means command.grammar.options) given
      (valueTokens countOption name (Text.signed n) isAttached) := by
  have value : Token.Means command.grammar.options (Text.signed n) (.operand (Text.signed n)) :=
    means_signed (by cases command <;> rfl) n
  cases gives with
  | long =>
    refine ⟨"--count".toList, false, .cons ⟨by simp, ?_⟩ (.cons value .nil)⟩
    rcases eq_of_takesCount counted with rfl | rfl | rfl <;> rfl
  | longAttached =>
    refine ⟨"--count".toList, true, .cons ⟨by simp, ?_⟩ .nil⟩
    rcases eq_of_takesCount counted with rfl | rfl | rfl <;> rfl
  | short =>
    refine ⟨"-n".toList, false, .cons ⟨by simp, ?_⟩ (.cons value .nil)⟩
    rcases eq_of_takesCount counted with rfl | rfl | rfl <;> rfl
  | shortAttached =>
    exact ⟨"-n".toList, true, .cons ⟨by simp, ofArgument_letter counted n⟩ .nil⟩

/-- The option for a count takes any number that is short enough to be read. -/
theorem read_countOption (n : Int) : countOption.read (Text.signed n) =
    if Text.isReadable n then .ok (.integer n)
    else .error (.notInteger countOption.title (Text.signed n)) := by
  rw [OptionSpec.read, if_neg (Text.signed_ne_dashes n)]
  change readInteger _ _ = _
  rw [readInteger, Text.readInteger?_signed]
  cases Text.isReadable n <;> rfl

/-- A word and a count are read, unless the count is too long. -/
theorem readArguments_of_count (counted : command.takesCount = true) (dashless : word.head? ≠ some '-')
    (gives : GivesCount n given) (placed : arguments = given ++ [word] ∨ arguments = word :: given) :
    readArguments command.grammar arguments =
      if Text.isReadable n then .ok ⟨some [.text word], [(countOption, .integer n)], []⟩
      else .error (.fault command.grammar.program (.notInteger countOption.title (Text.signed n))) := by
  obtain ⟨name, isAttached, meanings⟩ := means_of_givesCount counted gives
  obtain ⟨title, one⟩ : ∃ title, command.grammar.operands = .one title := by
    rcases eq_of_takesCount counted with rfl | rfl | rfl <;> exact ⟨_, rfl⟩
  obtain ⟨tokens, placed, meanings⟩ : ∃ tokens,
      (tokens = valueTokens countOption name (Text.signed n) isAttached ++ [.operand word] ∨
        tokens = .operand word :: valueTokens countOption name (Text.signed n) isAttached) ∧
      List.Forall₂ (Token.Means command.grammar.options) arguments tokens := by
    rcases placed with rfl | rfl
    · exact ⟨_, .inl rfl, List.rel_append meanings (.cons (means_operand dashless) .nil)⟩
    · exact ⟨_, .inr rfl, .cons (means_operand dashless) meanings⟩
  obtain ⟨fuel, enough⟩ : ∃ fuel, tokens.length + 1 = fuel + 3 := by
    refine Nat.exists_eq_add_of_le' ?_
    rcases placed with rfl | rfl <;> cases isAttached <;> simp [valueTokens]
  have read : readTokens command.grammar (tokens.length + 1) {} tokens =
      if Text.isReadable n then .ok ⟨some [.text word], [(countOption, .integer n)], []⟩
      else .error (.fault command.grammar.program
        (.notInteger countOption.title (Text.signed n))) := by
    rw [enough, readTokens_of_one one rfl placed, read_countOption]
    cases Text.isReadable n <;> rfl
  refine readArguments_of_means meanings read fun reading given => ?_
  split at given <;> cases given
  rcases eq_of_takesCount counted with rfl | rfl | rfl <;> rfl

end Count

/-- One word is read by a command that takes nothing else. -/
theorem readArguments_of_word {word : List Char} (dashless : word.head? ≠ some '-')
    (plain : command = .singularize ∨ command = .pluralize) :
    readArguments command.grammar [word] = .ok ⟨some [.text word], [], []⟩ := by
  have one : command.grammar.operands = .one "word" := by rcases plain with rfl | rfl <;> rfl
  have read : readTokens command.grammar 2 {} [.operand word] = .ok ⟨some [.text word], [], []⟩ := by
    rw [readTokens_of_all (by simp [Token.isOption]), takeOperands_of_one one rfl (by simp)]
    rfl
  refine readArguments_of_means (.cons (means_operand dashless) .nil) read ?_
  rintro reading ⟨⟩
  rcases plain with rfl | rfl <;> rfl

/-- One number is read, unless it is too long. -/
theorem readArguments_of_number (n : Int) :
    readArguments CommandName.fuzzy.grammar [Text.signed n] =
      if Text.isReadable n then .ok ⟨some [.integer n], [], []⟩
      else .error (.fault CommandName.fuzzy.grammar.program
        (.notInteger "count".toList (Text.signed n))) := by
  have meanings : List.Forall₂ (Token.Means CommandName.fuzzy.grammar.options) [Text.signed n]
      [.operand (Text.signed n)] := .cons (means_signed rfl n) .nil
  have read : readTokens CommandName.fuzzy.grammar 2 {} [.operand (Text.signed n)] =
      if Text.isReadable n then .ok ⟨some [.integer n], [], []⟩
      else .error (.fault CommandName.fuzzy.grammar.program
        (.notInteger "count".toList (Text.signed n))) := by
    rw [readTokens_of_all (by simp [Token.isOption]), takeOperands_of_number rfl rfl, readInteger,
      Text.readInteger?_signed]
    cases Text.isReadable n <;> rfl
  refine readArguments_of_means meanings read fun reading given => ?_
  split at given <;> cases given
  rfl

section Join

variable {words : List (List Char)} {separator conjunctive finalSeparator : Option (List Char)}

def separatorOption : OptionSpec :=
  ⟨["--separator"], .text, false⟩

def conjunctiveOption : OptionSpec :=
  ⟨["--conjunctive"], .text, false⟩

def finalSeparatorOption : OptionSpec :=
  ⟨["--final-separator"], .text, false⟩

def optionArguments (name : String) (value : Option (List Char)) : List (List Char) :=
  value.elim [] fun value => [name.toList, value]

/-- The options for a style of joining that are given. -/
def joinUses (separator conjunctive finalSeparator : Option (List Char)) :
    List (OptionSpec × List Char × List Char) :=
  separator.toList.map (separatorOption, "--separator".toList, ·) ++
    conjunctive.toList.map (conjunctiveOption, "--conjunctive".toList, ·) ++
    finalSeparator.toList.map (finalSeparatorOption, "--final-separator".toList, ·)

/-- Whether a text can be the value of an option for a style of joining. -/
def IsJoinValue (text : List Char) : Prop :=
  Token.IsPlain CommandName.join.grammar.options text

theorem isJoinValue_of_head? {text : List Char} (dashless : text.head? ≠ some '-') :
    IsJoinValue text :=
  Token.isPlain_of_head? dashless

theorem IsJoinValue.ne_dashes {text : List Char} (plain : IsJoinValue text) : text ≠ ['-', '-'] := by
  rintro rfl
  cases plain

theorem IsJoinValue.not_emptyName {text : List Char} (plain : IsJoinValue text) :
    ¬emptyName <+: text := by
  rintro ⟨rest, rfl⟩
  cases plain

private theorem means_optionArguments {option : OptionSpec} {name : String} {value : Option (List Char)}
    (known : Token.Means CommandName.join.grammar.options name.toList (.known option name.toList none))
    (plain : ∀ text ∈ value, IsJoinValue text) :
    List.Forall₂ (Token.Means CommandName.join.grammar.options) (optionArguments name value)
      (textTokens (value.toList.map (option, name.toList, ·))) := by
  cases value with
  | none => exact .nil
  | some text =>
    have value := plain text rfl
    exact .cons known (.cons ⟨value.ne_dashes, value⟩ .nil)

/-- Words are read with the options for a style of joining that are given after them. -/
theorem readArguments_of_words (dashless : ∀ word ∈ words, word.head? ≠ some '-')
    (plain : ∀ value ∈ [separator, conjunctive, finalSeparator], ∀ text ∈ value, IsJoinValue text) :
    readArguments CommandName.join.grammar (words ++ (optionArguments "--separator" separator ++
        optionArguments "--conjunctive" conjunctive ++
        optionArguments "--final-separator" finalSeparator)) =
      .ok ⟨some (words.map .text), (joinUses separator conjunctive finalSeparator).map
        fun use => (use.1, .text use.2.2), []⟩ := by
  simp only [List.forall_mem_cons, List.not_mem_nil, false_imp_iff, implies_true, and_true] at plain
  have values : ∀ use ∈ joinUses separator conjunctive finalSeparator,
      use.1.kind = .text ∧ use.2.2 ≠ ['-', '-'] := by
    simp only [joinUses, List.forall_mem_append, List.forall_mem_map, Option.mem_toList]
    exact ⟨⟨fun text given => ⟨rfl, (plain.1 text given).ne_dashes⟩,
      fun text given => ⟨rfl, (plain.2.1 text given).ne_dashes⟩⟩,
      fun text given => ⟨rfl, (plain.2.2 text given).ne_dashes⟩⟩
  have meanings : List.Forall₂ (Token.Means CommandName.join.grammar.options)
      (words ++ (optionArguments "--separator" separator ++
        optionArguments "--conjunctive" conjunctive ++
        optionArguments "--final-separator" finalSeparator))
      (words.map .operand ++ textTokens (joinUses separator conjunctive finalSeparator)) := by
    rw [joinUses, textTokens, List.flatMap_append, List.flatMap_append]
    refine List.rel_append ?_ (List.rel_append (List.rel_append ?_ ?_) ?_)
    · rw [List.forall₂_map_right_iff, List.forall₂_same]
      exact fun word member => means_operand (dashless word member)
    · exact means_optionArguments ⟨by simp, rfl⟩ plain.1
    · exact means_optionArguments ⟨by simp, rfl⟩ plain.2.1
    · exact means_optionArguments ⟨by simp, rfl⟩ plain.2.2
  have enough : words.length + (joinUses separator conjunctive finalSeparator).length <
      (words.map Token.operand ++
        textTokens (joinUses separator conjunctive finalSeparator)).length + 1 := by
    rw [List.length_append, List.length_map, length_textTokens]
    omega
  refine readArguments_of_means meanings (readTokens_of_many rfl values enough) ?_
  rintro reading ⟨⟩
  rfl

end Join

end Inflection.CommandLine
