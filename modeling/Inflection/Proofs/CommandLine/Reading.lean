import Inflection.Proofs.CommandLine.Token

/-! # Options with values among operands

The value of an option is attached to its name or is the next argument. Either way the option is read
together with its value, and the operands before or after it are read as if it were not there.
-/

namespace Inflection.CommandLine

/-- The tokens of an option with its value, which is attached to the name or follows it. -/
def valueTokens (option : OptionSpec) (name value : List Char) (isAttached : Bool) : List Token :=
  if isAttached then [.known option name (some value)] else [.known option name none, .operand value]

variable {grammar : Grammar} {reading : Reading} {option : OptionSpec} {fuel : Nat}
  {tokens rest : List Token}

private theorem usesAttached_of_takesValue (takes : option.kind.takesValue = true) (options : List OptionSpec)
    (isLetter : Bool) (value : List Char) :
    usesAttached options isLetter option value = .ok [(option, some value)] := by
  cases value <;> simp [usesAttached, takes]

private theorem takeOptions_of_takesValue (program : List Char) (reading : Reading)
    (takes : option.kind.takesValue = true) (value : List Char) :
    takeOptions program reading [(option, some value)] =
      match option.read value with
      | .ok argument => .ok (reading.give option argument)
      | .error fault => .error (.fault program fault) := by
  obtain ⟨names, kind, required⟩ := option
  cases kind with
  | help | switch => cases takes
  | text | integer => rfl

/-- An option that takes a value is read with it. -/
theorem readTokens_valueTokens (takes : option.kind.takesValue = true) (name value : List Char)
    (isAttached : Bool) :
    readTokens grammar (fuel + 1) reading (valueTokens option name value isAttached ++ rest) =
      match option.read value with
      | .ok argument => readTokens grammar fuel (reading.give option argument) rest
      | .error fault => .error (.fault grammar.program fault) := by
  have taken := takeOptions_of_takesValue grammar.program reading takes value
  cases isAttached with
  | true =>
    have complete : completeUses [(option, some value)] rest = .ok ([(option, some value)], rest) :=
      rfl
    simp only [valueTokens, if_pos, List.cons_append, List.nil_append]
    rw [readTokens, if_pos (by simp [Token.isOption])]
    simp only [takeOption, usesOf, usesAttached_of_takesValue takes, Except.bind, complete, taken]
    cases option.read value <;> rfl
  | false =>
    have complete : completeUses [(option, none)] (.operand value :: rest) =
        .ok ([(option, some value)], rest) := by
      simp [completeUses, takes]
    simp only [valueTokens, if_neg Bool.false_ne_true, List.cons_append, List.nil_append]
    rw [readTokens, if_pos (by simp [Token.isOption])]
    simp only [takeOption, usesOf, Except.bind, complete, taken]
    cases option.read value <;> rfl

def textTokens (uses : List (OptionSpec × List Char × List Char)) : List Token :=
  uses.flatMap fun (option, name, value) => valueTokens option name value false

theorem length_textTokens (uses : List (OptionSpec × List Char × List Char)) :
    (textTokens uses).length = 2 * uses.length := by
  induction uses with
  | nil => rfl
  | cons use uses ih =>
    rw [textTokens, List.flatMap_cons, List.length_append, ← textTokens, ih, List.length_cons]
    change 2 + 2 * uses.length = _
    omega

def Reading.giveTexts (reading : Reading) (uses : List (OptionSpec × List Char × List Char)) :
    Reading :=
  { reading with options := reading.options ++ uses.map fun use => (use.1, .text use.2.2) }

/-- Options for texts are read with the texts that follow them. -/
theorem readTokens_textTokens {uses : List (OptionSpec × List Char × List Char)}
    (texts : ∀ use ∈ uses, use.1.kind = .text ∧ use.2.2 ≠ ['-', '-']) :
    readTokens grammar (fuel + uses.length) reading (textTokens uses ++ rest) =
      readTokens grammar fuel (reading.giveTexts uses) rest := by
  induction uses generalizing reading with
  | nil => simp [textTokens, Reading.giveTexts]
  | cons use uses ih =>
    rw [List.forall_mem_cons] at texts
    obtain ⟨⟨kind, value⟩, others⟩ := texts
    have read : use.1.read use.2.2 = .ok (.text use.2.2) := by
      rw [OptionSpec.read, if_neg value, kind]
    rw [textTokens, List.flatMap_cons, List.append_assoc, List.length_cons, ← Nat.add_assoc,
      readTokens_valueTokens (by rw [kind]; rfl), read]
    refine (ih others).trans ?_
    simp [Reading.give, Reading.giveTexts]

/-- Tokens without an option are operands, if none were read before, and extras. -/
theorem readTokens_of_all (plain : ∀ token ∈ tokens, token.isOption = false) :
    readTokens grammar (fuel + 1) reading tokens =
      (takeOperands grammar reading tokens).map fun (reading, rest) =>
        reading.leave (rest.map Token.text) := by
  have noOption : tokens.any Token.isOption = false := by simpa using plain
  rw [readTokens.eq_def]
  simp only [noOption, if_neg Bool.false_ne_true]
  cases takeOperands grammar reading tokens <;> rfl

/-- Operands before an option are taken first. -/
theorem readTokens_of_operand {taken : Reading} {text : List Char}
    (fresh : reading.operands = none) (option : ∃ token ∈ tokens, token.isOption = true)
    (took : takeOperands grammar reading (.operand text :: tokens) = .ok (taken, rest)) :
    readTokens grammar (fuel + 1) reading (.operand text :: tokens) =
      readTokens grammar fuel taken rest := by
  have some : (Token.operand text :: tokens).any Token.isOption = true := by
    simpa [Token.isOption] using option
  rw [readTokens.eq_def]
  simp only [some, if_pos, fresh, Option.isSome_none, if_neg Bool.false_ne_true, took]
  rfl

/-- Operands are not taken a second time. -/
theorem takeOperands_of_isSome (taken : reading.operands.isSome = true) :
    takeOperands grammar reading tokens = .ok (reading, tokens) :=
  if_pos taken

/-- The operand of a program that has one is the token at the front. -/
theorem takeOperands_of_one {title : String} {text : List Char} (one : grammar.operands = .one title)
    (fresh : reading.operands = none) (separate : rest.head? ≠ some .dashes) :
    takeOperands grammar reading (.operand text :: rest) =
      .ok ({ reading with operands := some [.text text] }, rest) := by
  rw [takeOperands, fresh, Option.isSome_none, if_neg Bool.false_ne_true, one]
  match rest with
  | [] | .operand _ :: _ | .known .. :: _ | .unknown _ :: _ => rfl
  | .dashes :: _ => exact absurd rfl separate

/-- An operand that has to be a number is read as one. -/
theorem takeOperands_of_number {title : String} {text : List Char}
    (number : grammar.operands = .number title) (fresh : reading.operands = none) :
    takeOperands grammar reading [.operand text] =
      match readInteger title.toList text with
      | .ok argument => .ok ({ reading with operands := some [argument] }, [])
      | .error fault => .error (.fault grammar.program fault) := by
  have values : Operands.read (.number title) [text] =
      (readInteger title.toList text).map ([·]) := by
    rw [Operands.read, List.mapM_cons, List.mapM_nil]
    cases readInteger title.toList text <;> rfl
  rw [takeOperands, fresh, Option.isSome_none, if_neg Bool.false_ne_true, number]
  simp only [Operands.span?, values]
  cases readInteger title.toList text <;> rfl

/-- All operands up to the next option are taken together. -/
theorem takeOperands_of_many {title : String} (words : List (List Char))
    (many : grammar.operands = .many title) (fresh : reading.operands = none)
    (ended : ∀ token, rest.head? = some token → token.isOption = true) :
    takeOperands grammar reading (words.map .operand ++ rest) =
      .ok ({ reading with operands := some (words.map .text) }, rest) := by
  have plain : ∀ token ∈ words.map Token.operand, (!token.isOption) = true := by
    simp [Token.isOption]
  have stop : rest.takeWhile (!·.isOption) = [] ∧ rest.dropWhile (!·.isOption) = rest := by
    cases rest with
    | nil => exact ⟨rfl, rfl⟩
    | cons token rest => simp [ended token rfl]
  have texts : ((words.map Token.operand).filter Token.isOperand).map Token.text = words := by
    simp [List.filter_map, Function.comp_def, Token.isOperand, Token.text]
  have span : grammar.operands.span? (words.map .operand ++ rest) = some (words, rest) := by
    rw [many, Operands.span?, List.takeWhile_append_of_pos plain, List.dropWhile_append_of_pos plain,
      stop.1, stop.2, List.append_nil, texts]
  rw [takeOperands, fresh, Option.isSome_none, if_neg Bool.false_ne_true, span, many]
  rfl

/-- One operand before or after an option with a value, and the option, are read. -/
theorem readTokens_of_one {title : String} {name text value : List Char} {isAttached : Bool}
    (one : grammar.operands = .one title) (takes : option.kind.takesValue = true)
    (placed : tokens = valueTokens option name value isAttached ++ [.operand text] ∨
      tokens = .operand text :: valueTokens option name value isAttached) :
    readTokens grammar (fuel + 3) {} tokens =
      match option.read value with
      | .ok argument => .ok ⟨some [.text text], [(option, argument)], []⟩
      | .error fault => .error (.fault grammar.program fault) := by
  have isOption : ∃ token ∈ valueTokens option name value isAttached, token.isOption = true := by
    cases isAttached <;> exact ⟨_, List.mem_cons_self, rfl⟩
  have separate : (valueTokens option name value isAttached).head? ≠ some .dashes := by
    cases isAttached <;> simp [valueTokens]
  rcases placed with rfl | rfl
  · rw [readTokens_valueTokens takes]
    cases option.read value with
    | error fault => rfl
    | ok argument =>
      change readTokens _ _ _ _ = _
      rw [readTokens_of_all (by simp [Token.isOption]), takeOperands_of_one one rfl (by simp)]
      rfl
  · rw [readTokens_of_operand rfl isOption (takeOperands_of_one one rfl separate),
      ← List.append_nil (valueTokens option name value isAttached), readTokens_valueTokens takes]
    cases option.read value with
    | error fault => rfl
    | ok argument =>
      change readTokens _ _ _ _ = _
      rw [readTokens_of_all (by simp), takeOperands_of_isSome rfl]
      rfl

/-- Operands before options with texts, and the options, are read. -/
theorem readTokens_of_many {title : String} {words : List (List Char)}
    {uses : List (OptionSpec × List Char × List Char)} (many : grammar.operands = .many title)
    (texts : ∀ use ∈ uses, use.1.kind = .text ∧ use.2.2 ≠ ['-', '-'])
    (enough : words.length + uses.length < fuel) :
    readTokens grammar fuel {} (words.map .operand ++ textTokens uses) =
      .ok ⟨some (words.map .text), uses.map fun use => (use.1, .text use.2.2), []⟩ := by
  -- Operands before an option are taken at once. Without an option, or where there are none, they are
  -- taken at the end.
  cases uses with
  | nil =>
    obtain ⟨fuel, rfl⟩ := Nat.exists_eq_add_of_lt enough
    have plain : ∀ token ∈ words.map Token.operand ++ textTokens [], token.isOption = false := by
      simp [textTokens, Token.isOption]
    rw [readTokens_of_all plain, takeOperands_of_many words many rfl (by simp [textTokens])]
    rfl
  | cons use uses =>
    have option : ∃ token ∈ textTokens (use :: uses), token.isOption = true :=
      ⟨.known use.1 use.2.1 none, by simp [textTokens, valueTokens], rfl⟩
    have ended : ∀ token, (textTokens (use :: uses)).head? = some token → token.isOption = true := by
      simp [textTokens, valueTokens, Token.isOption]
    cases words with
    | nil =>
      obtain ⟨fuel, rfl⟩ : ∃ rest, fuel = rest + 1 + (use :: uses).length :=
        ⟨fuel - 1 - (use :: uses).length, by simp only [List.length_nil] at enough; omega⟩
      have took : takeOperands grammar (({} : Reading).giveTexts (use :: uses)) [] = _ :=
        takeOperands_of_many [] many rfl (by simp)
      rw [List.map_nil, List.nil_append, ← List.append_nil (textTokens (use :: uses)),
        readTokens_textTokens texts, readTokens_of_all (by simp), took]
      rfl
    | cons word words =>
      obtain ⟨fuel, rfl⟩ : ∃ rest, fuel = rest + 1 + (use :: uses).length + 1 :=
        ⟨fuel - 2 - (use :: uses).length, by simp only [List.length_cons] at enough ⊢; omega⟩
      have took : takeOperands grammar {} (.operand word :: (words.map .operand ++ _)) = _ :=
        takeOperands_of_many (word :: words) many rfl ended
      have later : ∃ token ∈ words.map Token.operand ++ textTokens (use :: uses),
          token.isOption = true :=
        option.imp fun _ found => ⟨List.mem_append_right _ found.1, found.2⟩
      rw [List.map_cons, List.cons_append, readTokens_of_operand rfl later took,
        ← List.append_nil (textTokens (use :: uses)), readTokens_textTokens texts,
        readTokens_of_all (by simp), takeOperands_of_isSome rfl]
      rfl

end Inflection.CommandLine
