import Inflection.CommandLine.Invocation
import Inflection.Proofs.Text.Numeral

/-! # Arguments that are no options

An argument that does not begin with a dash is an operand, and so is a negative number as long as no
option has a digit for its letter. The program itself looks at all arguments for options of its own;
it finds fault only with one that begins with two dashes and an equals sign, which is short for every
long name.
-/

namespace Inflection.CommandLine

def hasDigitLetter (options : List OptionSpec) : Bool :=
  (namesOf options).any fun (name, _) => name[1]?.any Char.isDigit

def emptyName : List Char :=
  ['-', '-', '=']

namespace Token

variable {options : List OptionSpec} {text : List Char}

/-- Whether the options leave a text alone, so that it may be the value of one of them. -/
def IsPlain (options : List OptionSpec) (text : List Char) : Prop :=
  ofArgument options text = .ok (.operand text)

/-- Whether an argument other than two dashes has a token for its meaning. -/
def Means (options : List OptionSpec) (text : List Char) (token : Token) : Prop :=
  text ≠ ['-', '-'] ∧ ofArgument options text = .ok token

/-- Arguments are read as the tokens that they mean one by one. -/
theorem ofArguments_of_means {arguments : List (List Char)} {tokens : List Token}
    (meanings : List.Forall₂ (Means options) arguments tokens) :
    ofArguments options arguments = .ok tokens := by
  induction meanings with
  | nil => rfl
  | cons meaning _ ih =>
    rw [ofArguments, meaning.2, ih]
    · rfl
    · exact meaning.1

/-- The options leave a text alone that begins with no dash. -/
theorem isPlain_of_head? (dashless : text.head? ≠ some '-') : IsPlain options text :=
  if_pos (.inl dashless)

private theorem splitEquals?_eq_none (without : '=' ∉ text) : splitEquals? text = none := by
  have all : text.dropWhile (· != '=') = [] := by
    rw [List.dropWhile_eq_nil_iff]
    intro c member
    rw [bne_iff_ne]
    rintro rfl
    exact without member
  rw [splitEquals?, all]

private theorem looksNegative_of_all {digits : List Char} (present : digits ≠ [])
    (all : ∀ c ∈ digits, c.isDigit = true) : looksNegative ('-' :: digits) = true := by
  have last : digits.getLast? ≠ some '\n' := fun last =>
    absurd (all '\n' (List.mem_of_getLast? last)) (by decide)
  have numeral : isNumeral digits = true := by
    rw [isNumeral, Bool.and_eq_true, Bool.not_eq_true', List.isEmpty_eq_false_iff, List.all_eq_true]
    exact ⟨present, fun c member => Text.isDigit_of_isDigit (all c member)⟩
  simp [looksNegative, last, numeral]

theorem option?_eq_none_iff : option? options text = none ↔ ∀ name ∈ namesOf options, name.1 ≠ text := by
  simp [option?]

/-- An argument with a single dash is short for no option but that of its letter. -/
theorem candidates_of_letter {letter : Char} {rest : List Char} (single : letter ≠ '-') :
    candidates options ('-' :: letter :: rest) =
      ((namesOf options).filter (·.1 == ['-', letter])).map fun (name, option) =>
        (option, name, some rest) := by
  rw [candidates.eq_def]
  split
  · next split => exact absurd (List.cons.inj (List.cons.inj split).2).1 single
  · next split =>
    obtain ⟨rfl, split'⟩ := List.cons.inj split
    obtain ⟨rfl, rfl⟩ := List.cons.inj split'
    rfl
  · next split => exact absurd rfl (split _ _ _)

/-- A number brings no equals sign of its own. -/
theorem splitEquals?_signed {before : List Char} (without : '=' ∉ before) (n : Int) :
    splitEquals? (before ++ Text.signed n) = none := by
  refine splitEquals?_eq_none fun member => ?_
  rcases List.mem_append.mp member with member | member
  · exact without member
  · exact absurd (Text.eq_or_isDigit_of_mem_signed member) (by decide)

/-- A number is an operand, also with a minus sign. -/
theorem isPlain_signed (letters : hasDigitLetter options = false) (n : Int) :
    IsPlain options (Text.signed n) := by
  have noEquals : splitEquals? (Text.signed n) = none := splitEquals?_signed List.not_mem_nil n
  obtain ⟨c, digits, row, written⟩ := Text.exists_signed_eq_cons n
  have digit : c.isDigit = true := row c List.mem_cons_self
  have single : c ≠ '-' := by
    rintro rfl
    exact absurd digit (by decide)
  rcases written with written | written <;> rw [written] at noEquals ⊢
  · exact isPlain_of_head? (by simpa using single)
  · have others : ∀ name ∈ namesOf options, name.1[1]? ≠ some c := by
      intro name member second
      rw [hasDigitLetter, List.any_eq_false] at letters
      exact letters name member (by simp [second, digit])
    have unnamed : namedOption? options ('-' :: c :: digits) = none := by
      rw [namedOption?, option?_eq_none_iff.mpr fun name member same =>
        others name member (by rw [same]; rfl), noEquals]
      rfl
    have without : candidates options ('-' :: c :: digits) = [] := by
      rw [candidates_of_letter single, List.map_eq_nil_iff, List.filter_eq_nil_iff]
      intro name member same
      exact others name member (by rw [eq_of_beq same]; rfl)
    rw [IsPlain, ofArgument, if_neg (by simp), unnamed, without]
    simp only [looksNegative_of_all (List.cons_ne_nil c digits) row, Bool.true_or, if_pos]

/-- An argument with two dashes is short for every name that begins with what comes before its equals
sign. -/
theorem length_candidates_of_dashes (rest : List Char) :
    (candidates options ('-' :: '-' :: rest)).length =
      ((namesOf options).map (·.1)).countP
        ('-' :: '-' :: rest.takeWhile (· != '=')).isPrefixOf := by
  have start : ('-' :: '-' :: rest).takeWhile (· != '=') = '-' :: '-' :: rest.takeWhile (· != '=') :=
    rfl
  have whole := List.takeWhile_append_dropWhile (p := (· != '=')) (l := '-' :: '-' :: rest)
  rw [start] at whole
  rw [candidates, splitEquals?, start, List.countP_map, List.countP_eq_length_filter]
  cases cut : ('-' :: '-' :: rest).dropWhile (· != '=') with
  | nil =>
    rw [cut, List.append_nil] at whole
    simp only [List.length_map, ← whole, Function.comp_def]
  | cons equals value => simp only [List.length_map, Function.comp_def]

/-- With one candidate or none, an argument has its meaning. -/
theorem exists_ofArgument_of_candidates (few : (candidates options text).length ≤ 1) :
    ∃ token, ofArgument options text = .ok token := by
  rw [ofArgument]
  split
  · exact ⟨_, rfl⟩
  · split
    · exact ⟨_, rfl⟩
    · match found : candidates options text with
      | [] => exact ⟨if looksNegative text || text.contains ' ' then .operand text else .unknown text,
          (apply_ite Except.ok _ _ _).symm⟩
      | [candidate] => exact ⟨_, rfl⟩
      | first :: second :: others => simp [found] at few

private theorem names_mainOptions :
    (namesOf mainOptions).map (·.1) = ["-h".toList, "--help".toList, "--log-level".toList] :=
  rfl

private theorem countP_mainOptions (letter : Char) (rest : List Char) :
    ((namesOf mainOptions).map (·.1)).countP ('-' :: '-' :: letter :: rest).isPrefixOf ≤ 1 := by
  rw [names_mainOptions, List.countP_cons_of_neg (by simp [List.isPrefixOf])]
  by_cases help : letter = 'h'
  · have other : ('-' :: '-' :: letter :: rest).isPrefixOf "--log-level".toList = false := by
      simp [List.isPrefixOf, help]
    rw [List.countP_cons, List.countP_cons_of_neg (ne_of_eq_of_ne other Bool.false_ne_true)]
    split <;> simp
  · have other : ('-' :: '-' :: letter :: rest).isPrefixOf "--help".toList = false := by
      simp [List.isPrefixOf, help]
    rw [List.countP_cons_of_neg (ne_of_eq_of_ne other Bool.false_ne_true)]
    exact List.countP_le_length

private theorem length_filter_mainOptions (letter : Char) :
    ((namesOf mainOptions).filter (·.1 == ['-', letter])).length ≤ 1 := by
  have count := List.countP_eq_length_filter (p := (· == ['-', letter]))
    (l := (namesOf mainOptions).map (·.1))
  rw [List.filter_map, List.length_map] at count
  refine count.symm.trans_le ?_
  rw [names_mainOptions, List.countP_cons, List.countP_cons_of_neg (by simp),
    List.countP_cons_of_neg (by simp)]
  split <;> simp

/-- The program finds no fault with an argument unless it begins with two dashes and an equals sign or
is two dashes. -/
theorem exists_ofArgument_mainOptions (named : ¬emptyName <+: text) (present : text ≠ ['-', '-']) :
    ∃ token, ofArgument mainOptions text = .ok token := by
  by_cases dash : text.head? = some '-'
  · obtain ⟨rest, rfl⟩ := List.head?_eq_some_iff.mp dash
    refine exists_ofArgument_of_candidates ?_
    match rest with
    | [] => exact Nat.zero_le 1
    | letter :: rest =>
      by_cases long : letter = '-'
      · subst long
        match rest with
        | [] => exact absurd rfl present
        | letter :: rest =>
          have inside : letter ≠ '=' := by
            rintro rfl
            exact named ⟨rest, rfl⟩
          rw [length_candidates_of_dashes, List.takeWhile_cons_of_pos (by rwa [bne_iff_ne])]
          exact countP_mainOptions letter _
      · rw [candidates_of_letter long, List.length_map]
        exact length_filter_mainOptions letter
  · exact ⟨_, isPlain_of_head? dash⟩

/-- The program finds no fault with arguments of which none begins with two dashes and an equals
sign. -/
theorem exists_ofArguments_mainOptions {arguments : List (List Char)}
    (named : ∀ text ∈ arguments, ¬emptyName <+: text) :
    ∃ tokens, ofArguments mainOptions arguments = .ok tokens := by
  induction arguments with
  | nil => exact ⟨_, rfl⟩
  | cons text arguments ih =>
    rw [List.forall_mem_cons] at named
    by_cases dashes : text = ['-', '-']
    · exact ⟨_, by rw [dashes]; rfl⟩
    · obtain ⟨token, first⟩ := exists_ofArgument_mainOptions named.1 dashes
      obtain ⟨tokens, others⟩ := ih named.2
      refine ⟨token :: tokens, ?_⟩
      rw [ofArguments, first, others]
      · rfl
      · exact dashes

end Token

end Inflection.CommandLine
