import Inflection.CommandLine.Usage

/-! # Tokens of a command line

An argument that begins with a dash is an option unless it is a single dash, looks like a negative
number or has a blank in it. An option may be shortened to the beginning of a long name, and its
value may be attached to it: after an equals sign, or right after the letter of a short name. After
two dashes every argument is an operand.
-/

namespace Inflection.CommandLine

/-- An argument with its meaning. -/
inductive Token where
  /-- An operand, or the value of an option. -/
  | operand (text : List Char)
  /-- A known option, by one of its names, and the text attached to it. -/
  | known (spec : OptionSpec) (name : List Char) (attached : Option (List Char))
  /-- An option that is not known. -/
  | unknown (text : List Char)
  /-- The two dashes that end the options. -/
  | dashes
deriving DecidableEq, Repr

namespace Token

def isOption : Token → Bool
  | known .. | unknown _ => true
  | operand _ | dashes => false

def isOperand : Token → Bool
  | operand _ => true
  | _ => false

/-- The argument of a token that is not a known option. -/
def text : Token → List Char
  | operand text | unknown text => text
  | known _ name _ => name
  | dashes => ['-', '-']

end Token

def splitEquals? (argument : List Char) : Option (List Char × List Char) :=
  match argument.dropWhile (· != '=') with
  | [] => none
  | _ :: value => some (argument.takeWhile (· != '='), value)

def isNumeral (text : List Char) : Bool :=
  !text.isEmpty && text.all Text.isDigit

/-- Whether an argument looks like a negative number: a dash, digits, and perhaps a point and more
digits. A newline at the end does not count. -/
def looksNegative : List Char → Bool
  | '-' :: rest =>
    let body := if rest.getLast? == some '\n' then rest.dropLast else rest
    isNumeral body ||
      match body.dropWhile Text.isDigit with
      | '.' :: fraction => isNumeral fraction
      | _ => false
  | _ => false

/-- The known options that an argument may mean without naming one exactly. -/
def candidates (options : List OptionSpec) (argument : List Char) :
    List (OptionSpec × List Char × Option (List Char)) :=
  match argument with
  | '-' :: '-' :: _ =>
    let (start, attached) :=
      match splitEquals? argument with
      | some (start, value) => (start, some value)
      | none => (argument, none)
    ((namesOf options).filter (start.isPrefixOf ·.1)).map fun (name, option) =>
      (option, name, attached)
  | dash :: letter :: value =>
    ((namesOf options).filter (·.1 == [dash, letter])).map fun (name, option) =>
      (option, name, some value)
  | _ => []

/-- The option that an argument names exactly, alone or before an equals sign. -/
def namedOption? (options : List OptionSpec) (argument : List Char) : Option Token :=
  match option? options argument with
  | some option => some (.known option argument none)
  | none =>
    (splitEquals? argument).bind fun (name, value) =>
      (option? options name).map (.known · name (some value))

/-- The meaning of one argument before any two dashes. -/
def Token.ofArgument (options : List OptionSpec) (argument : List Char) :
    Except UsageFault Token :=
  if argument.head? ≠ some '-' ∨ argument = ['-'] then .ok (.operand argument)
  else
    match namedOption? options argument with
    | some token => .ok token
    | none =>
      match candidates options argument with
      | [(option, name, attached)] => .ok (.known option name attached)
      | [] =>
        if looksNegative argument || argument.contains ' ' then .ok (.operand argument)
        else .ok (.unknown argument)
      | several => .error (.ambiguous argument (several.map (·.2.1)))

def Token.ofArguments (options : List OptionSpec) :
    List (List Char) → Except UsageFault (List Token)
  | [] => .ok []
  | ['-', '-'] :: rest => .ok (.dashes :: rest.map .operand)
  | argument :: rest => do
    return (← Token.ofArgument options argument) :: (← Token.ofArguments options rest)

end Inflection.CommandLine
