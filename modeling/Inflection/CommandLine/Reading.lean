import Inflection.CommandLine.Token

/-! # Reading the arguments of a program

Options and operands are taken from left to right. The operands are one run of arguments without an
option among them; whatever is left over is collected as extra. A fault in an argument counts before
anything that is missing.
-/

namespace Inflection.CommandLine

/-- What has been read. -/
structure Reading where
  operands : Option (List Argument) := none
  options : List (OptionSpec × Argument) := []
  extras : List (List Char) := []
deriving DecidableEq, Repr

namespace Reading

/-- The value of an option, given last. -/
def value? (reading : Reading) (name : String) : Option Argument :=
  (reading.options.reverse.find? (·.1.names.contains name)).map (·.2)

/-- Adds arguments that nothing takes. -/
def leave (reading : Reading) (arguments : List (List Char)) : Reading :=
  { reading with extras := reading.extras ++ arguments }

def give (reading : Reading) (option : OptionSpec) (argument : Argument) : Reading :=
  { reading with options := reading.options ++ [(option, argument)] }

end Reading

def readInteger (title value : List Char) : Except UsageFault Argument :=
  match Text.readInteger? value with
  | some n => .ok (.integer n)
  | none => .error (.notInteger title value)

/-- The argument for the value of an option. Two dashes leave an option without a value. -/
def OptionSpec.read (option : OptionSpec) (value : List Char) : Except UsageFault Argument :=
  if value = ['-', '-'] then .ok .given
  else
    match option.kind with
    | .integer => readInteger option.title value
    | _ => .ok (.text value)

/-- The options that one argument gives, with their values. -/
abbrev Uses :=
  List (OptionSpec × Option (List Char))

def OptionSpec.ignore (option : OptionSpec) (value : List Char) : Except UsageFault Uses :=
  .error (.ignoredValue option.title value)

/-- The options that an option with a text attached to it gives. The text is the value of the option,
or, after the letter of an option that takes no value, more letters of options. -/
def usesAttached (options : List OptionSpec) (isLetter : Bool) (option : OptionSpec) :
    List Char → Except UsageFault Uses
  | [] => if option.kind.takesValue then .ok [(option, some [])] else option.ignore []
  | letter :: rest =>
    if option.kind.takesValue then .ok [(option, some (letter :: rest))]
    else
      match if isLetter then option? options ['-', letter] else none with
      | none => option.ignore (letter :: rest)
      | some next =>
        if rest.isEmpty then .ok [(option, none), (next, none)]
        else (usesAttached options true next rest).map ((option, none) :: ·)

def isLetterName (name : List Char) : Bool :=
  name.length == 2

def usesOf (options : List OptionSpec) (option : OptionSpec) (name : List Char) :
    Option (List Char) → Except UsageFault Uses
  | none => .ok [(option, none)]
  | some value => usesAttached options (isLetterName name) option value

/-- The value that the next argument gives to an option that has none yet. -/
def completeUses (uses : Uses) (following : List Token) :
    Except UsageFault (Uses × List Token) :=
  match uses.getLast? with
  | some (option, none) =>
    if option.kind.takesValue then
      match following with
      | .operand value :: following => .ok (uses.dropLast ++ [(option, some value)], following)
      | _ => .error (.missingValue option.title)
    else .ok (uses, following)
  | _ => .ok (uses, following)

/-- Takes the options that an argument gives, one after the other. -/
def takeOptions (program : List Char) (reading : Reading) : Uses → Except Stop Reading
  | [] => .ok reading
  | (option, value) :: rest =>
    match option.kind, value with
    | .help, _ => .error (.help program)
    | _, none => takeOptions program (reading.give option .given) rest
    | _, some value =>
      match option.read value with
      | .ok argument => takeOptions program (reading.give option argument) rest
      | .error fault => .error (.fault program fault)

/-- Takes the options of one argument and returns the tokens after it. -/
def takeOption (program : List Char) (options : List OptionSpec) (reading : Reading)
    (option : OptionSpec) (name : List Char) (attached : Option (List Char))
    (following : List Token) : Except Stop (Reading × List Token) :=
  match (usesOf options option name attached).bind (completeUses · following) with
  | .error fault => .error (.fault program fault)
  | .ok (uses, following) => do
    let reading ← takeOptions program reading uses
    return (reading, following)

/-- The arguments for the operands of a program. -/
def Operands.read (operands : Operands) (values : List (List Char)) :
    Except UsageFault (List Argument) :=
  match operands with
  | .number name => values.mapM (readInteger name.toList)
  | _ => .ok (values.map .text)

/-- The tokens that the operands take from the front, and the tokens after them. Two dashes around
the one operand of a program belong to it. -/
def Operands.span? (operands : Operands) (tokens : List Token) :
    Option (List (List Char) × List Token) :=
  match operands with
  | .many _ =>
    let isTaken (token : Token) : Bool := !token.isOption
    some (((tokens.takeWhile isTaken).filter Token.isOperand).map Token.text,
      tokens.dropWhile isTaken)
  | _ =>
    match tokens with
    | .dashes :: .operand text :: rest => some ([text], rest)
    | .operand text :: .dashes :: rest => some ([text], rest)
    | .operand text :: rest => some ([text], rest)
    | _ => none

/-- Takes the operands at the front of the tokens, unless they were taken before. -/
def takeOperands (grammar : Grammar) (reading : Reading) (tokens : List Token) :
    Except Stop (Reading × List Token) :=
  if reading.operands.isSome then .ok (reading, tokens)
  else
    match grammar.operands.span? tokens with
    | none => .ok (reading, tokens)
    | some (values, rest) =>
      match grammar.operands.read values with
      | .ok arguments => .ok ({ reading with operands := some arguments }, rest)
      | .error fault => .error (.fault grammar.program fault)

/-- Reads tokens one by one: options, the operands before the next option, and extras. -/
def readTokens (grammar : Grammar) : Nat → Reading → List Token → Except Stop Reading
  | 0, reading, _ => .ok reading
  | fuel + 1, reading, tokens =>
    if tokens.any Token.isOption then
      match tokens with
      | .known option name attached :: rest => do
        let (reading, rest) ←
          takeOption grammar.program grammar.options reading option name attached rest
        readTokens grammar fuel reading rest
      | .unknown text :: rest => readTokens grammar fuel (reading.leave [text]) rest
      | token :: rest => do
        if reading.operands.isSome then
          readTokens grammar fuel (reading.leave [token.text]) rest
        else
          let (reading, rest) ← takeOperands grammar reading tokens
          readTokens grammar fuel reading rest
      | [] => .ok reading
    else do
      let (reading, rest) ← takeOperands grammar reading tokens
      return reading.leave (rest.map Token.text)

/-- What a program requires and was not given. -/
def missingTitles (grammar : Grammar) (reading : Reading) : List (List Char) :=
  (if reading.operands.isNone then [grammar.operands.title] else []) ++
    (grammar.options.filter fun option =>
      option.required && !reading.options.any (·.1 == option)).map OptionSpec.title

def readArguments (grammar : Grammar) (arguments : List (List Char)) : Except Stop Reading :=
  match Token.ofArguments grammar.options arguments with
  | .error fault => .error (.fault grammar.program fault)
  | .ok tokens => do
    let reading ← readTokens grammar (tokens.length + 1) {} tokens
    match missingTitles grammar reading with
    | [] => return reading
    | titles => .error (.fault grammar.program (.missing titles))

end Inflection.CommandLine
