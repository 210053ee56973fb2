import Inflection.CommandLine.Invocation

/-! # Help

Asking for help ends the program. What is printed then is simplified to one line of our own that shows the
options and the operands: options that may be left out stand in square brackets, and so do operands of
which there may be none. The descriptions of the program, of its commands and of their options and
operands are left out, and so is the layout that an argument parser gives to them.
-/

namespace Inflection.CommandLine

/-- A part of a line that may be left out. -/
def optional (text : List Char) : List Char :=
  '[' :: text ++ [']']

def OptionSpec.help (option : OptionSpec) : List Char :=
  let value :=
    match option.kind with
    | .help | .switch => []
    | .text => " TEXT".toList
    | .integer => " NUMBER".toList
  let shown := option.title ++ value
  if option.required then shown else optional shown

def Operands.help : Operands → List Char
  | one name | number name => name.toList
  | many name => optional (name.toList ++ " ...".toList)

def helpLine (program : List Char) (options : List OptionSpec) (operands : List Char) :
    List Char :=
  "usage: ".toList ++
    " ".toList.intercalate (program :: options.map OptionSpec.help ++ [operands]) ++ ['\n']

/-- The help of the program itself or of one of its commands. -/
def helpText (program : List Char) : List Char :=
  match CommandName.all.find? (·.grammar.program == program) with
  | some command => helpLine program command.grammar.options command.operands.help
  | none =>
    helpLine programName.toList mainOptions
      ("|".toList.intercalate (CommandName.all.map (·.title.toList)) ++ " ...".toList)

end Inflection.CommandLine
