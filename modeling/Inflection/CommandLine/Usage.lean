import Inflection.CommandLine.Grammar
import Inflection.Text.Quoted

/-! # Errors of usage

What may be wrong with the arguments of a program, and how that is said.
-/

namespace Inflection.CommandLine

/-- What is wrong with the arguments. -/
inductive UsageFault where
  /-- The option needs a value that is not there. -/
  | missingValue (title : List Char)
  /-- The option takes no value but has one. -/
  | ignoredValue (title value : List Char)
  /-- The value is not a whole number. -/
  | notInteger (title value : List Char)
  /-- The value is not among the allowed ones. -/
  | notAllowed (title value : List Char) (allowed : List (List Char))
  /-- The argument is short for more than one option. -/
  | ambiguous (argument : List Char) (names : List (List Char))
  /-- Something that is required is not there. -/
  | missing (titles : List (List Char))
  /-- Arguments that nothing takes. -/
  | unrecognised (arguments : List (List Char))
deriving DecidableEq, Repr

/-- The explanation of a fault that concerns one option or operand. -/
def aboutArgument (title explanation : List Char) : List Char :=
  "argument ".toList ++ title ++ ": ".toList ++ explanation

def UsageFault.message : UsageFault → List Char
  | missingValue title => aboutArgument title "expected one argument".toList
  | ignoredValue title value =>
    aboutArgument title ("ignored explicit argument ".toList ++ Text.quoted value)
  | notInteger title value =>
    aboutArgument title ("invalid int value: ".toList ++ Text.quoted value)
  | notAllowed title value allowed =>
    aboutArgument title
      ("invalid choice: ".toList ++ Text.quoted value ++ " (choose from ".toList ++
        ", ".toList.intercalate (allowed.map Text.quoted) ++ [')'])
  | ambiguous argument names =>
    "ambiguous option: ".toList ++ argument ++ " could match ".toList ++
      ", ".toList.intercalate names
  | missing titles =>
    "the following arguments are required: ".toList ++ ", ".toList.intercalate titles
  | unrecognised arguments =>
    "unrecognized arguments: ".toList ++ " ".toList.intercalate arguments

/-- Why arguments lead to no command: a fault that a program found, or a request for its help. -/
inductive Stop where
  | fault (program : List Char) (cause : UsageFault)
  | help (program : List Char)
deriving DecidableEq, Repr

def usageLine (program : List Char) (fault : UsageFault) : List Char :=
  program ++ ": error: ".toList ++ fault.message ++ ['\n']

end Inflection.CommandLine
