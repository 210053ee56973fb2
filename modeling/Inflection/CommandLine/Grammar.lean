import Inflection.Text.Numeral

/-! # Grammars of command lines

A grammar says which options a program knows and which operands it takes. Options have long names
after two dashes and may have a short one, a letter after one dash.
-/

namespace Inflection.CommandLine

/-- What follows an option. -/
inductive OptionKind where
  /-- Nothing; the option asks for help and ends everything else. -/
  | help
  /-- Nothing; the option is given or not. -/
  | switch
  /-- A text. -/
  | text
  /-- A whole number. -/
  | integer
deriving DecidableEq, Repr

def OptionKind.takesValue : OptionKind → Bool
  | help | switch => false
  | text | integer => true

/-- An option of a program, with its names in the order in which they are shown. -/
structure OptionSpec where
  names : List String
  kind : OptionKind
  required : Bool := false
deriving DecidableEq, Repr

/-- All names of an option, as messages show them. -/
def OptionSpec.title (option : OptionSpec) : List Char :=
  "/".toList.intercalate (option.names.map String.toList)

/-- The operands of a program. -/
inductive Operands where
  /-- One text. -/
  | one (name : String)
  /-- One whole number. -/
  | number (name : String)
  /-- Any number of texts. -/
  | many (name : String)
deriving DecidableEq, Repr

def Operands.title : Operands → List Char
  | one name | number name | many name => name.toList

/-- What a program takes. -/
structure Grammar where
  program : List Char
  options : List OptionSpec
  operands : Operands
deriving DecidableEq, Repr

def helpOption : OptionSpec :=
  ⟨["-h", "--help"], .help, false⟩

/-- Every name of an option, with the option. -/
def namesOf (options : List OptionSpec) : List (List Char × OptionSpec) :=
  options.flatMap fun option => option.names.map fun name => (name.toList, option)

def option? (options : List OptionSpec) (name : List Char) : Option OptionSpec :=
  ((namesOf options).find? (·.1 == name)).map (·.2)

/-- The value of an operand or an option. -/
inductive Argument where
  /-- No value; the option was given, and that is all. -/
  | given
  | text (text : List Char)
  | integer (n : Int)
deriving DecidableEq, Repr

namespace Argument

def text? : Argument → Option (List Char)
  | text value => some value
  | _ => none

def integer? : Argument → Option Int
  | integer n => some n
  | _ => none

/-- An argument as a part of a text, where no value shows as empty brackets. -/
def shown : Argument → List Char
  | given => ['[', ']']
  | text value => value
  | integer n => Text.signed n

end Argument

end Inflection.CommandLine
