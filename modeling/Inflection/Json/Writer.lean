import Inflection.Json.Literal

/-! # Writing JSON

A value is written on one line, with a blank after each comma and colon. Text is written as it is
but for quotes, backslashes and control characters.
-/

namespace Inflection.Json

/-- Floats are written as in literals, and the ones that are too great by name. -/
def writtenLayout : Layout :=
  { literalLayout with infinity := "Infinity" }

/-- A character as it stands in a JSON text. -/
def writtenChar (c : Char) : List Char :=
  if c = '"' ∨ c = '\\' then ['\\', c]
  else if c = '\n' then ['\\', 'n']
  else if c = '\r' then ['\\', 'r']
  else if c = '\t' then ['\\', 't']
  else if c = '\x08' then ['\\', 'b']
  else if c = '\x0c' then ['\\', 'f']
  else if c.toNat < 0x20 then '\\' :: 'u' :: Text.hexDigits 4 c.toNat
  else [c]

def writtenText (text : List Char) : List Char :=
  '"' :: text.flatMap writtenChar ++ ['"']

mutual

/-- The JSON text of a value. -/
def write : Json → List Char
  | null => "null".toList
  | bool b => if b then "true".toList else "false".toList
  | int n => Text.signed n
  | float d => writtenLayout.render d
  | str text => writtenText text
  | arr items => '[' :: ", ".toList.intercalate (writeItems items) ++ [']']
  | obj members => '\x7b' :: ", ".toList.intercalate (writeMembers members) ++ ['\x7d']

def writeItems : List Json → List (List Char)
  | [] => []
  | item :: rest => write item :: writeItems rest

def writeMembers : List (List Char × Json) → List (List Char)
  | [] => []
  | (key, value) :: rest => (writtenText key ++ ": ".toList ++ write value) :: writeMembers rest

end

end Inflection.Json
