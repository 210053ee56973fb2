import Inflection.Settings.Environment
import Inflection.Text.Blank

/-! # Environment files

An environment file has one assignment on a line, `NAME=value`, perhaps after the word `export`.
Blanks around the name and the value do not count. A value may stand in single or double quotes,
which keep its blanks. Blank lines and lines that begin with `#` say nothing, and in a value without
quotes neither does a `#` after a blank and what follows it.
-/

namespace Inflection.Dotenv

/-- The lines of a text, each with the character that ends it. -/
def lines (text : List Char) : List (List Char) :=
  text.splitBy fun c _ => c != '\n' && c != '\r'

/-- The value without the comment after it. -/
def dropComment : List Char → List Char
  | [] => []
  | c :: rest =>
    if Text.isBlank c && (rest.dropWhile Text.isBlank).head? == some '#' then []
    else c :: dropComment rest

/-- The value that a text after the equals sign gives. -/
def readValue (text : List Char) : List Char :=
  match text.dropWhile Text.isBlank with
  | '\'' :: rest => rest.takeWhile (· != '\'')
  | '"' :: rest => rest.takeWhile (· != '"')
  | rest => Text.stem (dropComment rest)

def dropExport (line : List Char) : List Char :=
  let rest := line.drop 6
  if "export".toList.isPrefixOf line && rest.head?.elim false Text.isBlank then
    rest.dropWhile Text.isBlank
  else line

def readLine? (line : List Char) : Option (List Char × List Char) :=
  let line := line.dropWhile Text.isBlank
  if line.head? = some '#' then none
  else
    let assignment := dropExport line
    match assignment.dropWhile (· != '=') with
    | _ :: value => some (Text.stem (assignment.takeWhile (· != '=')), readValue value)
    | [] => none

/-- The assignments of a file, where a name keeps its first place and its last value. -/
def read (text : List Char) : Environment :=
  ((lines text).filterMap readLine?).foldl (fun values (name, value) => values.assign name value) []

end Inflection.Dotenv
