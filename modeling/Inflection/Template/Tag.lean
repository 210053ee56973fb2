import Inflection.Text.Case
import Inflection.Text.Quoted
import Inflection.Text.Trim

/-! # Tags

A tag is written between double braces as a head, a colon and a payload. The head is a kind letter
and modifier letters, with blanks anywhere between them; the payload is what follows the first colon
that no backslash escapes, without the blanks around it. Blanks are spaces and tabs.
-/

namespace Inflection

/-- What a tag stands for: a noun, a verb or the count itself. -/
inductive Kind where
  | noun
  | verb
  | count
deriving DecidableEq, Repr

namespace Kind

def letter : Kind → Char
  | noun => 'N'
  | verb => 'V'
  | count => '#'

/-- The kind that a letter of either case names. -/
def ofLetter? : Char → Option Kind
  | 'N' | 'n' => some noun
  | 'V' | 'v' => some verb
  | '#' => some count
  | _ => none

/-- The modifiers that a kind accepts, in alphabetical order. -/
def modifiers : Kind → List (List Char)
  | noun => [['p'], ['s']]
  | verb => []
  | count => [['f']]

end Kind

/-- A tag that has been read, with the text it was read from. -/
structure Tag where
  kind : Kind
  modifiers : List (List Char)
  payload : List Char
  source : List Char
deriving DecidableEq, Repr

/-- What is wrong with a tag that has no proper form. -/
inductive Malformation where
  | missingSeparator
  | missingKind
  | unknownKind (letter : Char)
  | emptyPayload
deriving DecidableEq, Repr

def Malformation.reason : Malformation → List Char
  | missingSeparator => "missing ':' between tag kind and payload".toList
  | missingKind => "missing tag kind".toList
  | unknownKind letter => "unknown tag kind ".toList ++ Text.quoted [letter]
  | emptyPayload => "empty payload".toList

/-- Why a text is not a tag. -/
inductive TagError where
  /-- The text has not the form of a tag. -/
  | malformed (source : List Char) (malformation : Malformation)
  /-- A modifier is not among those of the kind. -/
  | unknownOption (option : List Char) (kind : Kind)
deriving DecidableEq, Repr

def TagError.message : TagError → List Char
  | malformed source malformation =>
    "Malformed tag ".toList ++ Text.quoted source ++ ": ".toList ++ malformation.reason
  | unknownOption option kind =>
    "Unknown option '".toList ++ option ++ "' in \x7b\x7b".toList ++ kind.letter ::
      ":...\x7d\x7d tag".toList

namespace Tag

/-- The blanks of a tag. -/
def isSpace (c : Char) : Bool :=
  c = ' ' || c = '\t'

/-- The text before the first colon that is not escaped, and the text after it. A backslash escapes
the character after it. -/
def splitColon? : List Char → Option (List Char × List Char)
  | [] => none
  | ':' :: rest => some ([], rest)
  | '\\' :: c :: rest => (splitColon? rest).map fun (head, payload) => ('\\' :: c :: head, payload)
  | c :: rest => (splitColon? rest).map fun (head, payload) => (c :: head, payload)

/-- The lower-case modifiers for the letters of a head, all of which the kind must accept. -/
def readModifiers (kind : Kind) : List Char → Except TagError (List (List Char))
  | [] => .ok []
  | letter :: rest =>
    let option := Text.lower letter
    if option ∈ kind.modifiers then (readModifiers kind rest).map (option :: ·)
    else .error (.unknownOption option kind)

def readHead (source head : List Char) : Except TagError (Kind × List (List Char)) :=
  match head.filter (!isSpace ·) with
  | [] => .error (.malformed source .missingKind)
  | letter :: letters =>
    match Kind.ofLetter? letter with
    | none => .error (.malformed source (.unknownKind letter))
    | some kind => (readModifiers kind letters).map (kind, ·)

/-- The text between the braces; a text without the braces is taken as a whole. -/
def inner (source : List Char) : List Char :=
  if ['\x7b', '\x7b'].isPrefixOf source && ['\x7d', '\x7d'].isSuffixOf source then
    (source.drop 2).take (source.length - 4)
  else source

/-- Reads a tag, with or without its braces. -/
def read (source : List Char) : Except TagError Tag :=
  match splitColon? (inner source) with
  | none => .error (.malformed source .missingSeparator)
  | some (head, rest) =>
    match readHead source head with
    | .error error => .error error
    | .ok (kind, modifiers) =>
      let payload := Text.trim isSpace rest
      if payload.isEmpty then .error (.malformed source .emptyPayload)
      else .ok ⟨kind, modifiers, payload, source⟩

end Tag

end Inflection
