import Inflection.English.Nouns

/-! # English verbs

Verbs carry their -s in the singular: "it tries", "they try". The singular table turns the bare form
into the form for a singular subject, and the plural table does the opposite.
-/

namespace Inflection.Verbs

open Pattern
open Nouns (consonant hissing)

/-- Verbs with forms of their own, the form for a singular subject first. -/
def irregularPairs : List (String × String) :=
  [("is", "are"), ("was", "were"), ("has", "have"), ("does", "do"), ("goes", "go")]

/-- Verbs in -o that take -es, without the o. -/
def oToOes : Pattern :=
  anyWord ["ech", "vet", "torped"]

/-- Verbs in -ie: tie, pie, lie and die, alone or after be- and un-, and vie. -/
def verbsInIe : Pattern :=
  alt (anyOf [start, word "be", word "un"] ++ letterOf "tpld" ++ word "ie") (start ++ word "vie")

/-- From the bare form to the form for a singular subject. -/
def singulars : Table :=
  ⟨"verb singulars".toList,
    irregulars .backward irregularPairs ++
    [.ending (capture oToOes ++ word "o" ++ stop) "oes",
     .ending (capture consonant ++ word "y" ++ stop) "ies",
     .ending (capture hissing ++ stop) "es",
     .keep (word "s"),
     .ending stop "s"]⟩

/-- From the form for a singular subject to the bare form. -/
def plurals : Table :=
  ⟨"verb plurals".toList,
    irregulars .forward irregularPairs ++
    [.ending (capture oToOes ++ word "oes" ++ stop) "o",
     .ending (capture verbsInIe ++ word "s" ++ stop) "",
     .ending (capture consonant ++ word "ies" ++ stop) "y",
     .ending (capture hissing ++ word "es" ++ stop) "",
     .keep (anyWord ["ss", "us"]),
     .ending (word "s" ++ stop) ""]⟩

end Inflection.Verbs
