import Inflection.Rule.Irregular

/-! # English nouns

The plural table turns singular nouns into plural ones and the singular table does the opposite.
Both begin with the irregular nouns, go on with closed lists of word endings and end with the broad
spelling rules. Rules that keep a word recognise forms that already have the wanted number.
-/

namespace Inflection.Nouns

open Pattern

/-- Nouns with a plural of their own, singular first. -/
def irregularPairs : List (String × String) :=
  [("person", "people"), ("child", "children"), ("ox", "oxen"), ("foot", "feet"),
   ("tooth", "teeth"), ("goose", "geese"), ("mouse", "mice"), ("louse", "lice"), ("die", "dice"),
   ("quiz", "quizzes"), ("genus", "genera"), ("corpus", "corpora"), ("criterion", "criteria"),
   ("phenomenon", "phenomena")]

/-- Nouns with one form for both numbers, in alphabetical order. -/
def uncountables : List String :=
  ["advice", "aircraft", "bison", "butter", "cattle", "chaos", "chassis", "clothing", "corps",
   "deer", "economics", "equipment", "evidence", "feedback", "fish", "furniture", "gold",
   "homework", "information", "jeans", "knowledge", "luggage", "mathematics", "money", "moose",
   "music", "news", "offspring", "physics", "police", "progress", "rice", "salmon", "scissors",
   "series", "sheep", "shrimp", "software", "species", "swine", "traffic", "trousers", "trout",
   "tuna", "weather", "wheat"]

/-- Compounds of "man": the first part and the m. A human is none of them. -/
def man : Pattern :=
  alt start (anyWord ["wo", "police", "fire", "sales", "chair", "fisher", "spokes", "fore",
    "gentle", "country", "sea"]) ++ word "m"

/-- Latin nouns in -us with a plural in -i, without the ending. -/
def usToI : Pattern :=
  anyWord ["octop", "radi", "cact", "fung", "alumn", "stimul", "syllab", "nucle", "bacill", "loc"]

/-- Latin nouns in -um with a plural in -a, without the ending. -/
def umToA : Pattern :=
  anyWord ["dat", "medi", "bacteri", "curricul", "memorand", "strat", "millenni", "symposi"]

/-- Singular nouns in -s that take -es. -/
def singularS : Pattern :=
  anyWord ["alias", "status", "campus", "virus", "atlas", "bonus", "canvas", "census", "chorus",
    "circus", "genius", "iris", "lens", "plus", "walrus", "gas", "focus", "prospectus",
    "apparatus"]

def nounsInU : Pattern :=
  anyWord ["men", "em", "gn", "gur", "haik", "tut", "zul", "tof"] ++ word "u"

/-- Nouns in -o that take -es, without the o. -/
def oToOes : Pattern :=
  anyWord ["buffal", "tomat", "potat", "her", "ech", "torped", "vet", "volcan", "mosquit"]

/-- Nouns in -fe with a plural in -ves, without the ending. A li counts only as a whole word. -/
def feToVes : Pattern :=
  anyOf [word "kni", word "wi", boundary ++ word "li"]

/-- Nouns in -f with a plural in -ves, without the f. -/
def fToVes : Pattern :=
  anyWord ["cal", "hal", "el", "wol", "shel", "sel", "thie", "lea", "loa", "shea", "scar", "dwar",
    "whar"]

/-- Greek nouns in -sis with a plural in -ses, without the ending. -/
def sisToSes : Pattern :=
  anyWord ["aly", "diagno", "progno", "synop", "the", "cri", "empha", "oa", "neuro", "ellip"]

/-- Nouns whose singular ends in -ie or -che, so that their plural loses only its s. -/
def nounsInE : Pattern :=
  anyOf [alt start (letterNotOf "eo") ++ word "ache", word "niche", word "cliche", word "movie",
    word "cookie", word "zombie", word "calorie", word "prairie", word "rookie", word "hippie",
    word "goalie", word "pixie", start ++ letterOf "tpld" ++ word "ie"]

/-- A consonant, or qu. -/
def consonant : Pattern :=
  alt (letterNotOf "aeiouy") (word "qu")

/-- Endings after which -s is spelled -es. -/
def hissing : Pattern :=
  anyWord ["x", "ch", "ss", "sh", "zz", "tz"]

/-- Bus and omnibus without the s, as whole words. -/
def bus : Pattern :=
  start ++ capture (opt (word "omni") ++ word "bu") ++ word "s"

def plurals : Table :=
  ⟨"noun plurals".toList,
    irregulars .forward irregularPairs ++
    [.ending (capture man ++ word "an" ++ stop) "en",
     .keep (man ++ word "en"),
     .keep (usToI ++ word "i"),
     .ending (capture usToI ++ word "us" ++ stop) "i",
     .keep (umToA ++ word "a"),
     .ending (capture umToA ++ word "um" ++ stop) "a",
     .ending (capture (anyWord ["matr", "append"]) ++ word "ix" ++ stop) "ices",
     .ending (capture (anyWord ["vert", "ind", "cod"]) ++ word "ex" ++ stop) "ices",
     .ending (bus ++ stop) "ses",
     .ending (capture singularS ++ stop) "es",
     .keep (nounsInU ++ word "s"),
     .keep (letterOf "aeiou" ++ word "us"),
     .ending (capture (word "us") ++ stop) "es",
     .ending (capture oToOes ++ word "o" ++ stop) "oes",
     .ending (start ++ capture (anyWord ["ax", "test"]) ++ word "is" ++ stop) "es",
     .ending (word "sis" ++ stop) "ses",
     .ending (capture feToVes ++ word "fe" ++ stop) "ves",
     .ending (capture fToVes ++ word "f" ++ stop) "ves",
     .ending (capture consonant ++ word "y" ++ stop) "ies",
     .ending (capture hissing ++ stop) "es",
     .keep (word "s"),
     .ending stop "s"]⟩

def singulars : Table :=
  ⟨"noun singulars".toList,
    irregulars .backward irregularPairs ++
    [.ending (capture man ++ word "en" ++ stop) "an",
     .keep (man ++ word "an"),
     .ending (capture usToI ++ anyWord ["us", "i"] ++ stop) "us",
     .ending (capture umToA ++ word "a" ++ stop) "um",
     .ending (capture (anyWord ["matr", "append"]) ++ word "ices" ++ stop) "ix",
     .ending (capture (anyWord ["vert", "ind", "cod"]) ++ word "ices" ++ stop) "ex",
     .ending (bus ++ opt (word "es") ++ stop) "s",
     .ending (capture singularS ++ opt (word "es") ++ stop) "",
     .ending (capture nounsInU ++ word "s" ++ stop) "",
     .ending (capture (letterOf "aeiou" ++ word "u") ++ word "s" ++ stop) "",
     .ending (capture oToOes ++ word "oes" ++ stop) "o",
     .ending (start ++ capture (anyWord ["ax", "test"]) ++ anyWord ["is", "es"] ++ stop) "is",
     .ending (capture sisToSes ++ word "ses" ++ stop) "sis",
     .ending (capture feToVes ++ word "ves" ++ stop) "fe",
     .ending (capture fToVes ++ word "ves" ++ stop) "f",
     .ending (capture nounsInE ++ word "s" ++ stop) "",
     .ending (capture consonant ++ word "ies" ++ stop) "y",
     .ending (capture hissing ++ word "es" ++ stop) "",
     .keep (alt (start ++ opt (anyWord ["th", "h"]) ++ word "is")
       (anyWord ["s", "t", "tenn"] ++ word "is")),
     .keep (anyOf [word "ss", word "us", start ++ anyWord ["was", "has", "yes"]]),
     .ending (word "s" ++ stop) ""]⟩

end Inflection.Nouns
