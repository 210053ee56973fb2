import Inflection.Proofs.Rule.First
import Inflection.Proofs.Text.Lowered

/-! # Matching a lower-case text

Patterns do not tell a letter from its other case. In a word of ASCII, each pattern therefore matches the
lower-case word at the places where it matches the word, and takes and keeps the same stretches in lower
case. So a table applies the same rule to both, and if its replacements are in lower case it gives the
lower-case form for the lower-case word.
-/

namespace Inflection

open Text (isAscii toLower lowered)

variable {c : Char} {text word : List Char} {before : Option Char}

/-- No class tells a character of ASCII from its lower-case form. -/
theorem classIncludes_toLower (items : List ClassItem) (ascii : isAscii c = true) :
    classIncludes items (toLower c) = classIncludes items c := by
  have sameLetter (member : Char) : Text.sameLetter member (toLower c) = Text.sameLetter member c := by
    rw [Text.sameLetter, Text.sameLetter, Text.fold_toLower ascii]
  have spellings : Text.spellings (toLower c) = Text.spellings c := by
    rw [Text.spellings, Text.spellings, Text.fold_toLower ascii]
  have includes (item : ClassItem) : item.includes (toLower c) = item.includes c := by
    cases item with
    | one member => simp only [ClassItem.includes, Text.toLower_toLower ascii, sameLetter]
    | range first last =>
      simp only [ClassItem.includes, rangeIncludes, spellings, Text.laterCapitalStart?_of_isAscii ascii,
        Text.laterCapitalStart?_of_isAscii (Text.isAscii_toLower ascii)]
  unfold classIncludes
  split
  · exact sameLetter _
  · simp only [includes]

def Outcome.lowered (a : Outcome) : Outcome :=
  ⟨a.taken.map toLower, a.rest.map toLower, a.kept.map (·.map toLower)⟩

def Match.lowered (found : Match) : Match :=
  ⟨found.lead.map toLower, found.outcome.lowered⟩

namespace Pattern

private theorem here_map (condition : Bool) (text : List Char) :
    here condition (text.map toLower) = (here condition text).map Outcome.lowered := by
  cases condition <;> rfl

private theorem takeOne_map {condition : Char → Bool} (ascii : ∀ c ∈ text, isAscii c = true)
    (blind : ∀ c, isAscii c = true → condition (toLower c) = condition c) :
    takeOne condition (text.map toLower) = (takeOne condition text).map Outcome.lowered := by
  cases text with
  | nil => rfl
  | cons c text =>
    rw [List.map_cons, takeOne, takeOne, blind c (ascii c List.mem_cons_self)]
    cases condition c <;> rfl

private theorem isWordNeighbour_map (ascii : ∀ c ∈ before, isAscii c = true) :
    isWordNeighbour (before.map toLower) = isWordNeighbour before := by
  cases before with
  | none => rfl
  | some c => exact Text.isWordChar_toLower (ascii c rfl)

private theorem isLastLine_map (ascii : ∀ c ∈ text, isAscii c = true) :
    (text.map toLower == ['\n']) = (text == ['\n']) := by
  have apart : Text.isWordChar '\n' = false := Text.isWordChar_of_isBlank (by decide)
  rw [Bool.eq_iff_iff, beq_iff_eq, beq_iff_eq, List.map_eq_singleton_iff]
  constructor
  · rintro ⟨c, rfl, newline⟩
    rw [(Text.toLower_eq_iff (ascii c List.mem_cons_self) apart).mp newline]
  · rintro rfl
    exact ⟨'\n', rfl, by decide⟩

/-- A pattern matches the beginning of a lower-case text in the same ways as that of the text. -/
theorem outcomes_map_toLower (p : Pattern) (ascii : ∀ c ∈ text, isAscii c = true)
    (asciiBefore : ∀ c ∈ before, isAscii c = true) :
    p.outcomes (before.map toLower) (text.map toLower) =
      (p.outcomes before text).map Outcome.lowered := by
  induction p generalizing before text with
  | empty => exact here_map true text
  | char letter =>
    exact takeOne_map ascii fun c inAscii => by
      rw [Text.sameLetter, Text.sameLetter, Text.fold_toLower inAscii]
  | oneOf negated items =>
    exact takeOne_map ascii fun c inAscii => by rw [classIncludes_toLower items inAscii]
  | seq first second firstIh secondIh =>
    simp only [outcomes, firstIh ascii asciiBefore, List.flatMap_map, List.map_flatMap]
    refine List.flatMap_congr fun a member => ?_
    -- What the first pattern took and left are parts of the text.
    have parts := taken_append_rest member
    have asciiTaken : ∀ c ∈ a.taken, isAscii c = true := fun c taken =>
      ascii c (parts ▸ List.mem_append_left _ taken)
    have asciiRest : ∀ c ∈ a.rest, isAscii c = true := fun c left =>
      ascii c (parts ▸ List.mem_append_right _ left)
    have asciiNext : ∀ c ∈ a.taken.getLast?.or before, isAscii c = true := by
      intro c neighbour
      rcases Option.or_eq_some_iff.mp neighbour with last | ⟨-, earlier⟩
      · exact asciiTaken c (List.mem_of_getLast? last)
      · exact asciiBefore c earlier
    have next : (a.lowered.taken.getLast?.or (before.map toLower)) =
        (a.taken.getLast?.or before).map toLower := by
      rw [Outcome.lowered, List.getLast?_map, Option.map_or]
    rw [next]
    simp only [Outcome.lowered, secondIh asciiRest asciiNext, List.map_map]
    refine List.map_congr_left fun b _ => ?_
    simp [Outcome.lowered, Option.map_or]
  | alt first second firstIh secondIh =>
    rw [outcomes, outcomes, firstIh ascii asciiBefore, secondIh ascii asciiBefore, List.map_append]
  | opt inner ih => rw [outcomes, outcomes, ih ascii asciiBefore, here_map, List.map_append]
  | capture inner ih =>
    rw [outcomes, outcomes, ih ascii asciiBefore, List.map_map, List.map_map]
    rfl
  | start =>
    rw [outcomes, outcomes, Option.isNone_map, here_map]
  | stop => rw [outcomes, outcomes, List.isEmpty_map, here_map]
  | stopLine => rw [outcomes, outcomes, List.isEmpty_map, isLastLine_map ascii, here_map]
  | boundary =>
    rw [outcomes, outcomes, List.head?_map, isWordNeighbour_map asciiBefore,
      isWordNeighbour_map fun c first => ascii c (List.mem_of_head? first), here_map]

/-- The preferred match in a lower-case text is the one in the text. -/
theorem findFrom?_map_toLower (p : Pattern) (ascii : ∀ c ∈ text, isAscii c = true)
    (asciiBefore : ∀ c ∈ before, isAscii c = true) :
    p.findFrom? (before.map toLower) (text.map toLower) =
      (p.findFrom? before text).map Match.lowered := by
  induction text generalizing before with
  | nil =>
    rw [findFrom?, List.map_nil, findFrom?, ← List.map_nil (f := toLower),
      outcomes_map_toLower p ascii asciiBefore, List.head?_map, Option.map_map, Option.map_map]
    rfl
  | cons c text ih =>
    have asciiLater : ∀ d ∈ text, isAscii d = true := fun d member => ascii d (List.mem_cons_of_mem c member)
    have asciiHere : ∀ d ∈ some c, isAscii d = true := fun d same => ascii d (by simp_all)
    have later := ih asciiLater asciiHere
    have ways := outcomes_map_toLower p ascii asciiBefore
    rw [List.map_cons] at ways ⊢
    rw [findFrom?, findFrom?, ways]
    cases p.outcomes before (c :: text) with
    | cons best others => rfl
    | nil =>
      rw [Option.map_some] at later
      simp only [List.map_nil, later, Option.map_map]
      rfl

end Pattern

/-- What a rule finds in a lower-case word is what it finds in the word, in lower case. -/
theorem Rule.match?_map_toLower (rule : Rule) (ascii : ∀ c ∈ word, isAscii c = true) :
    rule.match? (word.map toLower) =
      (rule.match? word).map fun parts => (parts.1.map toLower, parts.2.map toLower) := by
  have asciiBefore : ∀ c ∈ (none : Option Char), isAscii c = true := nofun
  have found := rule.pattern.findFrom?_map_toLower ascii asciiBefore
  rw [Option.map_none] at found
  rw [match?, match?, Pattern.find?, Pattern.find?, found, Option.map_map, Option.map_map]
  refine congrArg (Option.map · _) (funext fun m => ?_)
  obtain ⟨lead, taken, rest, kept⟩ := m
  cases kept <;> rfl

def Application.lowered (application : Application) : Application :=
  { application with lead := application.lead.map toLower, kept := application.kept.map toLower }

namespace Table

variable {table : Table}

private theorem firstFrom?_map_toLower (ascii : ∀ c ∈ word, isAscii c = true) (index : Nat)
    (rules : List Rule) :
    firstFrom? (word.map toLower) index rules =
      (firstFrom? word index rules).map Application.lowered := by
  induction rules generalizing index with
  | nil => rfl
  | cons rule rules ih =>
    rw [firstFrom?, firstFrom?, rule.match?_map_toLower ascii]
    cases rule.match? word with
    | none => exact ih (index + 1)
    | some parts => rfl

/-- A table applies the same rule to a lower-case word as to the word. -/
theorem first?_lowered (table : Table) (ascii : ∀ c ∈ word, isAscii c = true) :
    table.first? (lowered word) = (table.first? word).map Application.lowered := by
  rw [Text.lowered_eq_map ascii]
  exact firstFrom?_map_toLower ascii 0 table.rules

/-- Whether all replacements of a table are in lower case. -/
def isLowerCase (table : Table) : Bool :=
  table.rules.all fun rule => rule.replacement.all Char.isLower

private theorem isLower_of_mem_replacement (lower : table.isLowerCase = true) {rule : Rule}
    (member : rule ∈ table.rules) : ∀ c ∈ rule.replacement, c.isLower = true :=
  List.all_eq_true.mp (List.all_eq_true.mp lower rule member)

/-- A table with lower-case replacements gives texts of ASCII for words of ASCII. -/
theorem isAscii_of_mem_apply (lower : table.isLowerCase = true) (ascii : ∀ c ∈ word, isAscii c = true) :
    ∀ c ∈ table.apply word, isAscii c = true := by
  intro c member
  rcases mem_or_mem_of_apply member with own | ⟨rule, ruleMember, new⟩
  · exact ascii c own
  · exact Text.isAscii_of_isLower (isLower_of_mem_replacement lower ruleMember c new)

/-- A table with lower-case replacements gives the lower-case form for the lower-case word. -/
theorem apply_lowered (lower : table.isLowerCase = true) (ascii : ∀ c ∈ word, isAscii c = true) :
    table.apply (lowered word) = lowered (table.apply word) := by
  rw [Text.lowered_eq_map (isAscii_of_mem_apply lower ascii), apply, apply, first?_lowered table ascii]
  cases first : table.first? word with
  | none => exact Text.lowered_eq_map ascii
  | some application =>
    have small := isLower_of_mem_replacement lower (mem_rules_of_firstFrom? first).1
    simp [Application.lowered, Application.result, Rule.build, Text.map_toLower_of_isLower small]

end Table

end Inflection
