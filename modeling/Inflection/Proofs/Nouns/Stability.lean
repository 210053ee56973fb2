import Inflection.Proofs.Ending.Survey
import Inflection.Proofs.Ending.Word
import Inflection.Proofs.Nouns.Form

/-! # Nouns that change when they are inflected again

Inflecting a noun twice should be inflecting it once. The broad rules, which add or drop an s, can
however give a word that a rule for particular endings changes again. This file says exactly which
words these are, for the tables and for the forms of nouns.
-/

namespace Inflection.Nouns

open Pattern
open Text (stem tail isBlank sameLetter)

/-- The stems that the table for a number always changes again. -/
def traps : Number → Pattern
  | .singular =>
    anyOf [start ++ anyWord ["peoples", "childrens", "oxens", "feets", "teeths", "geeses", "mices",
      "lices", "dices", "generas", "corporas", "criterias", "phenomenas"], man ++ word "ens",
      umToA ++ word "as"]
  | .plural =>
    alt (start ++ anyWord ["axi", "testi"]) (anyWord ["alia", "atla", "canva", "iri", "len", "ga",
      "si", "radiu", "nucleu", "geniu"])

/-- The endings of stems that the table for a number changes again unless they are safe. -/
def openEndings : Number → Pattern
  | .singular => usToI ++ word "is"
  | .plural => word "u"

def safeEndings : Number → Pattern
  | .singular => word "cactis"
  | .plural => alt nounsInU (letterOf "aeiou" ++ word "u")

/-- Whether the table for a number changes what it gives for a stem. -/
def isUnstable (number : Number) (stem : List Char) : Bool :=
  (traps number).endsIn stem || (openEndings number).endsIn stem && !(safeEndings number).endsIn stem

/-- The whole nouns with one form for both numbers that are not the plural of an unstable stem. -/
def fixedResults : Number → List String
  | .singular => uncountables
  | .plural => uncountables.filter (· ≠ "chassis")

/-- Whether an edit is the one of the last rule, the broadest of its table. -/
def isBroad (number : Number) (edit : Edit) (known : Known) : Bool :=
  match number with
  | .singular => edit == ⟨1, []⟩ && known.endsIn (.letter 's')
  | .plural => edit == ⟨0, ['s']⟩

def isNoneOf (words : List String) (known : Known) : Bool :=
  (start ++ anyWord words).survey .all (fun found _ => !found) known

/-- What has to be known for a stem and for the word that its table gives: an unstable stem has
letters and two forms and is changed by the last rule and then again, and the result of a stable one is
not changed again. -/
def isExplained (number : Number) (unstable : Bool) (first second : Edit) (known after : Known) :
    Bool :=
  if unstable then
    known.hasLetters 1 && isBroad number first known && after.changedBy second &&
      after.endsIn .insideWords && isNoneOf uncountables known && isNoneOf (fixedResults number) after
  else
    first.andThen second == first &&
      (first == .nothing || after.endsIn .insideWords || isBroad number first known)

def surveyTwice (number : Number) : Bool :=
  (traps number).survey .all (fun trap => (openEndings number).survey .all fun opened =>
    (safeEndings number).survey .all fun safe => (table number).survey .all fun first known =>
      (table number).survey .all
        (fun second after => isExplained number (trap || opened && !safe) first second known after)
        (known.edited first))
    .unknown

private theorem surveys_checked : ([.singular, .plural].all fun number =>
    (traps number).hasShapes && (openEndings number).hasShapes && (safeEndings number).hasShapes &&
      surveyTwice number) = true := by
  decide +kernel

variable {number : Number} {v : List Char}

private theorem exists_explained (number : Number) (v : List Char) : ∃ known after : Known,
    known.Covers .all v.reverse ∧ after.Covers .all ((table number).apply v).reverse ∧
      isExplained number (isUnstable number v) ((table number).edit v)
        ((table number).edit ((table number).apply v)) known after = true := by
  have checked := List.all_eq_true.mp surveys_checked number (by cases number <;> simp)
  simp only [Bool.and_eq_true] at checked
  obtain ⟨⟨⟨trapsShaped, openShaped⟩, safeShaped⟩, surveyed⟩ := checked
  have start : Known.unknown.Covers .all v.reverse := fun c _ => LetterSet.mem_all c
  obtain ⟨known₁, covers₁, checked₁⟩ := Pattern.of_survey trapsShaped start surveyed
  obtain ⟨known₂, covers₂, checked₂⟩ := Pattern.of_survey openShaped covers₁ checked₁
  obtain ⟨known₃, covers₃, checked₃⟩ := Pattern.of_survey safeShaped covers₂ checked₂
  obtain ⟨known, covers, checked⟩ := Table.of_survey covers₃ checked₃
  have edited := Known.covers_edited covers ((table number).edit v)
  rw [← apply_table] at edited
  obtain ⟨after, coversAfter, explained⟩ := Table.of_survey edited checked
  exact ⟨known, after, covers, coversAfter, explained⟩

/-- The table for a number changes what it gives for a stem if the stem is unstable. -/
theorem apply_apply_eq_iff (number : Number) (v : List Char) :
    (table number).apply ((table number).apply v) = (table number).apply v ↔
      isUnstable number v = false := by
  obtain ⟨known, after, -, coversAfter, explained⟩ := exists_explained number v
  cases unstable : isUnstable number v with
  | true =>
    simp only [unstable, isExplained, if_pos, Bool.and_eq_true] at explained
    have changed := Known.apply_ne_of_changedBy coversAfter explained.1.1.1.2
    rw [← apply_table] at changed
    simp [changed]
  | false =>
    simp only [unstable, isExplained, Bool.false_eq_true, if_false, Bool.and_eq_true,
      beq_iff_eq] at explained
    have twice := congrArg (Edit.apply · v) explained.1
    rw [Edit.apply_andThen, ← apply_table, ← apply_table] at twice
    simp [twice]

/-- What the last rule of the table for a number does to a stem. -/
def AppliesBroadly : Number → List Char → Prop
  | .singular, v => ∃ c, sameLetter 's' c = true ∧ v = singulars.apply v ++ [c]
  | .plural, v => plurals.apply v = v ++ ['s']

private theorem appliesBroadly_of_isBroad {known : Known} (covers : known.Covers .all v.reverse)
    (broad : isBroad number ((table number).edit v) known = true) : AppliesBroadly number v := by
  cases number with
  | singular =>
    simp only [isBroad, Bool.and_eq_true, beq_iff_eq] at broad
    obtain ⟨start, c, rfl, member⟩ := Known.exists_of_endsIn covers broad.2
    refine ⟨c, (LetterSet.mem_letter (by decide)).mp member, ?_⟩
    have result := apply_table .singular (start ++ [c])
    rw [broad.1, Edit.apply, List.append_nil] at result
    change singulars.apply _ = _ at result
    rw [result, List.rdrop_concat_succ, List.rdrop_zero]
  | plural =>
    simp only [isBroad, beq_iff_eq] at broad
    have result := apply_table .plural v
    rw [broad, Edit.apply, List.rdrop_zero] at result
    exact result

private theorem not_mem_of_isNoneOf {words : List String} (part : words ⊆ uncountables)
    {known : Known} (covers : known.Covers .all v.reverse) (none : isNoneOf words known = true) :
    ∀ s ∈ words, v ≠ s.toList := by
  rintro s member rfl
  have lower : ∀ s ∈ words, ∀ c ∈ s.toList, c.isLower = true :=
    fun s member => isLower_of_mem_uncountables s (part member)
  have some : words ≠ [] := List.ne_nil_of_mem member
  obtain ⟨-, -, absent⟩ := Pattern.of_survey (hasShapes_start_anyWord lower some) covers none
  rw [(endsIn_start_anyWord_iff lower some (lower s member)).mpr ⟨s, member, rfl⟩] at absent
  cases absent

/-- The last rule is the one that is applied to an unstable stem. The stem and its result have two
forms, with one exception, and the result ends in a letter. -/
theorem of_isUnstable (unstable : isUnstable number v = true) :
    v ≠ [] ∧ AppliesBroadly number v ∧
      (∃ c, ((table number).apply v).getLast? = some c ∧ isBlank c = false) ∧
      (∀ s ∈ uncountables, v ≠ s.toList) ∧
      ∀ s ∈ fixedResults number, (table number).apply v ≠ s.toList := by
  obtain ⟨known, after, covers, coversAfter, explained⟩ := exists_explained number v
  simp only [unstable, isExplained, if_pos, Bool.and_eq_true] at explained
  obtain ⟨⟨⟨⟨⟨letters, broad⟩, -⟩, within⟩, stemFree⟩, resultFree⟩ := explained
  have results : fixedResults number ⊆ uncountables := by
    cases number with
    | singular => exact List.Subset.refl _
    | plural =>
      intro s member
      rw [fixedResults] at member
      exact List.mem_of_mem_filter member
  refine ⟨?_, appliesBroadly_of_isBroad covers broad, Known.exists_getLast?_of_endsIn coversAfter within,
    not_mem_of_isNoneOf (List.Subset.refl _) covers stemFree,
    not_mem_of_isNoneOf results coversAfter resultFree⟩
  rintro rfl
  exact absurd (Known.le_length_of_hasLetters covers letters) (by decide)

/-- What the table gives for a stable stem is the stem, ends in a letter, or comes from the last rule. -/
theorem of_not_isUnstable (stable : isUnstable number v = false) :
    (table number).apply v = v ∨
      (∃ c, ((table number).apply v).getLast? = some c ∧ isBlank c = false) ∨
      AppliesBroadly number v := by
  obtain ⟨known, after, covers, coversAfter, explained⟩ := exists_explained number v
  simp only [stable, isExplained, Bool.false_eq_true, if_false, Bool.and_eq_true, Bool.or_eq_true,
    beq_iff_eq] at explained
  rcases explained.2 with (unchanged | within) | broad
  · rw [apply_table, unchanged]
    exact .inl (Edit.apply_nothing v)
  · exact .inr (.inl (Known.exists_getLast?_of_endsIn coversAfter within))
  · exact .inr (.inr (appliesBroadly_of_isBroad covers broad))

/-- A lone s after blanks is dropped by the last rule. -/
theorem singulars_apply_lone_s {start : List Char} {b c : Char} (blank : isBlank b = true)
    (letter : sameLetter 's' c = true) : singulars.apply (start ++ [b, c]) = start ++ [b] := by
  have surveyed : singulars.survey .all (fun edit _ => edit == ⟨1, []⟩)
      (.letter (.letter 's') (.letter .outsideWords .unknown)) = true := by
    decide +kernel
  have covers : (Known.letter (.letter 's') (.letter .outsideWords .unknown)).Covers .all
      (start ++ [b, c]).reverse := by
    rw [List.reverse_append]
    exact ⟨(LetterSet.mem_letter (by decide)).mpr letter,
      LetterSet.mem_outsideWords.mpr (Text.isWordChar_of_isBlank blank),
      fun d _ => LetterSet.mem_all d⟩
  obtain ⟨-, -, broad⟩ := Table.of_survey covers surveyed
  have result := apply_table .singular (start ++ [b, c])
  rw [table, eq_of_beq broad, Edit.apply, List.append_nil] at result
  rw [result, List.append_cons, List.rdrop_concat_succ, List.rdrop_zero]

/-- Whether a stem is a noun with a lone s after it, where the noun itself is not singular: dropping
the s uncovers a noun that changes. -/
def CoversPlural (v : List Char) : Prop :=
  ∃ start b c, v = start ++ [b, c] ∧ isBlank b = true ∧ sameLetter 's' c = true ∧
    Text.isBlankText start = false ∧ isSingular (start ++ [b]) = false

/-- Whether a noun that is inflected twice differs from one that is inflected once. -/
def ChangesAgain : Number → List Char → Prop
  | .singular, word => isUnstable .singular (stem word) = true ∨ CoversPlural (stem word)
  | .plural, word => isUnstable .plural (stem word) = true ∧ stem word ≠ "chassi".toList

private theorem form_eq_self_of_last (fixed : (table number).apply v = v)
    (last : ∀ c, v.getLast? = some c → isBlank c = false) : form number v = v := by
  cases final : v.getLast? with
  | none =>
    rw [List.getLast?_eq_none_iff.mp final]
    rfl
  | some c => exact (form_eq_self_iff_of_getLast final (last c final)).mpr (.inr fixed)

private theorem form_apply_iff_of_unstable (unstable : isUnstable number v = true) :
    form number ((table number).apply v) = (table number).apply v ↔
      isUncountable ((table number).apply v) = true := by
  obtain ⟨-, -, ⟨c, last, plain⟩, -⟩ := of_isUnstable unstable
  have changes : (table number).apply ((table number).apply v) ≠ (table number).apply v := by
    rw [Ne, apply_apply_eq_iff, unstable]
    exact Bool.noConfusion
  rw [form_eq_self_iff_of_getLast last plain, or_iff_left changes]

private theorem isUnstable_of_isUncountable (fixed : isUncountable v = true) :
    isUnstable number v = false := by
  obtain ⟨s, member, rfl⟩ := isUncountable_iff.mp fixed
  rw [← Bool.not_eq_true]
  intro unstable
  exact (of_isUnstable unstable).2.2.2.1 s member rfl

private theorem not_coversPlural_of_isUncountable (fixed : isUncountable v = true) :
    ¬CoversPlural v := by
  obtain ⟨s, member, rfl⟩ := isUncountable_iff.mp fixed
  rintro ⟨start, b, c, split, blank, -⟩
  have letter := isLower_of_mem_uncountables s member b (by simp [split])
  rw [Text.isBlank_of_isLower letter] at blank
  cases blank

private theorem isUncountable_plural_iff (unstable : isUnstable .plural v = true) :
    isUncountable (plurals.apply v) = true ↔ v = "chassi".toList := by
  obtain ⟨-, broad, -, -, free⟩ := of_isUnstable unstable
  have result : plurals.apply v = v ++ ['s'] := broad
  rw [isUncountable_iff]
  constructor
  · rintro ⟨s, member, same⟩
    have exception : s = "chassis" := by
      by_contra other
      exact free s (List.mem_filter.mpr ⟨member, by simpa using other⟩) same
    rw [result, exception] at same
    exact List.append_cancel_right (same.trans (by decide : _ = "chassi".toList ++ ['s']))
  · rintro rfl
    exact ⟨"chassis", by decide, result.trans (by decide)⟩

private theorem isBlankText_concat {start : List Char} {b : Char} (blank : isBlank b = true) :
    Text.isBlankText (start ++ [b]) = Text.isBlankText start := by
  simp [Text.isBlankText, blank]

private theorem coversPlural_iff {start : List Char} {b c : Char} (blank : isBlank b = true)
    (letter : sameLetter 's' c = true) :
    CoversPlural (start ++ [b, c]) ↔
      Text.isBlankText start = false ∧ isSingular (start ++ [b]) = false := by
  constructor
  · rintro ⟨other, b', c', split, -, -, present, plural⟩
    obtain ⟨rfl, same⟩ := List.append_inj' split rfl
    obtain rfl : b = b' := by simp_all
    exact ⟨present, plural⟩
  · rintro ⟨present, plural⟩
    exact ⟨start, b, c, rfl, blank, letter, present, plural⟩

/-- Where a lone s is dropped, it is the noun before it that is inflected the second time. -/
private theorem form_singular_of_lone_s {start : List Char} {b c : Char} (blank : isBlank b = true)
    (letter : sameLetter 's' c = true) :
    form .singular (singulars.apply (start ++ [b, c])) = singulars.apply (start ++ [b, c]) ↔
      ¬CoversPlural (start ++ [b, c]) := by
  rw [singulars_apply_lone_s blank letter, coversPlural_iff blank letter, isSingular, isInForm,
    isBlankText_concat blank]
  cases present : Text.isBlankText start with
  | true =>
    have fixed : isFixed (start ++ [b]) = true := by
      rw [isFixed, isBlankText_concat blank, present, Bool.true_or]
    simp [form_of_isFixed fixed]
  | false => simp

private theorem form_apply_iff_of_stable (stable : isUnstable number v = false)
    (last : ∀ c, v.getLast? = some c → isBlank c = false) :
    form number ((table number).apply v) = (table number).apply v ↔
      (number = .singular → ¬CoversPlural v) := by
  have fixed := (apply_apply_eq_iff number v).mpr stable
  by_cases lone : number = .singular ∧ ∃ start b c, v = start ++ [b, c] ∧ isBlank b = true ∧
      sameLetter 's' c = true
  · obtain ⟨rfl, start, b, c, rfl, blank, letter⟩ := lone
    rw [table, form_singular_of_lone_s blank letter]
    simp
  · have noCover : number = .singular → ¬CoversPlural v := by
      rintro rfl ⟨start, b, c, split, blank, letter, -⟩
      exact lone ⟨rfl, start, b, c, split, blank, letter⟩
    refine iff_of_true (form_eq_self_of_last fixed fun d final => ?_) noCover
    rcases of_not_isUnstable stable with unchanged | ⟨c, plainLast, plain⟩ | broad
    · rw [unchanged] at final
      exact last d final
    · obtain rfl := Option.some.inj (final.symm.trans plainLast)
      exact plain
    · cases number with
      | plural =>
        have result : plurals.apply v = v ++ ['s'] := broad
        rw [table, result, List.getLast?_concat] at final
        obtain rfl := Option.some.inj final
        decide
      | singular =>
        obtain ⟨c, letter, split⟩ := broad
        rw [← Bool.not_eq_true]
        intro blank
        obtain ⟨start, whole⟩ := List.getLast?_eq_some_iff.mp final
        refine lone ⟨rfl, start, d, c, ?_, blank, letter⟩
        rw [split, ← table, whole, List.append_assoc]
        rfl

private theorem form_apply_nil (number : Number) :
    form number ((table number).apply []) = (table number).apply [] := by
  have stable : isUnstable number [] = false := by
    rw [← Bool.not_eq_true]
    exact fun unstable => (of_isUnstable unstable).1 rfl
  refine (form_apply_iff_of_stable stable (by simp)).mpr fun _ => ?_
  rintro ⟨start, b, c, split, -⟩
  simp at split

/-- A form is its own form in the same number, unless the noun is one of those that change again. -/
theorem form_form_eq_iff_not_changesAgain (number : Number) (word : List Char) :
    form number (form number word) = form number word ↔ ¬ChangesAgain number word := by
  have last : ∀ c, (stem word).getLast? = some c → isBlank c = false :=
    fun c => Text.getLast?_dropEndWhile
  have stems : isUncountable (stem word) = true ∨
      form number ((table number).apply (stem word)) = (table number).apply (stem word) ↔
        ¬ChangesAgain number word := by
    cases unstable : isUnstable number (stem word) with
    | true =>
      have free : isUncountable (stem word) ≠ true := fun fixed => by
        rw [isUnstable_of_isUncountable fixed] at unstable
        cases unstable
      rw [or_iff_right free, form_apply_iff_of_unstable unstable]
      cases number with
      | singular =>
        have results := (of_isUnstable unstable).2.2.2.2
        simp only [ChangesAgain, unstable, true_or, not_true_eq_false, iff_false, isUncountable_iff]
        rintro ⟨s, member, same⟩
        exact results s member same
      | plural =>
        rw [table, isUncountable_plural_iff unstable]
        simp [ChangesAgain, unstable]
    | false =>
      rw [form_apply_iff_of_stable unstable last]
      cases number with
      | singular =>
        simp only [ChangesAgain, unstable, Bool.false_eq_true, false_or, true_imp_iff]
        exact or_iff_right_of_imp not_coversPlural_of_isUncountable
      | plural => simp [ChangesAgain, unstable]
  rw [form_form_eq_iff, ← stems, isFixed, Bool.or_eq_true, or_assoc]
  refine or_iff_right_of_imp fun blank => .inr ?_
  have empty : stem word = [] := Text.dropEndWhile_eq_nil_iff.mpr (List.all_eq_true.mp blank)
  rw [empty]
  exact form_apply_nil number

private theorem isInForm_form_iff (number : Number) (word : List Char) :
    isInForm number (form number word) = true ↔
      Text.isBlankText (form number word) = false ∧ ¬ChangesAgain number word := by
  rw [isInForm, Bool.and_eq_true, Bool.not_eq_true', beq_iff_eq, form_form_eq_iff_not_changesAgain]

/-- Inflecting a noun twice is inflecting it once, and gives a noun in the wanted number, for exactly
the nouns that do not change again. -/
theorem twice_eq_once_iff (word : List Char) :
    (singularize (singularize word) = singularize word ↔ ¬ChangesAgain .singular word) ∧
      (pluralize (pluralize word) = pluralize word ↔ ¬ChangesAgain .plural word) ∧
      (isSingular (singularize word) = true ↔
        Text.isBlankText (singularize word) = false ∧ ¬ChangesAgain .singular word) ∧
      (isPlural (pluralize word) = true ↔
        Text.isBlankText (pluralize word) = false ∧ ¬ChangesAgain .plural word) :=
  ⟨form_form_eq_iff_not_changesAgain .singular word, form_form_eq_iff_not_changesAgain .plural word,
    isInForm_form_iff .singular word, isInForm_form_iff .plural word⟩

theorem pluralize_alia_twice :
    pluralize (pluralize "alia".toList) ≠ pluralize "alia".toList := by
  decide +kernel

end Inflection.Nouns
