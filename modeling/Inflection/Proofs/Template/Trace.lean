import Inflection.Proofs.Nouns.Form
import Inflection.Proofs.Rule.First
import Inflection.Proofs.Session.Setup
import Inflection.Proofs.Template.Segmentation

/-! # The trace of a rendering

Rendering a template is told span by span: which rule gave the word of a tag its form, which span was
refused for a modifier, and, if none was refused, how many spans there are. A log takes either all of
this or nothing, by its level, and what it takes is shown on the console and written to its file once.
-/

namespace Inflection

open Log (Event)

namespace Table

variable {table : Table} {word : List Char}

private theorem first?_eq_none_iff :
    table.first? word = none ↔ ¬∃ rule ∈ table.rules, rule.match? word ≠ none := by
  rw [first?, firstFrom?_eq_none_iff]
  simp only [not_exists, not_and, not_not]

/-- A table with a rule for the stem of a word reports the stem and what becomes of it. -/
theorem events_of_match (matched : ∃ rule ∈ table.rules, rule.match? (Text.stem word) ≠ none) :
    table.events word = [.ruleApplied table.name (Text.stem word) (table.apply (Text.stem word))] := by
  rw [events, apply]
  cases first : table.first? (Text.stem word) with
  | none => exact absurd matched (first?_eq_none_iff.mp first)
  | some application => rfl

/-- A table without a rule for the stem of a word reports nothing. -/
theorem events_eq_nil (unmatched : ¬∃ rule ∈ table.rules, rule.match? (Text.stem word) ≠ none) :
    table.events word = [] := by
  rw [events, first?_eq_none_iff.mpr unmatched]

end Table

namespace Tag

variable {tag : Tag} {table : Table} {count : Nat} {events : List Event}

/-- The table that gives the word of a tag its form for a count, if the tag has a word. A noun takes the
table of the first of the modifiers s and p that it has; without them, and for a verb, the table is that
of the singular for a count of one, and that of the plural for any other. -/
def table? (tag : Tag) (count : Nat) : Option Table :=
  match tag.kind with
  | .noun =>
    match tag.modifiers.find? fun modifier => modifier = ['s'] ∨ modifier = ['p'] with
    | some modifier => some (if modifier = ['s'] then Nouns.singulars else Nouns.plurals)
    | none => some (if count = 1 then Nouns.singulars else Nouns.plurals)
  | .verb => some (if count = 1 then Verbs.singulars else Verbs.plurals)
  | .count => none

private theorem forcedNumber?_eq (modifiers : List (List Char)) :
    forcedNumber? modifiers =
      (modifiers.find? fun modifier => modifier = ['s'] ∨ modifier = ['p']).map fun modifier =>
        if modifier = ['s'] then .singular else .plural := by
  rw [forcedNumber?]
  induction modifiers with
  | nil => rfl
  | cons modifier modifiers ih =>
    rw [List.findSome?_cons, List.find?_cons, ih]
    by_cases singular : modifier = ['s']
    · simp [singular]
    · by_cases plural : modifier = ['p'] <;> simp [singular, plural]

/-- The table of a noun is that of the number that is worked out for it. -/
theorem table?_of_noun (noun : tag.kind = .noun) :
    tag.table? count = some (Nouns.table (tag.nounNumber count)) := by
  simp only [table?, noun, nounNumber, forcedNumber?_eq, Number.ofCount]
  cases tag.modifiers.find? fun modifier => modifier = ['s'] ∨ modifier = ['p'] with
  | none => by_cases one : count = 1 <;> simp [one, Nouns.table]
  | some modifier => by_cases singular : modifier = ['s'] <;> simp [singular, Nouns.table]

/-- The table of a verb is that of the number of its subject. -/
theorem table?_of_verb (verb : tag.kind = .verb) :
    tag.table? count = some (Verbs.table (.ofCount count)) := by
  simp only [table?, verb, Number.ofCount]
  split <;> rfl

/-- Whether the payload of a tag is a word to inflect: it is not blank, and it is not the noun of one
form for both numbers, which is told without the blanks that end it. -/
structure HasWord (tag : Tag) : Prop where
  visible : ∃ c ∈ tag.payload, Text.isBlank c = false
  countable : tag.kind = .noun → ∀ s ∈ Nouns.uncountables, Text.stem tag.payload ≠ s.toList

/-- Whether a rule of a table gives the word of a tag its form for a count. -/
structure Applies (tag : Tag) (count : Nat) (table : Table) : Prop where
  chosen : tag.table? count = some table
  word : tag.HasWord
  matched : ∃ rule ∈ table.rules, rule.match? (Text.stem tag.payload) ≠ none

/-- Whether events are what is told of a tag: one event with the table, the word and the text that
replaces the tag, both without the blanks that end them, or nothing if no rule is applied. -/
inductive IsTrace (count : Nat) (tag : Tag) : List Event → Prop where
  | applied {table : Table} {result : List Char} (applies : tag.Applies count table)
      (replaced : tag.render count = result ++ Text.tail tag.payload) :
      IsTrace count tag [.ruleApplied table.name (Text.stem tag.payload) result]
  | silent (idle : ∀ table, ¬tag.Applies count table) : IsTrace count tag []

private theorem isBlankText_eq_false_iff {text : List Char} :
    Text.isBlankText text = false ↔ ∃ c ∈ text, Text.isBlank c = false := by
  rw [Text.isBlankText, List.all_eq_false]
  simp only [Bool.not_eq_true]

private theorem isFixed_eq_false_iff {word : List Char} :
    Nouns.isFixed word = false ↔ (∃ c ∈ word, Text.isBlank c = false) ∧
      ∀ s ∈ Nouns.uncountables, Text.stem word ≠ s.toList := by
  rw [Nouns.isFixed, Bool.or_eq_false_iff, isBlankText_eq_false_iff, ← Bool.not_eq_true,
    Nouns.isUncountable_iff]
  simp only [not_exists, not_and, ne_eq]

/-- A word is inflected by the table of its tag. -/
theorem render_of_hasWord (chosen : tag.table? count = some table) (word : tag.HasWord) :
    tag.render count = table.apply (Text.stem tag.payload) ++ Text.tail tag.payload ∧
      tag.renderEvents count = table.events tag.payload := by
  rw [render, renderEvents]
  cases kind : tag.kind with
  | noun =>
    have free := isFixed_eq_false_iff.mpr ⟨word.visible, word.countable kind⟩
    obtain rfl := Option.some.inj ((table?_of_noun kind).symm.trans chosen)
    simp only [Nouns.form, Nouns.formEvents, free, Bool.false_eq_true, if_false, Table.inflect,
      and_self]
  | verb =>
    have free := isBlankText_eq_false_iff.mpr word.visible
    obtain rfl := Option.some.inj ((table?_of_verb kind).symm.trans chosen)
    simp only [Verbs.conjugate, Verbs.form, Verbs.formEvents, free, Bool.false_eq_true, if_false,
      Table.inflect, and_self]
  | count => simp [table?, kind] at chosen

/-- Nothing is told of a payload that is no word. -/
theorem renderEvents_of_not_hasWord (wordless : ¬tag.HasWord) : tag.renderEvents count = [] := by
  rw [renderEvents]
  cases kind : tag.kind with
  | noun =>
    have fixed : Nouns.isFixed tag.payload = true := by
      rw [← Bool.not_eq_false, isFixed_eq_false_iff]
      exact fun ⟨visible, countable⟩ => wordless ⟨visible, fun _ => countable⟩
    simp only [Nouns.formEvents, fixed, if_true]
  | verb =>
    have blank : Text.isBlankText tag.payload = true := by
      rw [← Bool.not_eq_false, isBlankText_eq_false_iff]
      exact fun visible => wordless ⟨visible, fun noun => nomatch kind.symm.trans noun⟩
    simp only [Verbs.formEvents, blank, if_true]
  | count => rfl

/-- Rendering a tag reports the table that applies to its word. -/
theorem renderEvents_of_applies (applies : tag.Applies count table) :
    tag.renderEvents count =
      [.ruleApplied table.name (Text.stem tag.payload) (table.apply (Text.stem tag.payload))] := by
  rw [(render_of_hasWord applies.chosen applies.word).2, Table.events_of_match applies.matched]

/-- Rendering a tag reports nothing if no table applies to its word. -/
theorem renderEvents_eq_nil (idle : ∀ table, ¬tag.Applies count table) :
    tag.renderEvents count = [] := by
  by_cases word : tag.HasWord
  · cases chosen : tag.table? count with
    | none =>
      cases kind : tag.kind with
      | noun => cases (table?_of_noun kind).symm.trans chosen
      | verb => cases (table?_of_verb kind).symm.trans chosen
      | count => simp only [renderEvents, kind]
    | some table =>
      rw [(render_of_hasWord chosen word).2, Table.events_eq_nil]
      exact fun matched => idle table ⟨chosen, word, matched⟩
  · exact renderEvents_of_not_hasWord word

/-- What is told of a tag is what rendering it reports, and nothing else. -/
theorem isTrace_iff : IsTrace count tag events ↔ events = tag.renderEvents count := by
  constructor
  · rintro (⟨applies, replaced⟩ | idle)
    · rw [(render_of_hasWord applies.chosen applies.word).1] at replaced
      rw [renderEvents_of_applies applies, List.append_cancel_right replaced]
    · rw [renderEvents_eq_nil idle]
  · rintro rfl
    by_cases applies : ∃ table, tag.Applies count table
    · obtain ⟨table, applies⟩ := applies
      rw [renderEvents_of_applies applies]
      exact .applied applies (render_of_hasWord applies.chosen applies.word).1
    · rw [renderEvents_eq_nil (not_exists.mp applies)]
      exact .silent (not_exists.mp applies)

private theorem readEvents_of_malformed (text source : List Char) (malformation : Malformation) :
    readEvents text (.error (.malformed source malformation)) = [] := rfl

/-- Everything that is told of a tag is for debugging. -/
theorem IsTrace.severity (trace : IsTrace count tag events) :
    ∀ event ∈ events, event.severity = .debug := by
  cases trace with
  | applied => exact List.forall_mem_singleton.mpr rfl
  | silent => exact List.forall_mem_nil _

end Tag

namespace Template

variable {spans good later : List Span} {bad : Span} {tags : List Tag} {count : Nat}
  {events : List Event} {traces : List (List Event)}

/-- Whether events are what is told of the spans of a template: what is told of their tags in order,
and at the end the number of spans. The first span that is no tag ends the trace, with an event for
itself if it was refused for a modifier. -/
inductive IsTrace (spans : List Span) (count : Nat) : List Event → Prop where
  | rendered {tags : List Tag} {traces : List (List Event)}
      (read : spans.map Span.tag = tags.map .ok)
      (told : List.Forall₂ (Tag.IsTrace count) tags traces) :
      IsTrace spans count (traces.flatten ++ [.templateParsed spans.length count])
  | unknownOption {good later : List Span} {bad : Span} {tags : List Tag}
      {traces : List (List Event)} {option : List Char} {kind : Kind}
      (split : spans = good ++ bad :: later) (read : good.map Span.tag = tags.map .ok)
      (told : List.Forall₂ (Tag.IsTrace count) tags traces)
      (refused : bad.tag = .error (.unknownOption option kind)) :
      IsTrace spans count (traces.flatten ++ [.tagRejected bad.source option kind])
  | malformed {good later : List Span} {bad : Span} {tags : List Tag}
      {traces : List (List Event)} {source : List Char} {malformation : Malformation}
      (split : spans = good ++ bad :: later) (read : good.map Span.tag = tags.map .ok)
      (told : List.Forall₂ (Tag.IsTrace count) tags traces)
      (refused : bad.tag = .error (.malformed source malformation)) :
      IsTrace spans count traces.flatten

/-- Spans that are all tags end with their number, which is half of the pieces they put out. -/
theorem spanEvents_of_read (pieces : Nat) (read : spans.map Span.tag = tags.map .ok) :
    spanEvents pieces count spans = (tags.map (·.renderEvents count)).flatten ++
      [.templateParsed ((pieces + 2 * spans.length) / 2) count] := by
  induction spans generalizing pieces tags with
  | nil => simp_all [spanEvents]
  | cons span spans ih =>
    obtain ⟨tag, tags, rfl, ok, rest⟩ := List.map_eq_cons_iff.mp read.symm
    have total : pieces + 2 + 2 * spans.length = pieces + 2 * (span :: spans).length := by
      rw [List.length_cons]
      omega
    simp only [spanEvents, ← ok, ih (pieces + 2) rest.symm, total, List.map_cons, List.flatten_cons,
      List.append_assoc]

/-- The first span that is no tag ends the events. -/
theorem spanEvents_of_refused {error : TagError} (pieces : Nat)
    (read : good.map Span.tag = tags.map .ok) (refused : bad.tag = .error error) :
    spanEvents pieces count (good ++ bad :: later) =
      (tags.map (·.renderEvents count)).flatten ++ Tag.readEvents bad.source (.error error) := by
  induction good generalizing pieces tags with
  | nil => simp_all [spanEvents]
  | cons span good ih =>
    obtain ⟨tag, tags, rfl, ok, rest⟩ := List.map_eq_cons_iff.mp read.symm
    simp only [List.cons_append, spanEvents, ← ok, ih (pieces + 2) rest.symm, List.map_cons,
      List.flatten_cons, List.append_assoc]

theorem forall₂_isTrace_iff :
    List.Forall₂ (Tag.IsTrace count) tags traces ↔ traces = tags.map (·.renderEvents count) := by
  induction tags generalizing traces with
  | nil => rw [List.forall₂_nil_left_iff, List.map_nil]
  | cons tag tags ih =>
    simp only [List.forall₂_cons_left_iff, Tag.isTrace_iff, ih, List.map_cons, exists_and_left,
      exists_eq_left]

/-- What is told of spans is what rendering them reports, and nothing else. -/
theorem isTrace_iff : IsTrace spans count events ↔ events = spanEvents 0 count spans := by
  constructor
  · rintro (⟨read, told⟩ | ⟨rfl, read, told, refused⟩ | ⟨rfl, read, told, refused⟩)
    · rw [forall₂_isTrace_iff.mp told, spanEvents_of_read 0 read, Nat.zero_add,
        Nat.mul_div_cancel_left _ Nat.two_pos]
    · rw [forall₂_isTrace_iff.mp told, spanEvents_of_refused 0 read refused, Tag.readEvents]
    · rw [forall₂_isTrace_iff.mp told, spanEvents_of_refused 0 read refused,
        Tag.readEvents_of_malformed, List.append_nil]
  · rintro rfl
    obtain ⟨tags, read⟩ | ⟨good, bad, later, tags, error, rfl, read, refused⟩ :=
      tags_or_first_error spans
    · rw [spanEvents_of_read 0 read, Nat.zero_add, Nat.mul_div_cancel_left _ Nat.two_pos]
      exact .rendered read (forall₂_isTrace_iff.mpr rfl)
    · rw [spanEvents_of_refused 0 read refused]
      cases error with
      | malformed source malformation =>
        rw [Tag.readEvents_of_malformed, List.append_nil]
        exact .malformed rfl read (forall₂_isTrace_iff.mpr rfl) refused
      | unknownOption option kind =>
        exact .unknownOption rfl read (forall₂_isTrace_iff.mpr rfl) refused

/-- All that is told of a template is of the least importance. -/
theorem IsTrace.severity (trace : IsTrace spans count events) :
    ∀ event ∈ events, event.severity = .debug := by
  have ofTags {tags : List Tag} {traces : List (List Event)}
      (told : List.Forall₂ (Tag.IsTrace count) tags traces) :
      ∀ event ∈ traces.flatten, event.severity = .debug := by
    induction told with
    | nil => exact List.forall_mem_nil _
    | cons first _ ih => exact List.forall_mem_append.mpr ⟨first.severity, ih⟩
  cases trace with
  | rendered _ told | unknownOption _ _ told =>
    exact List.forall_mem_append.mpr ⟨ofTags told, List.forall_mem_singleton.mpr rfl⟩
  | malformed _ _ told => exact ofTags told

end Template

private theorem Log.State.level_of_not_isInitialised {state : Log.State}
    (bare : state.isInitialised = false) : state.level = Level.standard := by
  rw [isInitialised, Option.isSome_eq_false_iff, Option.isNone_iff_eq_none] at bare
  rw [level, bare, Option.elim_none]

/-- A log takes all events of the least importance or none of them, as its level is. -/
theorem Log.State.delivered_of_debug (state : Log.State) {events : List Event}
    (debug : ∀ event ∈ events, event.severity = .debug) : state.delivered events =
      if state.level ≤ Severity.debug.rank then events.map (⟨state.format, ·⟩) else [] := by
  rw [delivered]
  split
  · next low =>
    rw [List.filter_eq_self.mpr fun event member => by rwa [debug event member, decide_eq_true_iff]]
  · next high =>
    rw [List.filter_eq_nil_iff.mpr fun event member => by rwa [debug event member, decide_eq_true_iff],
      List.map_nil]

namespace Session

/-- After any steps, the events of work with the library are delivered as the log is set up. -/
theorem delivers_work (source : Settings.Source) (steps : List Step) (events : List Event) :
    let session := ({ source } : Session).after steps
    session.Delivers (.work events) (session.log.report events) (session.log.records events) := by
  -- The work leaves the log as it is set up, so that the log before it is as good as the one after it.
  obtain idle | ⟨options, settings, last⟩ := setsNothingUp_or_lastSetsUp { source } steps
  · have initial := Log.State.isInitial_of_configuration (configuration_after_of_setsNothingUp idle)
    exact delivers_of_isInitial ⟨initial.isInitialised, initial.level, initial.outlets⟩
  · have made := Log.State.isSetUpBy_of_configuration (configuration_after_of_lastSetsUp last)
    exact delivers_of_isSetUpBy ⟨made.isInitialised, made.level, made.format, made.outlets⟩

/-- A template that is rendered in a session leaves one and only one trace, which a log at the level
of its events shows as a whole, in the order of the spans, and adds to its file. A log that waits for
more important events shows nothing of it; so does a log that was never set up. -/
theorem rendering_leaves_trace (source : Settings.Source) (steps : List Step) (text : List Char)
    (n : Nat) :
    let session := ({ source } : Session).after steps
    let rendering := session.step (.work (eventsWithCount (.int n) (Template.events text)))
    ∃ trace, (∀ other, Template.IsTrace (Template.scan text).spans n other ↔ other = trace) ∧
      rendering.2.2 = (if session.log.level ≤ Log.Severity.debug.rank then
        trace.map (⟨session.log.format, ·⟩) else []) ∧
      ∀ name, rendering.1.log.fileRecords name = session.log.fileRecords name ++
        if .file name ∈ session.log.outlets then rendering.2.2 else [] := by
  intro session rendering
  have traced : ∀ other, Template.IsTrace (Template.scan text).spans n other ↔
      other = Template.events text n := fun other => Template.isTrace_iff
  have delivers := delivers_work source steps (Template.events text n)
  refine ⟨Template.events text n, traced, delivers.shown.trans ?_, delivers.written⟩
  have taken := Log.State.delivered_of_debug (session.log.report (Template.events text n))
    ((traced _).mpr rfl).severity
  cases initialised : session.log.isInitialised with
  | true => exact (if_pos initialised).trans taken
  | false =>
    have high : ¬session.log.level ≤ Log.Severity.debug.rank := by
      rw [Log.State.level_of_not_isInitialised initialised]
      decide
    rw [if_neg high]
    exact if_neg (ne_true_of_eq_false initialised)

end Session

end Inflection
