import Inflection.CommandLine.Command
import Inflection.Log.State

/-! # Quiet work

What the library and the program report on their own is never as important as a warning. A log at the
level of warnings, as it is at first, makes no record of it.
-/

namespace Inflection

namespace Log

/-- Whether none of the events is as important as a warning. -/
def IsQuiet (events : List Event) : Prop :=
  ∀ event ∈ events, event.severity.rank < Level.standard

theorem isQuiet_nil : IsQuiet [] := nofun

theorem isQuiet_singleton {event : Event} (low : event.severity = .debug ∨ event.severity = .info) :
    IsQuiet [event] := by
  refine List.forall_mem_singleton.mpr ?_
  rcases low with low | low <;> rw [low] <;> decide

theorem isQuiet_append {first second : List Event} (quiet : IsQuiet first)
    (quiet' : IsQuiet second) : IsQuiet (first ++ second) :=
  List.forall_mem_append.mpr ⟨quiet, quiet'⟩

/-- Quiet events are not delivered by a log that waits for warnings. -/
theorem State.records_of_isQuiet {state : State} {events : List Event} (quiet : IsQuiet events)
    (high : Level.standard ≤ state.level) : state.records events = [] := by
  have none : events.filter (state.level ≤ ·.severity.rank) = [] := by
    refine List.filter_eq_nil_iff.mpr fun event member => ?_
    have low := quiet event member
    rw [decide_eq_true_iff]
    omega
  rw [records, delivered, none]
  rfl

end Log

open Log

/-- A table reports nothing as important as a warning. -/
theorem Table.isQuiet_events (table : Table) (word : List Char) : IsQuiet (table.events word) := by
  rw [Table.events]
  split
  · exact isQuiet_singleton (.inl rfl)
  · exact isQuiet_nil

/-- So does a form, for which a table is asked unless the word is fixed. -/
theorem Table.isQuiet_events_unless (fixed : Bool) (table : Table) (word : List Char) :
    IsQuiet (if fixed then [] else table.events word) := by
  cases fixed with
  | true => exact isQuiet_nil
  | false => exact table.isQuiet_events word

theorem Nouns.isQuiet_formEvents (number : Number) (word : List Char) :
    IsQuiet (formEvents number word) :=
  Table.isQuiet_events_unless (isFixed word) (table number) word

theorem Verbs.isQuiet_formEvents (number : Number) (word : List Char) :
    IsQuiet (formEvents number word) :=
  Table.isQuiet_events_unless (Text.isBlankText word) (table number) word

theorem Tag.isQuiet_renderEvents (tag : Tag) (count : Nat) : IsQuiet (tag.renderEvents count) := by
  rw [renderEvents]
  split
  · exact Nouns.isQuiet_formEvents _ _
  · exact Verbs.isQuiet_formEvents _ _
  · exact isQuiet_nil

/-- Reading a tag reports nothing as important as a warning. -/
theorem Tag.isQuiet_readEvents (source : List Char) (read : Except TagError Tag) :
    IsQuiet (readEvents source read) := by
  rw [readEvents.eq_def]
  split
  · exact isQuiet_singleton (.inl rfl)
  · exact isQuiet_nil

theorem Template.isQuiet_spanEvents (pieces count : Nat) (spans : List Span) :
    IsQuiet (spanEvents pieces count spans) := by
  induction spans generalizing pieces with
  | nil => exact isQuiet_singleton (.inl rfl)
  | cons span spans ih =>
    rw [spanEvents]
    split
    · exact isQuiet_append (Tag.isQuiet_renderEvents _ count) (ih (pieces + 2))
    · exact Tag.isQuiet_readEvents _ _

namespace CommandLine

/-- The events for a value that must be a count are quiet if those for every number are. -/
theorem isQuiet_eventsWithCount {count : Json} {events : Nat → List Event}
    (quiet : ∀ n, IsQuiet (events n)) : IsQuiet (eventsWithCount count events) := by
  rw [eventsWithCount]
  split
  · exact quiet _
  · exact isQuiet_nil

/-- A command reports nothing as important as a warning, also when it is refused. -/
theorem Command.isQuiet_events (command : Command) : IsQuiet command.events := by
  refine isQuiet_append ?_ ?_
  · cases command with
    | render template => exact isQuiet_eventsWithCount fun n => Template.isQuiet_spanEvents _ n _
    | singularize word => exact Nouns.isQuiet_formEvents .singular word
    | pluralize word => exact Nouns.isQuiet_formEvents .plural word
    | inflect word => exact isQuiet_eventsWithCount fun n => Nouns.isQuiet_formEvents _ word
    | conjugate word => exact isQuiet_eventsWithCount fun n => Verbs.isQuiet_formEvents _ word
    | fuzzy | join => exact isQuiet_nil
  · split
    · exact isQuiet_nil
    · split
      · exact isQuiet_singleton (.inr rfl)
      · exact isQuiet_nil

end CommandLine

end Inflection
