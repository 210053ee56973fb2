import Inflection.Pattern.Reader
import Mathlib.Tactic.Common

/-! # Escaped patterns

A text is written as a pattern with a backslash before each of its characters that has a meaning of its own
in patterns. Read back, it is the row of its characters, whatever they are, also after the start of a word
and in a captured group.
-/

namespace Inflection

namespace Pattern

def needsEscape (c : Char) : Bool :=
  "()[]\x7b\x7d?*+-|^$\\.&~# \t\n\r\x0b\x0c".toList.contains c

/-- One character, escaped if it is a sign. -/
def escapeChar (c : Char) : List Char :=
  if needsEscape c then ['\\', c] else [c]

def escape (text : List Char) : List Char :=
  text.flatMap escapeChar

variable {c : Char} {rest : List Char} {fuel : Nat}

private theorem isSign_of_needsEscape (escaped : needsEscape c = true) :
    isSign c = true ∧ c ≠ 'Z' ∧ c ≠ 'b' := by
  have signs : ("()[]\x7b\x7d?*+-|^$\\.&~# \t\n\r\x0b\x0c".toList.all fun c =>
      isSign c && c != 'Z' && c != 'b') = true := by decide
  have sign := List.all_eq_true.mp signs c (List.contains_iff_mem.mp escaped)
  simpa [and_assoc] using sign

private theorem ne_of_not_needsEscape (plain : needsEscape c = false) {sign : Char}
    (escaped : needsEscape sign = true) : c ≠ sign := by
  rintro rfl
  rw [plain] at escaped
  cases escaped

private theorem head?_escapeChar_append {sign : Char} (escaped : needsEscape sign = true)
    (other : sign ≠ '\\') : (escapeChar c ++ rest).head? ≠ some sign := by
  rw [escapeChar]
  split
  · simpa using other.symm
  · next plain =>
    simpa using ne_of_not_needsEscape (Bool.not_eq_true _ ▸ plain) escaped

theorem head?_escape_append {letters : List Char} {sign : Char} (escaped : needsEscape sign = true)
    (other : sign ≠ '\\') (unlike : rest.head? ≠ some sign) :
    (escape letters ++ rest).head? ≠ some sign := by
  cases letters with
  | nil => exact unlike
  | cons d letters =>
    rw [escape, List.flatMap_cons, List.append_assoc]
    exact head?_escapeChar_append escaped other

/-- An escaped character is read as that character. -/
theorem readItem?_escapeChar (fuel : Nat) (c : Char) (rest : List Char) :
    readItem? (fuel + 1) (escapeChar c ++ rest) = some ([char c], rest) := by
  cases escaped : needsEscape c with
  | true =>
    obtain ⟨sign, notEnd, notBoundary⟩ := isSign_of_needsEscape escaped
    rw [escapeChar, escaped, if_pos rfl, List.cons_append, List.singleton_append]
    unfold readItem?
    split <;> grind
  | false =>
    have plain (sign : Char) (special : needsEscape sign = true) : c ≠ sign :=
      ne_of_not_needsEscape escaped special
    simp [escapeChar, escaped, readItem?, plain '(' rfl, plain '[' rfl, plain '^' rfl, plain '$' rfl,
      plain '\\' rfl, plain '.' rfl, plain '*' rfl, plain '+' rfl, plain '?' rfl]

/-- Whether the beginning of a text is read as a row of items, provided that there is enough fuel. -/
def Reads (size : Nat) (text : List Char) (items : List Pattern) (rest : List Char) : Prop :=
  ∀ fuel, size ≤ fuel → readSequence? fuel text = some (items, rest)

section Reading

variable {text more : List Char} {items following : List Pattern} {size innerSize : Nat}

private theorem readSequence?_of_item (item : readItem? fuel text = some (items, rest))
    (row : readSequence? fuel rest = some (following, more)) (required : rest.head? ≠ some '?')
    (single : text.head? ≠ some '|') (unclosed : text.head? ≠ some ')') :
    readSequence? (fuel + 1) text = some (items ++ following, more) := by
  cases text with
  | nil => cases fuel <;> cases item
  | cons c text =>
    rw [readSequence?]
    · rw [item]
      simp only [Option.bind_eq_bind, Option.bind_some]
      split
      · exact absurd rfl required
      · rw [row]
        rfl
    · simp
    · simpa using single
    · simpa using unclosed

/-- The sign for the very end of a word is read. -/
theorem reads_stop : Reads 2 "\\Z".toList [stop] [] := by
  intro fuel enough
  obtain ⟨fuel, rfl⟩ := Nat.exists_eq_add_of_le' enough
  rfl

theorem reads_nothing (rest : List Char) : Reads 1 (')' :: rest) [] (')' :: rest) := by
  intro fuel enough
  obtain ⟨fuel, rfl⟩ := Nat.exists_eq_add_of_le' enough
  rfl

private theorem exists_fuel (row : Reads size rest following more) {fuel : Nat} (enough : size + 1 ≤ fuel) :
    ∃ less, fuel = less + 2 ∧ readSequence? (less + 1) rest = some (following, more) := by
  obtain ⟨_ | less, rfl⟩ := Nat.exists_eq_add_of_le' (Nat.le_of_add_left_le enough)
  · cases row 0 (by omega)
  · exact ⟨less, rfl, row (less + 1) (by omega)⟩

/-- The sign for the start of a word is read in front of a row of items. -/
theorem Reads.start (row : Reads size rest following more) (required : rest.head? ≠ some '?') :
    Reads (size + 1) ('^' :: rest) (start :: following) more := by
  intro fuel enough
  obtain ⟨less, rfl, next⟩ := exists_fuel row enough
  have item : readItem? (less + 1) ('^' :: rest) = some ([.start], rest) := rfl
  exact readSequence?_of_item item next required (by simp) (by simp)

/-- An escaped text is read as the row of its characters. -/
theorem Reads.escape (row : Reads size rest following more) (required : rest.head? ≠ some '?')
    (letters : List Char) :
    Reads (size + letters.length) (escape letters ++ rest) (letters.map char ++ following) more := by
  induction letters with
  | nil => exact row
  | cons c letters ih =>
    have split : Pattern.escape (c :: letters) ++ rest =
        escapeChar c ++ (Pattern.escape letters ++ rest) := by
      rw [Pattern.escape, List.flatMap_cons, List.append_assoc, Pattern.escape]
    intro fuel enough
    obtain ⟨less, rfl, next⟩ := exists_fuel ih enough
    have item := readItem?_escapeChar less c (Pattern.escape letters ++ rest)
    have row := readSequence?_of_item item next (head?_escape_append rfl (by decide) required)
      (head?_escapeChar_append rfl (by decide)) (head?_escapeChar_append rfl (by decide))
    rw [split]
    exact row

/-- A group in brackets is captured. -/
theorem Reads.group (inner : Reads innerSize text items (')' :: rest)) (captured : text.head? ≠ some '?')
    (row : Reads size rest following more) (required : rest.head? ≠ some '?') :
    Reads (innerSize + size + 3) ('(' :: text) (capture (inSequence items) :: following) more := by
  intro fuel enough
  have enoughAfter : size + 1 ≤ fuel := by omega
  obtain ⟨_ | less, rfl, next⟩ := exists_fuel row enoughAfter
  · omega
  have alternatives : readAlternatives? (less + 1) text = some ([items], ')' :: rest) := by
    rw [readAlternatives?, inner less (by omega)]
    rfl
  have item : readItem? (less + 2) ('(' :: text) = some ([capture (inSequence items)], rest) := by
    unfold readItem?
    split <;> grind [readClosing?, choice]
  exact readSequence?_of_item item next required (by simp) (by simp)

/-- A text is read as a pattern if it is read as a row of items to its end. -/
theorem read?_of_reads (row : Reads size text items []) (enough : size ≤ 3 * text.length + 2) :
    read? text = some (inSequence items) := by
  have alternatives : readAlternatives? (3 * text.length + 3) text = some ([items], []) := by
    rw [readAlternatives?, row _ enough]
    rfl
  rw [read?, alternatives]
  rfl

end Reading

end Pattern

end Inflection
