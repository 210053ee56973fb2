import Inflection.Json.Reader
import Inflection.Proofs.Json.Grammar
import Mathlib.Data.List.DropRight

/-! # Every JSON text is read

The reader reads each text of the grammar as the value that the text stands for, so no text stands for two
values. Each of its parts is shown to read what its rule of the grammar allows and to leave the rest. A
number has to be followed by something that cannot go on with it, and the fuel for a value has to be more
than the length of its text.
-/

namespace Inflection.Json

variable {c : Char} {fuel : Nat} {text before after rest written digits whole fraction exponent : List Char}
  {value : Json} {items : List Json} {members : List (List Char × Json)} {negative : Bool} {power : Option Int}

section Gaps

theorem IsGap.isSpace (blank : IsGap text) : ∀ c ∈ text, isSpace c = true := by
  intro c member
  rcases blank c member with rfl | rfl | rfl | rfl
  all_goals decide

private theorem skipSpace_append (blank : IsGap before) (rest : List Char) :
    skipSpace (before ++ rest) = skipSpace rest :=
  List.dropWhile_append_of_pos blank.isSpace

private theorem skipSpace_cons (visible : isSpace c = false) (rest : List Char) :
    skipSpace (c :: rest) = c :: rest :=
  List.dropWhile_cons_of_neg (by simp [visible])

private theorem skipSpace_skipSpace (text : List Char) : skipSpace (skipSpace text) = skipSpace text :=
  List.dropWhile_idempotent isSpace text

/-- Blanks before a value make no difference to its reader. -/
theorem readValue?_skipSpace (fuel : Nat) (text : List Char) :
    readValue? fuel (skipSpace text) = readValue? fuel text := by
  cases fuel with
  | zero => rfl
  | succ fuel => rw [readValue?, readValue?, skipSpace_skipSpace]

private theorem readItems?_skipSpace (fuel : Nat) (text : List Char) :
    readItems? fuel (skipSpace text) = readItems? fuel text := by
  cases fuel with
  | zero => rfl
  | succ fuel => rw [readItems?, readItems?, readValue?_skipSpace]

private theorem readMembers?_skipSpace (fuel : Nat) (text : List Char) :
    readMembers? fuel (skipSpace text) = readMembers? fuel text := by
  cases fuel with
  | zero => rfl
  | succ fuel => rw [readMembers?, readMembers?, skipSpace_skipSpace]

end Gaps

section Strings

private theorem hexValue?_of_isHexDigit {n : Nat} (digit : IsHexDigit c n) : hexValue? c = some n := by
  obtain ⟨small, rfl | rfl⟩ := digit
  · revert n
    decide
  · revert n
    decide

private theorem exists_hexValue4?_of_isCode {code : Nat} (shape : IsCode digits code) :
    ∃ a b c d, digits = [a, b, c, d] ∧ hexValue4? a b c d = some code := by
  cases shape with
  | intro first second third fourth =>
    refine ⟨_, _, _, _, rfl, ?_⟩
    rw [hexValue4?, hexValue?_of_isHexDigit first, hexValue?_of_isHexDigit second,
      hexValue?_of_isHexDigit third, hexValue?_of_isHexDigit fourth]
    rfl

private theorem simpleEscape?_of_mem {sign : Char} (known : (sign, c) ∈ escapes) :
    simpleEscape? sign = some c ∧ sign ≠ 'u' := by
  have all : ∀ escape ∈ escapes, simpleEscape? escape.1 = some escape.2 ∧ escape.1 ≠ 'u' := by decide
  exact all (sign, c) known

private theorem readText?_pair {a b c d e f g h joined : Char} {high low : Nat}
    (coded : hexValue4? a b c d = some high) (coded' : hexValue4? e f g h = some low)
    (apart : ¬(high < 0xD800 ∨ 0xE000 ≤ high)) (pair : joinSurrogates? high low = some joined) :
    readText? ('\\' :: 'u' :: a :: b :: c :: d :: '\\' :: 'u' :: e :: f :: g :: h :: rest) =
      consText joined (readText? rest) := by
  rw [readText?, coded]
  simp only [if_neg apart, coded', Option.bind_some, pair]

/-- A string is read up to the quote that ends it. -/
theorem readText?_of_isContent (content : IsContent written text) (rest : List Char) :
    readText? (written ++ '"' :: rest) = some (text, rest) := by
  induction content with
  | nil => rw [List.nil_append, readText?]
  | plain allowed unquoted unescaped others ih =>
    rw [List.cons_append, readText?, if_neg (by omega), ih]
    · rfl
    · exact unquoted
    · exact fun _ _ _ _ _ same => absurd same unescaped
    · exact fun _ _ same => absurd same unescaped
  | escape known others ih =>
    obtain ⟨stands, other⟩ := simpleEscape?_of_mem known
    rw [List.cons_append, List.cons_append, readText?, stands]
    · dsimp only
      rw [ih]
      rfl
    · exact fun _ _ _ _ _ same => absurd same other
  | code shape basic others ih =>
    obtain ⟨a, b, c, d, rfl, coded⟩ := exists_hexValue4?_of_isCode shape
    simp only [List.cons_append, List.nil_append]
    rw [readText?, coded]
    dsimp only
    rw [if_pos basic, ih]
    rfl
  | pair shape shape' isHigh isLow others ih =>
    obtain ⟨a, b, c, d, rfl, coded⟩ := exists_hexValue4?_of_isCode shape
    obtain ⟨e, f, g, h, rfl, coded'⟩ := exists_hexValue4?_of_isCode shape'
    simp only [List.cons_append, List.nil_append]
    rw [readText?_pair coded coded' (by omega) (if_pos ⟨isHigh.1, isHigh.2, isLow.1, isLow.2⟩), ih]
    rfl

end Strings

section Numbers

/-- Whether a number ends before a text: what follows cannot go on with it. -/
def EndsNumber (rest : List Char) : Prop :=
  ∀ c, rest.head? = some c → c.isDigit = false ∧ c ≠ '.' ∧ c ≠ 'e' ∧ c ≠ 'E'

private theorem IsGap.endsNumber (blank : IsGap after) (ends : EndsNumber rest) :
    EndsNumber (after ++ rest) := by
  cases after with
  | nil => exact ends
  | cons c after =>
    intro d head
    obtain rfl := Option.some.inj head
    rcases blank c List.mem_cons_self with rfl | rfl | rfl | rfl
    all_goals decide

private theorem spanDigits_append (all : ∀ c ∈ digits, c.isDigit = true)
    (stop : ∀ c, rest.head? = some c → c.isDigit = false) : spanDigits (digits ++ rest) = (digits, rest) := by
  rw [spanDigits, List.takeWhile_append_of_pos all, List.dropWhile_append_of_pos all]
  cases rest with
  | nil => simp
  | cons c rest =>
    have undigit : ¬c.isDigit = true := by simp [stop c rfl]
    rw [List.takeWhile_cons_of_neg undigit, List.dropWhile_cons_of_neg undigit, List.append_nil]

private theorem readExponent?_append (shape : IsExponent exponent power) (ends : EndsNumber rest) :
    readExponent? (exponent ++ rest) = some (power, rest) := by
  cases shape with
  | missing =>
    cases rest with
    | nil => rfl
    | cons c rest =>
      obtain ⟨-, -, small, capital⟩ := ends c rfl
      rw [List.nil_append, readExponent?.eq_def]
      exact if_neg (not_or.mpr ⟨small, capital⟩)
  | given marked signed shape =>
    obtain ⟨present, all⟩ := shape
    have span := spanDigits_append all fun c head => (ends c head).1
    obtain ⟨d, digits, rfl⟩ := List.exists_cons_of_ne_nil present
    have digit := all d List.mem_cons_self
    rcases signed with rfl | rfl
    · rw [List.nil_append, List.cons_append, readExponent?, if_pos marked, span]
      · rfl
      · intro _ same
        rw [(List.cons.inj same).1] at digit
        exact absurd digit (by decide)
      · intro _ same
        rw [(List.cons.inj same).1] at digit
        exact absurd digit (by decide)
    · rw [List.cons_append, List.append_assoc, List.singleton_append, readExponent?, if_pos marked, span]
      rfl
  | negative marked shape =>
    obtain ⟨present, all⟩ := shape
    have span := spanDigits_append all fun c head => (ends c head).1
    obtain ⟨d, digits, rfl⟩ := List.exists_cons_of_ne_nil present
    rw [List.cons_append, List.cons_append, readExponent?, if_pos marked, span]
    rfl

/-- An exponent, or what ends the number, does not go on with the digits before it. -/
theorem IsExponent.stop (shape : IsExponent exponent power) (ends : EndsNumber rest) :
    ∀ c, (exponent ++ rest).head? = some c → c.isDigit = false ∧ c ≠ '.' := by
  have marks {mark : Char} (marked : mark = 'e' ∨ mark = 'E') : mark.isDigit = false ∧ mark ≠ '.' := by
    rcases marked with rfl | rfl
    all_goals decide
  intro c head
  cases shape with
  | missing => exact ⟨(ends c head).1, (ends c head).2.1⟩
  | given marked signed shape => exact Option.some.inj head ▸ marks marked
  | negative marked shape => exact Option.some.inj head ▸ marks marked

private theorem spanFraction?_append (shape : IsFraction fraction digits)
    (stop : ∀ c, rest.head? = some c → c.isDigit = false ∧ c ≠ '.') :
    spanFraction? (fraction ++ rest) = some (digits, rest) := by
  cases shape with
  | missing =>
    rw [List.nil_append, spanFraction?]
    rintro others rfl
    exact (stop '.' rfl).2 rfl
  | given shape =>
    obtain ⟨present, all⟩ := shape
    have span := spanDigits_append all fun c head => (stop c head).1
    rw [List.cons_append, spanFraction?, span]
    obtain ⟨d, digits, rfl⟩ := List.exists_cons_of_ne_nil present
    rfl

/-- A fraction does not go on with the digits before it. -/
theorem IsFraction.stop (shape : IsFraction fraction digits)
    (stop : ∀ c, rest.head? = some c → c.isDigit = false) :
    ∀ c, (fraction ++ rest).head? = some c → c.isDigit = false := by
  intro c head
  cases shape with
  | missing => exact stop c head
  | given shape =>
    obtain rfl := Option.some.inj head
    decide

/-- A number is read if nothing goes on with it. -/
theorem readMagnitude?_of_isMagnitude (shape : IsMagnitude negative text value) (ends : EndsNumber rest) :
    readMagnitude? negative (text ++ rest) = some (value, rest) := by
  cases shape with
  | @intro whole fraction digits exponent power shape shape' shape'' =>
    obtain ⟨⟨present, all⟩, lone⟩ := shape
    have stop := shape''.stop ends
    have span := spanDigits_append all (shape'.stop fun c head => (stop c head).1)
    have allowed : ¬(whole.isEmpty = true ∨ whole.head? = some '0' ∧ 1 < whole.length) := by
      rintro (empty | ⟨zero, long⟩)
      · exact present (List.isEmpty_iff.mp empty)
      · rw [lone zero] at long
        exact absurd long (by decide)
    rw [List.append_assoc, List.append_assoc, readMagnitude?, span]
    dsimp only
    rw [if_neg allowed, spanFraction?_append shape' stop]
    simp only [Option.bind_eq_bind, Option.bind_some, readExponent?_append shape'' ends]
    simp only [List.isEmpty_iff, Option.isNone_iff_eq_none, numberValue]
    by_cases missing : digits = [] ∧ power = none
    · rw [if_pos missing, if_pos missing]
      rfl
    · rw [if_neg missing, if_neg missing]
      rfl

end Numbers

section Steps

variable {others left : List Char}

private theorem readValue?_quote (read : readText? rest = some (text, left)) :
    readValue? (fuel + 1) ('"' :: rest) = some (str text, left) := by
  rw [readValue?, skipSpace_cons (by decide)]
  simp only [read, Option.map_some]

private theorem readValue?_minus (rest : List Char) :
    readValue? (fuel + 1) ('-' :: rest) = readMagnitude? true rest := by
  rw [readValue?, skipSpace_cons (by decide)]
  rfl

private theorem ne_of_isDigit {d : Char} (digit : c.isDigit = true) (other : d.isDigit = false) : c ≠ d := by
  rintro rfl
  rw [digit] at other
  contradiction

private theorem isSpace_of_isDigit (digit : c.isDigit = true) : isSpace c = false := by
  have blank : c ≠ ' ' := ne_of_isDigit digit rfl
  have tab : c ≠ '\t' := ne_of_isDigit digit rfl
  have line : c ≠ '\n' := ne_of_isDigit digit rfl
  have back : c ≠ '\r' := ne_of_isDigit digit rfl
  simp [isSpace, blank, tab, line, back]

private theorem readValue?_of_isDigit (digit : c.isDigit = true) (rest : List Char) :
    readValue? (fuel + 1) (c :: rest) = readMagnitude? false (c :: rest) := by
  have apart {d : Char} (other : d.isDigit = false) (tail : List Char) : c :: rest ≠ d :: tail :=
    fun same => ne_of_isDigit digit other (List.cons.inj same).1
  rw [readValue?, skipSpace_cons (isSpace_of_isDigit digit)]
  split
  case h_8 => rfl
  all_goals next same => exact absurd same (apart rfl _)

private theorem readValue?_noItems (closes : skipSpace rest = ']' :: left) :
    readValue? (fuel + 1) ('[' :: rest) = some (arr [], left) := by
  rw [readValue?, skipSpace_cons (by decide)]
  simp only [closes]

private theorem readValue?_items (begins : skipSpace rest = c :: others) (unlike : c ≠ ']')
    (read : readItems? fuel rest = some (items, left)) :
    readValue? (fuel + 1) ('[' :: rest) = some (arr items, left) := by
  rw [← readItems?_skipSpace, begins] at read
  rw [readValue?, skipSpace_cons (by decide)]
  simp only [begins]
  split
  · next same => exact absurd (List.cons.inj same).1 unlike
  · rw [read, Option.map_some]

private theorem readValue?_noMembers (closes : skipSpace rest = '\x7d' :: left) :
    readValue? (fuel + 1) ('\x7b' :: rest) = some (obj [], left) := by
  rw [readValue?, skipSpace_cons (by decide)]
  simp only [closes]

private theorem readValue?_members (begins : skipSpace rest = c :: others) (unlike : c ≠ '\x7d')
    (read : readMembers? fuel rest = some (members, left)) :
    readValue? (fuel + 1) ('\x7b' :: rest) = some (obj members, left) := by
  rw [← readMembers?_skipSpace, begins] at read
  rw [readValue?, skipSpace_cons (by decide)]
  simp only [begins]
  split
  · next same => exact absurd (List.cons.inj same).1 unlike
  · rw [read, Option.map_some]

/-- The bracket that closes the array comes after its last item. -/
theorem readItems?_last (read : readValue? fuel text = some (value, left))
    (closes : skipSpace left = ']' :: rest) : readItems? (fuel + 1) text = some ([value], rest) := by
  rw [readItems?, read, Option.bind_eq_bind, Option.bind_some]
  simp only [closes]

theorem readItems?_more (read : readValue? fuel text = some (value, left))
    (comma : skipSpace left = ',' :: others) (following : readItems? fuel others = some (items, rest)) :
    readItems? (fuel + 1) text = some (value :: items, rest) := by
  rw [readItems?, read, Option.bind_eq_bind, Option.bind_some]
  simp only [comma, following, Option.bind_eq_bind, Option.bind_some]

/-- Whether a member is read from a text up to some rest of it. -/
inductive ReadsMember (fuel : Nat) : List Char → List Char × Json → List Char → Prop where
  | intro {text rest left others after name : List Char} {value : Json} (quote : skipSpace text = '"' :: rest)
      (named : readText? rest = some (name, left)) (colon : skipSpace left = ':' :: others)
      (read : readValue? fuel others = some (value, after)) : ReadsMember fuel text (name, value) after

namespace ReadsMember

variable {member : List Char × Json}

/-- The brace that closes the object comes after its last member. -/
theorem last (read : ReadsMember fuel text member left) (closes : skipSpace left = '\x7d' :: rest) :
    readMembers? (fuel + 1) text = some ([member], rest) := by
  cases read with
  | intro quote named colon read =>
    simp only [readMembers?, quote, named, colon, read, closes, Option.bind_eq_bind, Option.bind_some]

/-- A member with a comma after it is the first of several. -/
theorem more (read : ReadsMember fuel text member left) (comma : skipSpace left = ',' :: others)
    (following : readMembers? fuel others = some (members, rest)) :
    readMembers? (fuel + 1) text = some (member :: members, rest) := by
  cases read with
  | intro quote named colon read =>
    simp only [readMembers?, quote, named, colon, read, comma, following, Option.bind_eq_bind,
      Option.bind_some]

end ReadsMember

end Steps

section Values

/-- The first digit of a number. -/
theorem IsMagnitude.head (shape : IsMagnitude negative text value) :
    ∃ c others, text = c :: others ∧ c.isDigit = true := by
  cases shape with
  | intro shape shape' shape'' =>
    obtain ⟨⟨present, all⟩, -⟩ := shape
    obtain ⟨c, whole, rfl⟩ := List.exists_cons_of_ne_nil present
    exact ⟨c, _, rfl, all c List.mem_cons_self⟩

/-- A value begins with a character that is neither a blank nor a closing bracket. -/
theorem IsValue.head (shape : IsValue text value) :
    ∃ c others, text = c :: others ∧ isSpace c = false ∧ c ≠ ']' := by
  cases shape with
  | positive shape =>
    obtain ⟨c, others, rfl, digit⟩ := shape.head
    exact ⟨c, others, rfl, isSpace_of_isDigit digit, ne_of_isDigit digit rfl⟩
  | bool b =>
    cases b with
    | false | true => exact ⟨_, _, rfl, by decide, by decide⟩
  | null | negative _ | str _ | noItems _ | arr _ | noMembers _ | obj _ =>
    exact ⟨_, _, rfl, by decide, by decide⟩

/-- Items begin with a sign other than the bracket that closes an array without items. -/
theorem IsItems.head (shape : IsItems text items) (rest : List Char) :
    ∃ c others, skipSpace (text ++ rest) = c :: others ∧ c ≠ ']' := by
  have first {text rest : List Char} {value : Json} (shape : IsText text value) :
      ∃ c others, skipSpace (text ++ rest) = c :: others ∧ c ≠ ']' := by
    cases shape with
    | intro blank shape blank' =>
      obtain ⟨c, others, rfl, visible, unlike⟩ := shape.head
      rw [List.append_assoc, skipSpace_append blank, List.append_assoc, List.cons_append, skipSpace_cons visible]
      exact ⟨c, _, rfl, unlike⟩
  cases shape with
  | last shape => exact first shape
  | more shape others =>
    rw [List.append_assoc]
    exact first shape

/-- Members begin with a quote. -/
theorem IsMembers.head (shape : IsMembers text members) (rest : List Char) :
    ∃ others, skipSpace (text ++ rest) = '"' :: others := by
  have first {text rest : List Char} {member : List Char × Json} (shape : IsMember text member) :
      ∃ others, skipSpace (text ++ rest) = '"' :: others := by
    cases shape with
    | intro blank content blank' shape =>
      rw [List.append_assoc, skipSpace_append blank, List.cons_append, skipSpace_cons (by decide)]
      exact ⟨_, rfl⟩
  cases shape with
  | last shape => exact first shape
  | more shape others =>
    rw [List.append_assoc]
    exact first shape

/-- Whether some fuel is enough to read values, items and members, whatever follows them. -/
structure Reads (fuel : Nat) : Prop where
  value {text rest : List Char} {value : Json} (shape : IsValue text value) (short : text.length < fuel)
    (ends : EndsNumber rest) : readValue? fuel (text ++ rest) = some (value, rest)
  items {text : List Char} {items : List Json} (shape : IsItems text items)
    (short : text.length + 1 < fuel) (rest : List Char) :
    readItems? fuel (text ++ ']' :: rest) = some (items, rest)
  members {text : List Char} {members : List (List Char × Json)} (shape : IsMembers text members)
    (short : text.length + 1 < fuel) (rest : List Char) :
    readMembers? fuel (text ++ '\x7d' :: rest) = some (members, rest)

private theorem endsNumber_cons (sign : c = ',' ∨ c = ']' ∨ c = '\x7d') (rest : List Char) :
    EndsNumber (c :: rest) := by
  intro d head
  obtain rfl := Option.some.inj head
  rcases sign with rfl | rfl | rfl
  all_goals decide

namespace Reads

/-- A text is read up to the blanks after its value. -/
theorem padded (reads : Reads fuel) (shape : IsText text value) (short : text.length < fuel)
    (ends : EndsNumber rest) : ∃ left, readValue? fuel (text ++ rest) = some (value, left) ∧
      skipSpace left = skipSpace rest := by
  cases shape with
  | intro blank shape blank' =>
    rw [List.length_append, List.length_append] at short
    refine ⟨_, ?_, skipSpace_append blank' rest⟩
    rw [← readValue?_skipSpace, List.append_assoc, skipSpace_append blank, readValue?_skipSpace,
      List.append_assoc, reads.value shape (by omega) (blank'.endsNumber ends)]

private theorem items_succ (reads : Reads fuel) (shape : IsItems text items) (short : text.length + 1 < fuel + 1)
    (rest : List Char) : readItems? (fuel + 1) (text ++ ']' :: rest) = some (items, rest) := by
  cases shape with
  | last shape =>
    obtain ⟨left, read, skip⟩ := reads.padded shape (by omega) (endsNumber_cons (.inr (.inl rfl)) rest)
    exact readItems?_last read (skip.trans (skipSpace_cons (by decide) rest))
  | @more text others value values shape shape' =>
    rw [List.length_append, List.length_cons] at short
    rw [List.append_assoc, List.cons_append]
    obtain ⟨left, read, skip⟩ :=
      reads.padded shape (by omega) (endsNumber_cons (.inl rfl) (others ++ ']' :: rest))
    exact readItems?_more read (skip.trans (skipSpace_cons (by decide) _)) (reads.items shape' (by omega) rest)

/-- A member is read up to the blanks after its value. -/
theorem member {member : List Char × Json} (reads : Reads fuel) (shape : IsMember text member)
    (short : text.length < fuel) (ends : EndsNumber rest) :
    ∃ left, ReadsMember fuel (text ++ rest) member left ∧ skipSpace left = skipSpace rest := by
  cases shape with
  | @intro before written name between text value blank content blank' shape =>
    simp only [List.length_append, List.length_cons] at short
    obtain ⟨left, read, skip⟩ := reads.padded shape (by omega) ends
    have colon : skipSpace (between ++ ':' :: (text ++ rest)) = ':' :: (text ++ rest) := by
      rw [skipSpace_append blank']
      exact skipSpace_cons (by decide) _
    refine ⟨left, .intro ?_ (readText?_of_isContent content _) colon read, skip⟩
    simp only [List.append_assoc, List.cons_append]
    rw [skipSpace_append blank]
    exact skipSpace_cons (by decide) _

private theorem members_succ (reads : Reads fuel) (shape : IsMembers text members)
    (short : text.length + 1 < fuel + 1) (rest : List Char) :
    readMembers? (fuel + 1) (text ++ '\x7d' :: rest) = some (members, rest) := by
  cases shape with
  | last shape =>
    obtain ⟨left, read, skip⟩ := reads.member shape (by omega) (endsNumber_cons (.inr (.inr rfl)) rest)
    exact read.last (skip.trans (skipSpace_cons (by decide) rest))
  | @more text others member members shape shape' =>
    rw [List.length_append, List.length_cons] at short
    rw [List.append_assoc, List.cons_append]
    obtain ⟨left, read, skip⟩ :=
      reads.member shape (by omega) (endsNumber_cons (.inl rfl) (others ++ '\x7d' :: rest))
    exact read.more (skip.trans (skipSpace_cons (by decide) _)) (reads.members shape' (by omega) rest)

private theorem value_succ (reads : Reads fuel) {text rest : List Char} {value : Json} (shape : IsValue text value)
    (short : text.length < fuel + 1) (ends : EndsNumber rest) :
    readValue? (fuel + 1) (text ++ rest) = some (value, rest) := by
  -- What follows matters to numbers only: every other value ends with a sign of its own.
  cases shape with
  | null => rfl
  | bool b =>
    cases b with
    | false => rfl
    | true => rfl
  | positive shape =>
    obtain ⟨c, others, rfl, digit⟩ := shape.head
    rw [List.cons_append, readValue?_of_isDigit digit]
    exact readMagnitude?_of_isMagnitude shape ends
  | negative shape =>
    rw [List.cons_append, readValue?_minus]
    exact readMagnitude?_of_isMagnitude shape ends
  | str content =>
    rw [List.cons_append, List.append_assoc, List.singleton_append]
    exact readValue?_quote (readText?_of_isContent content rest)
  | noItems blank =>
    rw [List.cons_append, List.append_assoc]
    refine readValue?_noItems ?_
    rw [skipSpace_append blank]
    exact skipSpace_cons (by decide) rest
  | arr shape =>
    rw [List.length_cons, List.length_append, List.length_singleton] at short
    obtain ⟨c, others, begins, unlike⟩ := shape.head (']' :: rest)
    rw [List.cons_append, List.append_assoc, List.singleton_append]
    exact readValue?_items begins unlike (reads.items shape (by omega) rest)
  | noMembers blank =>
    rw [List.cons_append, List.append_assoc]
    refine readValue?_noMembers ?_
    rw [skipSpace_append blank]
    exact skipSpace_cons (by decide) rest
  | obj shape =>
    rw [List.length_cons, List.length_append, List.length_singleton] at short
    obtain ⟨others, begins⟩ := shape.head ('\x7d' :: rest)
    rw [List.cons_append, List.append_assoc, List.singleton_append]
    exact readValue?_members begins (by decide) (reads.members shape (by omega) rest)

end Reads

/-- Fuel is enough for all texts that are shorter. -/
theorem reads (fuel : Nat) : Reads fuel := by
  induction fuel with
  | zero => exact ⟨nofun, nofun, nofun⟩
  | succ fuel ih => exact ⟨ih.value_succ, ih.items_succ, ih.members_succ⟩

end Values

/-- The reader follows the grammar. -/
theorem follows_read? : Follows read? := by
  intro text value shape
  have ends : EndsNumber [] := nofun
  obtain ⟨left, read, skip⟩ := (reads (text.length + 1)).padded shape (Nat.lt_succ_self _) ends
  rw [List.append_nil] at read
  rw [read?, read]
  dsimp only
  rw [skip]
  rfl

/-- No text stands for two values. -/
theorem IsText.unique {other : Json} (shape : IsText text value) (shape' : IsText text other) : value = other := by
  have read := follows_read? text value shape
  rw [follows_read? text other shape'] at read
  exact (Option.some.inj read).symm

end Inflection.Json
