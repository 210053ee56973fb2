import Inflection.Json.Writer
import Inflection.Proofs.Json.Grammar
import Inflection.Proofs.Text.Numeral

/-! # Written values

A value whose numbers are whole is written as a text of the grammar that stands for it, on one line: no
control character is part of the text, whatever is part of the strings in the value.
-/

namespace Inflection.Json

variable {c : Char} {n : Nat} {before written text : List Char} {value : Json} {items : List Json}
  {members : List (List Char × Json)}

/-- Whether no control character is part of a text. -/
def IsPrinted (text : List Char) : Prop :=
  ∀ c ∈ text, 0x20 ≤ c.toNat

instance (text : List Char) : Decidable (IsPrinted text) :=
  List.decidableBAll _ text

private theorem isPrinted_append {first second : List Char} (printed : IsPrinted first)
    (printed' : IsPrinted second) :
    IsPrinted (first ++ second) :=
  List.forall_mem_append.mpr ⟨printed, printed'⟩

section Strings

private theorem isCode_hexDigits (small : n < 0x10000) : IsCode (Text.hexDigits 4 n) n := by
  have digit (value : Nat) : IsHexDigit (value % 16).digitChar (value % 16) :=
    ⟨Nat.mod_lt _ (by decide), .inl rfl⟩
  have code := IsCode.intro (digit (n / 16 / 16 / 16)) (digit (n / 16 / 16)) (digit (n / 16)) (digit n)
  have same : ((n / 16 / 16 / 16 % 16 * 16 + n / 16 / 16 % 16) * 16 + n / 16 % 16) * 16 + n % 16 = n := by
    omega
  rwa [same] at code

/-- A character is written as it may stand in a string. -/
theorem isContent_writtenChar (c : Char) (others : IsContent written text) :
    IsContent (writtenChar c ++ written) (c :: text) := by
  rw [writtenChar]
  split
  · next sign =>
    rcases sign with rfl | rfl
    · exact .escape (by decide) others
    · exact .escape (by decide) others
  · next ordinary =>
    rw [not_or] at ordinary
    split_ifs with line back tab bell feed control
    · exact line ▸ .escape (by decide) others
    · exact back ▸ .escape (by decide) others
    · exact tab ▸ .escape (by decide) others
    · exact bell ▸ .escape (by decide) others
    · exact feed ▸ .escape (by decide) others
    · have code := IsContent.code (isCode_hexDigits (n := c.toNat) (by omega)) (.inl (by omega)) others
      rwa [Char.ofNat_toNat] at code
    · exact .plain (by omega) ordinary.1 ordinary.2 others

private theorem isContent_flatMap (text : List Char) : IsContent (text.flatMap writtenChar) text := by
  induction text with
  | nil => exact .nil
  | cons c text ih => exact isContent_writtenChar c ih

private theorem isPrinted_hexDigits (width n : Nat) : IsPrinted (Text.hexDigits width n) := by
  induction width generalizing n with
  | zero => exact List.forall_mem_nil _
  | succ width ih =>
    have digit : ∀ value < 16, IsPrinted [value.digitChar] := by decide
    exact isPrinted_append (ih (n / 16)) (digit (n % 16) (Nat.mod_lt _ (by decide)))

private theorem isPrinted_writtenChar (c : Char) : IsPrinted (writtenChar c) := by
  rw [writtenChar]
  split_ifs with sign line back tab bell feed control
  · rcases sign with rfl | rfl
    · decide
    · decide
  · decide
  · decide
  · decide
  · decide
  · decide
  · have escape : IsPrinted ['\\', 'u'] := by decide
    exact isPrinted_append escape (isPrinted_hexDigits 4 c.toNat)
  · exact List.forall_mem_singleton.mpr (by omega)

private theorem isPrinted_writtenText (text : List Char) : IsPrinted (writtenText text) := by
  have quote : IsPrinted ['"'] := by decide
  refine isPrinted_append (isPrinted_append quote ?_) quote
  intro c member
  obtain ⟨d, -, member⟩ := List.mem_flatMap.mp member
  exact isPrinted_writtenChar d c member

private theorem isValue_writtenText (text : List Char) : IsValue (writtenText text) (.str text) :=
  .str (isContent_flatMap text)

end Strings

section Numbers

private theorem head?_decimal_ne (positive : 0 < n) : (Text.decimal n).head? ≠ some '0' := by
  induction n using Nat.strong_induction_on with
  | h n ih =>
    by_cases small : n < 10
    · have digit : ∀ n < 10, 0 < n → n.digitChar ≠ '0' := by decide
      rw [Text.decimal, Nat.toDigits_of_lt_base small, List.head?_cons, ne_eq, Option.some.injEq]
      exact digit n small positive
    · have present : Text.decimal (n / 10) ≠ [] := Nat.toDigits_ne_nil
      rw [Text.decimal, Nat.toDigits_of_base_le (by decide) (by omega), ← Text.decimal,
        List.head?_append_of_ne_nil _ present]
      exact ih (n / 10) (by omega) (by omega)

private theorem isWhole_decimal (n : Nat) : IsWhole (Text.decimal n) := by
  refine ⟨⟨Nat.toDigits_ne_nil, fun c => Text.isDigit_of_mem_decimal⟩, fun zero => ?_⟩
  cases n with
  | zero => rfl
  | succ n => exact absurd zero (head?_decimal_ne (Nat.succ_pos n))

/-- The digits of a number, without a fraction and an exponent, stand for it. -/
theorem isMagnitude_decimal (negative : Bool) (n : Nat) :
    IsMagnitude negative (Text.decimal n) (int (if negative then -n else n)) := by
  have digits : Nat.ofDigitChars 10 (Text.decimal n) 0 = n := Nat.ofDigitChars_ten_toDigits
  have shape : IsMagnitude negative (Text.decimal n ++ ([] ++ []))
      (numberValue negative (Text.decimal n) [] none) := .intro (isWhole_decimal n) .missing .missing
  rwa [List.append_nil, List.append_nil, numberValue, if_pos ⟨rfl, rfl⟩, digits] at shape

private theorem isValue_signed (n : Int) : IsValue (Text.signed n) (.int n) := by
  cases n with
  | ofNat n => exact .positive (isMagnitude_decimal false n)
  | negSucc n => exact .negative (isMagnitude_decimal true (n + 1))

private theorem isPrinted_signed (n : Int) : IsPrinted (Text.signed n) := by
  intro c member
  rcases Text.eq_or_isDigit_of_mem_signed member with rfl | digit
  · decide
  · have bound : '0'.toNat ≤ c.toNat := of_decide_eq_true (Bool.and_eq_true_iff.mp digit).1
    exact Nat.le_trans (by decide) bound

end Numbers

section Values

mutual

/-- Whether all numbers in a value are whole. -/
def isWhole : Json → Bool
  | float _ => false
  | arr items => areWhole items
  | obj members => haveWhole members
  | null | bool _ | int _ | str _ => true

def areWhole : List Json → Bool
  | [] => true
  | item :: rest => isWhole item && areWhole rest

def haveWhole : List (List Char × Json) → Bool
  | [] => true
  | (_, value) :: rest => isWhole value && haveWhole rest

end

private theorem IsText.pad (blank : IsGap before) (shape : IsText text value) :
    IsText (before ++ text) value := by
  cases shape with
  | intro blank' shape after =>
    rw [← List.append_assoc]
    exact .intro (List.forall_mem_append.mpr ⟨blank, blank'⟩) shape after

private theorem IsItems.pad (blank : IsGap before) (shape : IsItems text items) :
    IsItems (before ++ text) items := by
  cases shape with
  | last shape => exact .last (shape.pad blank)
  | more shape others =>
    rw [← List.append_assoc]
    exact .more (shape.pad blank) others

private theorem IsMember.pad {member : List Char × Json} (blank : IsGap before) (shape : IsMember text member) :
    IsMember (before ++ text) member := by
  cases shape with
  | intro blank' content between shape =>
    rw [← List.append_assoc]
    exact .intro (List.forall_mem_append.mpr ⟨blank, blank'⟩) content between shape

private theorem IsMembers.pad (blank : IsGap before) (shape : IsMembers text members) :
    IsMembers (before ++ text) members := by
  cases shape with
  | last shape => exact .last (shape.pad blank)
  | more shape others =>
    rw [← List.append_assoc]
    exact .more (shape.pad blank) others

/-- A value is a whole text, with no blanks around it. -/
theorem IsValue.isText (shape : IsValue text value) : IsText text value := by
  have whole := IsText.intro (List.forall_mem_nil _) shape (List.forall_mem_nil _)
  rwa [List.nil_append, List.append_nil] at whole

private theorem isGap_space : IsGap [' '] :=
  List.forall_mem_singleton.mpr (.inl rfl)

private theorem isMember_write (name : List Char) (shape : IsValue text value) :
    IsMember (writtenText name ++ ": ".toList ++ text) (name, value) := by
  have member := IsMember.intro (List.forall_mem_nil _) (isContent_flatMap name) (List.forall_mem_nil _)
    (shape.isText.pad isGap_space)
  simpa [writtenText] using member

mutual

/-- A value whose numbers are whole is written as a text that stands for it. -/
theorem isValue_write : ∀ value : Json, isWhole value = true → IsValue value.write value
  | .null, _ => .null
  | .bool b, _ => .bool b
  | .int n, _ => isValue_signed n
  | .float _, whole => nomatch whole
  | .str text, _ => isValue_writtenText text
  | .arr [], _ => .noItems (List.forall_mem_nil _)
  | .arr (item :: items), whole => .arr (isItems_write (item :: items) (List.cons_ne_nil item items) whole)
  | .obj [], _ => .noMembers (List.forall_mem_nil _)
  | .obj (member :: members), whole =>
    .obj (isMembers_write (member :: members) (List.cons_ne_nil member members) whole)

/-- Items are written with a comma between them. -/
theorem isItems_write : ∀ items : List Json, items ≠ [] → areWhole items = true →
    IsItems (", ".toList.intercalate (writeItems items)) items
  | [], present, _ => absurd rfl present
  | [item], _, whole => by
    rw [areWhole, Bool.and_eq_true] at whole
    rw [writeItems, writeItems, List.intercalate_singleton]
    exact .last (isValue_write item whole.1).isText
  | item :: next :: items, _, whole => by
    rw [areWhole, Bool.and_eq_true] at whole
    have others := (isItems_write (next :: items) (List.cons_ne_nil next items) whole.2).pad isGap_space
    rw [writeItems] at others
    rw [writeItems, writeItems, List.intercalate_cons_cons, List.append_assoc]
    exact .more (isValue_write item whole.1).isText others

/-- Members are written with a comma between them. -/
theorem isMembers_write : ∀ members : List (List Char × Json), members ≠ [] → haveWhole members = true →
    IsMembers (", ".toList.intercalate (writeMembers members)) members
  | [], present, _ => absurd rfl present
  | [(name, value)], _, whole => by
    rw [haveWhole, Bool.and_eq_true] at whole
    rw [writeMembers, writeMembers, List.intercalate_singleton]
    exact .last (isMember_write name (isValue_write value whole.1))
  | (name, value) :: (next, other) :: members, _, whole => by
    rw [haveWhole, Bool.and_eq_true] at whole
    have others := (isMembers_write ((next, other) :: members) (List.cons_ne_nil _ members) whole.2).pad isGap_space
    rw [writeMembers] at others
    rw [writeMembers, writeMembers, List.intercalate_cons_cons, List.append_assoc]
    exact .more (isMember_write name (isValue_write value whole.1)) others

end

private theorem isPrinted_intercalate {texts : List (List Char)} (printed : ∀ text ∈ texts, IsPrinted text) :
    IsPrinted (", ".toList.intercalate texts) := by
  have comma : IsPrinted ", ".toList := by decide
  induction texts with
  | nil => exact List.forall_mem_nil _
  | cons text texts ih =>
    obtain ⟨first, printed⟩ := List.forall_mem_cons.mp printed
    cases texts with
    | nil => rwa [List.intercalate_singleton]
    | cons next texts =>
      rw [List.intercalate_cons_cons]
      exact isPrinted_append (isPrinted_append first comma) (ih printed)

mutual

/-- A value whose numbers are whole is written on one line. -/
theorem isPrinted_write : ∀ value : Json, isWhole value = true → IsPrinted value.write
  | .null, _ => by decide
  | .bool true, _ => by decide
  | .bool false, _ => by decide
  | .int n, _ => isPrinted_signed n
  | .float _, whole => nomatch whole
  | .str text, _ => isPrinted_writtenText text
  | .arr items, whole => isPrinted_append
      (isPrinted_append (by decide : IsPrinted ['[']) (isPrinted_intercalate (isPrinted_writeItems items whole)))
      (by decide : IsPrinted [']'])
  | .obj members, whole => isPrinted_append
      (isPrinted_append (by decide : IsPrinted ['\x7b'])
        (isPrinted_intercalate (isPrinted_writeMembers members whole)))
      (by decide : IsPrinted ['\x7d'])

theorem isPrinted_writeItems : ∀ items : List Json, areWhole items = true →
    ∀ text ∈ writeItems items, IsPrinted text
  | [], _ => List.forall_mem_nil _
  | item :: items, whole => by
    rw [areWhole, Bool.and_eq_true] at whole
    exact List.forall_mem_cons.mpr ⟨isPrinted_write item whole.1, isPrinted_writeItems items whole.2⟩

theorem isPrinted_writeMembers : ∀ members : List (List Char × Json), haveWhole members = true →
    ∀ text ∈ writeMembers members, IsPrinted text
  | [], _ => List.forall_mem_nil _
  | (name, value) :: members, whole => by
    have colon : IsPrinted ": ".toList := by decide
    rw [haveWhole, Bool.and_eq_true] at whole
    refine List.forall_mem_cons.mpr ⟨?_, isPrinted_writeMembers members whole.2⟩
    exact isPrinted_append (isPrinted_append (isPrinted_writtenText name) colon) (isPrinted_write value whole.1)

end

end Values

end Inflection.Json
