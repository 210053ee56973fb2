import Inflection.Proofs.Text.Trim
import Inflection.Text.Numeral
import Mathlib.Algebra.Group.Nat.Defs

/-! # Numbers that are read back

A whole number is written with decimal digits and perhaps a minus sign. What is written is read as the
same number, unless it has more digits than a number to be read may have.
-/

namespace Inflection.Text

variable {c : Char} {digits : List Char}

private theorem toNat_of_isDigit (digit : c.isDigit = true) : 0x30 ≤ c.toNat ∧ c.toNat ≤ 0x39 := by
  simpa [Char.isDigit, UInt32.le_iff_toNat_le] using digit

private theorem digit?_of_isDigit (digit : c.isDigit = true) : digit? c = some (c.toNat - '0'.toNat) := by
  rw [digit?, zeros, List.find?_cons_of_pos (by simpa using toNat_of_isDigit digit)]
  rfl

theorem isDigit_of_isDigit (digit : c.isDigit = true) : isDigit c = true := by
  rw [isDigit, digit?_of_isDigit digit, Option.isSome_some]

private theorem isPadding_of_isDigit (digit : c.isDigit = true) : isPadding c = false := by
  have range := toNat_of_isDigit digit
  have plain : isBlank c = false := by
    rw [isBlank, Bool.eq_false_iff, ne_eq, CharSet.contains_iff]
    simp [blanks]
    omega
  rw [isPadding, plain, Bool.false_and]

theorem isDigit_of_mem_decimal {n : Nat} (member : c ∈ decimal n) : c.isDigit = true :=
  Nat.isDigit_of_mem_toDigits (by decide) (by decide) member

private theorem exists_decimal_eq_cons (n : Nat) : ∃ c digits, decimal n = c :: digits ∧
    c.isDigit = true ∧ ∀ d ∈ digits, d.isDigit = true := by
  obtain ⟨c, digits, written⟩ := List.exists_cons_of_ne_nil (l := decimal n) Nat.toDigits_ne_nil
  have all : ∀ d ∈ decimal n, d.isDigit = true := fun d => isDigit_of_mem_decimal
  rw [written] at all
  exact ⟨c, digits, written, List.forall_mem_cons.mp all⟩

/-- Digits are read one after the other onto the value of those before. -/
theorem readDigits?_of_all (all : ∀ c ∈ digits, c.isDigit = true) (value : Nat) :
    readDigits? value digits = some (Nat.ofDigitChars 10 digits value) := by
  induction digits generalizing value with
  | nil => rfl
  | cons c digits ih =>
    rw [List.forall_mem_cons] at all
    have plain : c ≠ '_' := by
      rintro rfl
      exact absurd all.1 (by decide)
    rw [readDigits?.eq_def]
    split
    · contradiction
    · next split => exact absurd (List.cons.inj split).1 plain
    · next split =>
      obtain ⟨rfl, rfl⟩ := List.cons.inj split
      rw [digit?_of_isDigit all.1, Option.bind_eq_bind, Option.bind_some, ih all.2,
        Nat.ofDigitChars_cons, Nat.mul_comm]

/-- The decimal digits of a number are read as that number, if they are not too many. -/
theorem readNatural?_decimal (n : Nat) :
    readNatural? (decimal n) = if (decimal n).length ≤ maxDigits then some n else none := by
  have value : Nat.ofDigitChars 10 (decimal n) 0 = n := Nat.ofDigitChars_ten_toDigits
  have count : (decimal n).countP isDigit = (decimal n).length :=
    List.countP_eq_length.mpr fun c member => isDigit_of_isDigit (isDigit_of_mem_decimal member)
  obtain ⟨c, rest, written, digit, all⟩ := exists_decimal_eq_cons n
  rw [written] at value count ⊢
  rw [readNatural?, count, digit?_of_isDigit digit, Option.bind_eq_bind, Option.bind_some,
    readDigits?_of_all all, ← value, Nat.ofDigitChars_cons, Nat.mul_zero, Nat.zero_add]

private theorem trim_eq_self {text : List Char} (plain : ∀ c ∈ text, isPadding c = false) :
    trim isPadding text = text :=
  Eq.symm (isTrimmed_iff.mp ⟨⟨[], [], by simp⟩,
    fun c head => plain c (List.mem_of_mem_head? head),
    fun c last => plain c (List.mem_of_getLast? last)⟩)

/-- What is written of a number is read as this number if it is not too long. -/
theorem readInteger?_signed (n : Int) :
    readInteger? (signed n) = if isReadable n then some n else none := by
  have plain (m : Nat) : ∀ c ∈ decimal m, isPadding c = false :=
    fun c member => isPadding_of_isDigit (isDigit_of_mem_decimal member)
  cases n with
  | ofNat n =>
    have read := readNatural?_decimal n
    rw [signed, readInteger?, trim_eq_self (plain n)]
    obtain ⟨c, rest, written, digit, -⟩ := exists_decimal_eq_cons n
    rw [written] at read ⊢
    split
    · next split =>
      obtain ⟨rfl, -⟩ := List.cons.inj split
      exact absurd digit (by decide)
    · next split =>
      obtain ⟨rfl, -⟩ := List.cons.inj split
      exact absurd digit (by decide)
    · simp [read, isReadable, written]
  | negSucc n =>
    rw [signed, readInteger?, trim_eq_self (List.forall_mem_cons.mpr ⟨by decide, plain (n + 1)⟩)]
    change Option.map _ (readNatural? (decimal (n + 1))) = _
    rw [readNatural?_decimal]
    by_cases short : (decimal (n + 1)).length ≤ maxDigits
    · rw [if_pos short, if_pos (show isReadable (.negSucc n) = true from decide_eq_true short)]
      rfl
    · rw [if_neg short, if_neg (show ¬isReadable (.negSucc n) = true by
        rwa [isReadable, decide_eq_true_iff])]
      rfl

/-- Numbers from a power of ten on are too long. -/
theorem isReadable_eq_false {n : Int} (large : 10 ^ maxDigits ≤ n.natAbs) : isReadable n = false := by
  rw [isReadable, decide_eq_false_iff_not, decimal,
    Nat.length_toDigits_le_iff (by decide) (by decide)]
  omega

/-- What is written of a number is a row of digits, perhaps after a minus sign. -/
theorem exists_signed_eq_cons (n : Int) : ∃ c digits, (∀ d ∈ c :: digits, d.isDigit = true) ∧
    (signed n = c :: digits ∨ signed n = '-' :: c :: digits) := by
  cases n with
  | ofNat n =>
    obtain ⟨c, digits, written, digit, all⟩ := exists_decimal_eq_cons n
    exact ⟨c, digits, List.forall_mem_cons.mpr ⟨digit, all⟩, .inl written⟩
  | negSucc n =>
    obtain ⟨c, digits, written, digit, all⟩ := exists_decimal_eq_cons (n + 1)
    exact ⟨c, digits, List.forall_mem_cons.mpr ⟨digit, all⟩, .inr (by rw [signed, written])⟩

/-- A number in writing has decimal digits, and perhaps a minus sign. -/
theorem eq_or_isDigit_of_mem_signed {n : Int} {c : Char} (member : c ∈ signed n) :
    c = '-' ∨ c.isDigit = true := by
  obtain ⟨d, digits, row, written | written⟩ := exists_signed_eq_cons n
  · exact .inr (row c (written ▸ member))
  · exact (List.mem_cons.mp (written ▸ member)).imp_right (row c)

theorem signed_ne_dashes (n : Int) : signed n ≠ ['-', '-'] := by
  obtain ⟨c, digits, row, written⟩ := exists_signed_eq_cons n
  have digit : c ≠ '-' := by
    rintro rfl
    exact absurd (row '-' List.mem_cons_self) (by decide)
  rcases written with written | written <;> rw [written]
  · exact fun same => digit (List.cons.inj same).1
  · exact fun same => digit (List.cons.inj (List.cons.inj same).2).1

end Inflection.Text
