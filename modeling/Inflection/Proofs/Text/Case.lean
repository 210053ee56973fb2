import Inflection.Text.Case

/-! # Letters of ASCII and their case variants

Lower-casing and folding reach ASCII from ASCII only, but for the dotted and the dotless i, the long s
and the kelvin sign. What is to be known about a letter of ASCII can so be checked character by
character.
-/

namespace Inflection.Text

/-- A run of capitals is the dotted I, the kelvin sign, or leads beyond ASCII, and then never to the
dotless i or the long s. -/
private theorem capitals_lead_beyond_ascii : ∀ run ∈ capitals,
    run.first = run.last ∧ (run.first = 0x130 ∨ run.first = 0x212a) ∨
    0x80 ≤ run.first + run.offset ∧
      (run.last + run.offset < 0xd800 ∨
        0xdfff < run.first + run.offset ∧ run.last + run.offset < 0x110000) ∧
      ∀ small ∈ [0x131, 0x17f], run.includes (Int.toNat (small - run.offset)) = false := by
  decide +kernel

private theorem toNat_ofNat_of_isValidChar {n : Nat} (valid : n.isValidChar) :
    (Char.ofNat n).toNat = n := by
  rw [Char.ofNat, dif_pos valid]
  rfl

private theorem eq_of_toNat {c d : Char} (same : c.toNat = d.toNat) : c = d := by
  rw [← Char.ofNat_toNat c, same, Char.ofNat_toNat]

/-- A character beyond ASCII has its lower-case form there too, unless it is the dotted I or the
kelvin sign. Only the dotless i and the long s are their own lower-case forms. -/
theorem toLower_of_not_isAscii {c : Char} (beyond : isAscii c = false) :
    c = '\u0130' ∨ c = '\u212a' ∨
      isAscii (toLower c) = false ∧
        ∀ small ∈ ['\u0131', '\u017f'], toLower c = small → c = small := by
  rw [toLower, beyond, if_neg Bool.false_ne_true]
  cases found : capitals.find? (·.includes c.toNat) with
  | none => exact .inr (.inr ⟨beyond, fun _ _ => id⟩)
  | some run =>
    have included := List.find?_some found
    have included' := included
    simp only [CapitalRun.includes, Bool.and_eq_true, decide_eq_true_eq] at included'
    obtain ⟨⟨lower, upper⟩, -⟩ := included'
    obtain ⟨lone, first⟩ | ⟨least, valid, others⟩ :=
      capitals_lead_beyond_ascii run (List.mem_of_find?_eq_some found)
    · rcases first with first | first
      · exact .inl (eq_of_toNat (by change c.toNat = 0x130; omega))
      · exact .inr (.inl (eq_of_toNat (by change c.toNat = 0x212a; omega)))
    · have small : (Char.ofNat (Int.toNat (c.toNat + run.offset))).toNat =
          Int.toNat (c.toNat + run.offset) :=
        toNat_ofNat_of_isValidChar (by unfold Nat.isValidChar; omega)
      refine .inr (.inr ⟨?_, ?_⟩)
      · rw [isAscii, small, decide_eq_false_iff_not]
        omega
      · intro other member same
        have code : c.toNat = Int.toNat (other.toNat - run.offset) := by
          rw [← same, small]
          omega
        have excluded : run.includes c.toNat = false := by
          rw [code]
          simp only [List.mem_cons, List.not_mem_nil, or_false] at member
          rcases member with rfl | rfl
          · exact others 0x131 (by simp)
          · exact others 0x17f (by simp)
        exact absurd included (by simp [excluded])

/-- What holds of the characters of ASCII holds of every character in ASCII. -/
theorem forall_isAscii {P : Char → Prop} (ascii : ∀ n < 0x80, P (Char.ofNat n)) {c : Char}
    (inAscii : isAscii c = true) : P c := by
  have held := ascii c.toNat (by simpa [isAscii] using inAscii)
  rwa [Char.ofNat_toNat] at held

theorem isAscii_of_isLower {c : Char} (letter : c.isLower = true) : isAscii c = true := by
  have bound : c.toNat ≤ 'z'.toNat := of_decide_eq_true (Bool.and_eq_true_iff.mp letter).2
  simpa [isAscii] using Nat.lt_of_le_of_lt bound (by decide)

private theorem variants_into_ascii : ∀ variant ∈ variants,
    isAscii (Char.ofNat variant.2) = true → variant.1 = 0x131 ∨ variant.1 = 0x17f := by
  decide

/-- What holds of the characters of ASCII and of the four characters beyond it that fold into it holds
of every character that does. -/
theorem forall_fold_isAscii {P : Char → Prop}
    (ascii : ∀ n < 0x80, P (Char.ofNat n))
    (others : P '\u0130' ∧ P '\u0131' ∧ P '\u017f' ∧ P '\u212a') {c : Char}
    (folded : isAscii (fold c) = true) : P c := by
  cases plain : isAscii c with
  | true => exact forall_isAscii ascii plain
  | false =>
    obtain rfl | rfl | ⟨beyond, fixed⟩ := toLower_of_not_isAscii plain
    · exact others.1
    · exact others.2.2.2
    · rw [fold, if_neg (by simp [beyond])] at folded
      cases found : variants.find? (·.1 == (toLower c).toNat) with
      | none => simp [found, beyond] at folded
      | some variant =>
        have small : variant.1 = (toLower c).toNat := by simpa using List.find?_some found
        simp only [found] at folded
        rcases variants_into_ascii variant (List.mem_of_find?_eq_some found) folded with
          dotless | long
        · obtain rfl := fixed '\u0131' (by simp) (eq_of_toNat (small.symm.trans dotless))
          exact others.2.1
        · obtain rfl := fixed '\u017f' (by simp) (eq_of_toNat (small.symm.trans long))
          exact others.2.2.1

/-- The letters whose lower-case text is a letter of ASCII, one that is neither i nor k. -/
theorem lower_eq_singleton_iff {c small : Char} (letter : small.isLower = true)
    (plain : small ≠ 'i' ∧ small ≠ 'k') :
    lower c = [small] ↔ c = small ∨ c = small.toUpper := by
  have smallAscii := isAscii_of_isLower letter
  constructor
  · intro lowered
    by_cases dotted : c = '\u0130'
    · simp [lower, dotted] at lowered
    · simp only [lower, if_neg dotted, List.cons.injEq, and_true] at lowered
      subst lowered
      cases inAscii : isAscii c with
      | true =>
        rw [toLower, if_pos inAscii] at letter ⊢
        exact forall_isAscii (P := fun c => c.toLower.isLower = true →
          c = c.toLower ∨ c = c.toLower.toUpper) (by decide) inAscii letter
      | false =>
        obtain rfl | rfl | ⟨beyond, -⟩ := toLower_of_not_isAscii inAscii
        · exact absurd rfl dotted
        · exact absurd (by decide +kernel) plain.2
        · rw [beyond] at smallAscii
          contradiction
  · have capital := forall_isAscii (P := fun small => small.isLower = true →
      isAscii small.toUpper = true ∧ small.toLower = small ∧ small.toUpper.toLower = small)
      (by decide) smallAscii letter
    rintro (rfl | rfl)
    · rw [lower_of_isAscii smallAscii, capital.2.1]
    · rw [lower_of_isAscii capital.1, capital.2.2]

end Inflection.Text
