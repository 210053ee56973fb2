import Inflection.Pattern.Reader
import Mathlib.Tactic.Common

/-! # Patterns in brackets

A pattern can be written in brackets as part of a longer one. The reader gives it the same meaning there:
no part of it looks beyond the bracket that closes it, and more fuel makes no difference to a reader that
had enough. A captured pattern in front of the very end of a word is read as just that.
-/

namespace Inflection.Pattern

variable {text left after : List Char} {c : Char} {fuel more : Nat}

section Classes

private theorem readMember?_append (read : readMember? text = some (c, left)) (after : List Char) :
    readMember? (text ++ after) = some (c, left ++ after) := by
  unfold readMember? at read
  split at read
  · next d rest =>
    split at read
    · next sign =>
      cases read
      exact if_pos sign
    · cases read
  · cases read
  · next d rest noPair noEnd =>
    cases read
    have plain : c ≠ '\\' := by
      rintro rfl
      cases left with
      | nil => exact noEnd rfl rfl
      | cons e left => exact noPair e left rfl rfl
    rw [List.cons_append, readMember?]
    · exact fun _ _ escape => absurd escape plain
    · exact fun escape => absurd escape plain
  · cases read

/-- Reads what may follow the first character of a member: a dash and the last character of a range. -/
def readRange? (first : Char) (text : List Char) : Option (ClassItem × List Char) :=
  match text with
  | '-' :: ']' :: _ => some (.one first, text)
  | '-' :: rest => (readMember? rest).bind fun (last, rest) =>
    if first ≤ last then some (.range first last, rest) else none
  | _ => some (.one first, text)

/-- A member at the end of a text might be the first one of a range. -/
theorem readRange?_append {first : Char} {item : ClassItem}
    (read : readRange? first text = some (item, left)) (present : text ≠ []) (after : List Char) :
    readRange? first (text ++ after) = some (item, left ++ after) := by
  unfold readRange? at read
  split at read
  · cases read
    rfl
  · next rest unclosed =>
    obtain ⟨⟨last, others⟩, member, ordered⟩ := Option.bind_eq_some_iff.mp read
    obtain ⟨d, rest, rfl⟩ := List.exists_cons_of_ne_nil (l := rest) (by
      rintro rfl
      cases member)
    have inner : d ≠ ']' := by
      rintro rfl
      exact unclosed rest rfl
    rw [List.cons_append, readRange?, readMember?_append member, Option.bind_some]
    · dsimp only at ordered ⊢
      split at ordered <;> cases ordered
      next ordered => exact if_pos ordered
    · intro tail same
      exact inner (List.cons.inj same).1
  · next noClosed noRange =>
    cases read
    obtain ⟨d, rest, rfl⟩ := List.exists_cons_of_ne_nil present
    have plain : d ≠ '-' := by
      rintro rfl
      exact noRange rest rfl
    rw [List.cons_append, readRange?]
    · exact fun _ same => plain (List.cons.inj same).1
    · exact fun _ same => plain (List.cons.inj same).1

/-- The members of a class are read one by one, each with the range that it may begin. -/
theorem readMembers?_of_member {opening : Bool} (unclosed : opening = false → text.head? ≠ some ']') :
    readMembers? (fuel + 1) opening text = (readMember? text).bind fun (first, rest) =>
      (readRange? first rest).bind fun (item, rest) =>
        (readMembers? fuel false rest).bind fun (items, rest) => some (item :: items, rest) := by
  rw [readMembers?]
  · congr 1
    funext ⟨first, rest⟩
    dsimp only
    split
    · rfl
    · next unclosed =>
      rw [readRange?, Option.bind_eq_bind, Option.bind_assoc]
      · congr 1
        funext ⟨last, rest⟩
        dsimp only
        split <;> rfl
      · exact unclosed
    · next noClosed noRange =>
      rw [readRange?]
      · rfl
      · exact noClosed
      · exact noRange
  · rintro rest inside rfl
    exact unclosed inside rfl

private theorem readMembers?_append {items : List ClassItem} {opening : Bool}
    (read : readMembers? fuel opening text = some (items, left)) (enough : fuel ≤ more)
    (after : List Char) : readMembers? more opening (text ++ after) = some (items, left ++ after) := by
  induction fuel generalizing opening text items left more with
  | zero => cases read
  | succ fuel ih =>
    obtain ⟨more, rfl⟩ := Nat.exists_eq_add_of_le' (Nat.le_of_add_left_le enough)
    have less : fuel ≤ more := by omega
    cases text with
    | nil => cases opening <;> cases read
    | cons c text =>
      by_cases closed : opening = false ∧ c = ']'
      · obtain ⟨rfl, rfl⟩ := closed
        cases read
        rfl
      · have unclosed (rest : List Char) : opening = false → (c :: rest).head? ≠ some ']' := by
          simpa using closed
        rw [readMembers?_of_member (unclosed text)] at read
        rw [List.cons_append, readMembers?_of_member (unclosed (text ++ after)), ← List.cons_append]
        simp only [Option.bind_eq_some_iff] at read
        obtain ⟨⟨first, rest⟩, member, ⟨item, others⟩, range, ⟨items, left⟩, row, same⟩ := read
        cases same
        -- A class that ends with its text has no bracket that closes it.
        have inside : rest ≠ [] := by
          rintro rfl
          cases range
          cases fuel <;> cases row
        simp only [readMember?_append member, readRange?_append range inside, ih row less,
          Option.bind_some]

/-- A class is read up to the bracket that closes it. -/
theorem readClass?_append {p : Pattern} (read : readClass? text = some (p, left)) (after : List Char) :
    readClass? (text ++ after) = some (p, left ++ after) := by
  unfold readClass? at read
  split at read
  · next rest =>
    obtain ⟨⟨items, left⟩, row, same⟩ := Option.map_eq_some_iff.mp read
    cases same
    rw [List.cons_append, readClass?, readMembers?_append row (by simp)]
    rfl
  · next plain =>
    obtain ⟨⟨items, left⟩, row, same⟩ := Option.map_eq_some_iff.mp read
    cases same
    cases text with
    | nil => cases row
    | cons c text =>
      rw [List.cons_append, readClass?, ← List.cons_append, readMembers?_append row (by simp)]
      · rfl
      · intro rest same
        exact plain text (by rw [(List.cons.inj same).1])

end Classes

section Groups

/-- Whether a reader with some fuel reads a text in the same way in front of a bracket that closes a group,
and with more fuel. -/
def IsSteady {α : Type} (read : Nat → List Char → Option (α × List Char)) (fuel : Nat) : Prop :=
  ∀ text value left, read fuel text = some (value, left) → ∀ more, fuel ≤ more → ∀ after,
    read more (text ++ ')' :: after) = some (value, left ++ ')' :: after)

private theorem exists_of_append_bracket {rest tail : List Char} {sign : Char} (other : sign ≠ ')')
    (same : rest ++ ')' :: after = sign :: tail) :
    ∃ others, rest = sign :: others ∧ others ++ ')' :: after = tail := by
  cases rest with
  | nil => exact absurd (List.cons.inj same).1.symm other
  | cons c rest =>
    obtain ⟨rfl, tails⟩ := List.cons.inj same
    exact ⟨rest, rfl, tails⟩

private theorem readClosing?_eq_some_iff {items closed : List Pattern} :
    readClosing? items text = some (closed, left) ↔ text = ')' :: left ∧ closed = items := by
  unfold readClosing?
  split
  · simp only [Option.some.injEq, Prod.mk.injEq, List.cons.injEq, true_and]
    rw [and_comm, eq_comm (a := closed)]
  · next unclosed =>
    simp only [reduceCtorEq, false_iff, not_and]
    rintro rfl
    exact absurd rfl (unclosed left)

private theorem isSteady_readItem? (alternatives : IsSteady readAlternatives? fuel) :
    IsSteady readItem? (fuel + 1) := by
  intro text items left read more enough after
  obtain ⟨more, rfl⟩ := Nat.exists_eq_add_of_le' (Nat.le_of_add_left_le enough)
  have less : fuel ≤ more := by omega
  unfold readItem? at read
  split at read
  · next rest =>
    simp only [Option.bind_eq_bind, Option.bind_eq_some_iff] at read
    obtain ⟨⟨choices, following⟩, inner, closing⟩ := read
    obtain ⟨rfl, rfl⟩ := readClosing?_eq_some_iff.mp closing
    simp only [List.cons_append, readItem?, alternatives _ _ _ inner more less, Option.bind_eq_bind,
      Option.bind_some]
    rfl
  · next rest captured =>
    simp only [Option.bind_eq_bind, Option.bind_eq_some_iff] at read
    obtain ⟨⟨choices, following⟩, inner, closing⟩ := read
    obtain ⟨rfl, rfl⟩ := readClosing?_eq_some_iff.mp closing
    rw [List.cons_append, readItem?]
    · simp only [alternatives _ _ _ inner more less, Option.bind_eq_bind, Option.bind_some]
      rfl
    · -- A group that captures is not taken for one that does not, with the bracket after it or without.
      intro tail same
      obtain ⟨rest, rfl, following⟩ := exists_of_append_bracket (by decide) same
      obtain ⟨others, rfl, -⟩ := exists_of_append_bracket (by decide) following
      exact captured others rfl
  · next rest =>
    obtain ⟨⟨item, left⟩, inner, same⟩ := Option.map_eq_some_iff.mp read
    cases same
    simp only [List.cons_append, readItem?, readClass?_append inner, Option.map_some]
  · cases read
    rfl
  · cases read
    rfl
  · cases read
    rfl
  · cases read
    rfl
  · next c rest noEnd noBoundary =>
    split at read
    · next sign =>
      cases read
      rw [List.cons_append, List.cons_append, readItem?, if_pos sign]
      · exact noEnd
      · exact noBoundary
    · cases read
  · next c rest _ noGroup noClass noStart noLineEnd _ _ _ =>
    split at read
    · cases read
    · next plain =>
      cases read
      have unescaped : c ≠ '\\' := by
        rintro rfl
        exact plain (by decide)
      rw [List.cons_append, readItem?, if_neg plain]
      all_goals grind
  · cases read

private theorem isSteady_readSequence? (item : IsSteady readItem? fuel)
    (row : IsSteady readSequence? fuel) : IsSteady readSequence? (fuel + 1) := by
  intro text items left read more enough after
  obtain ⟨more, rfl⟩ := Nat.exists_eq_add_of_le' (Nat.le_of_add_left_le enough)
  have less : fuel ≤ more := by omega
  unfold readSequence? at read
  split at read
  · cases read
    rfl
  · cases read
    rfl
  · cases read
    rfl
  · next present single unclosed =>
    simp only [Option.bind_eq_bind, Option.bind_eq_some_iff] at read
    obtain ⟨⟨first, rest⟩, inner, ⟨following, others⟩, read, same⟩ := read
    cases same
    cases text with
    | nil => exact absurd rfl present
    | cons c text =>
      rw [List.cons_append, readSequence?, ← List.cons_append, item _ _ _ inner more less,
        Option.bind_eq_bind, Option.bind_some]
      · dsimp only at read ⊢
        split at read
        · simp only [List.cons_append, row _ _ _ read more less, Option.bind_some]
        · next required =>
          split
          · next same =>
            obtain ⟨rest, rfl, -⟩ := exists_of_append_bracket (by decide) same
            exact absurd rfl (required rest)
          · simp only [row _ _ _ read more less, Option.bind_some]
      · simp
      · simpa using single
      · simpa using unclosed

private theorem isSteady_readAlternatives? (row : IsSteady readSequence? fuel)
    (others : IsSteady readAlternatives? fuel) : IsSteady readAlternatives? (fuel + 1) := by
  intro text items left read more enough after
  obtain ⟨more, rfl⟩ := Nat.exists_eq_add_of_le' (Nat.le_of_add_left_le enough)
  have less : fuel ≤ more := by omega
  unfold readAlternatives? at read
  simp only [Option.bind_eq_bind, Option.bind_eq_some_iff] at read
  obtain ⟨⟨first, rest⟩, inner, read⟩ := read
  rw [readAlternatives?, row _ _ _ inner more less, Option.bind_eq_bind, Option.bind_some]
  dsimp only at read ⊢
  split at read
  · next rest =>
    obtain ⟨⟨following, left⟩, later, same⟩ := Option.bind_eq_some_iff.mp read
    cases same
    simp only [List.cons_append, others _ _ _ later _ less, Option.bind_eq_bind, Option.bind_some]
  · next unsplit =>
    cases read
    split
    · next same =>
      obtain ⟨rest, rfl, -⟩ := exists_of_append_bracket (by decide) same
      exact absurd rfl (unsplit rest)
    · rfl

/-- With any fuel, the readers of alternatives, of rows and of items are steady. -/
theorem isSteady_readers (fuel : Nat) :
    IsSteady readAlternatives? fuel ∧ IsSteady readSequence? fuel ∧ IsSteady readItem? fuel := by
  induction fuel with
  | zero => refine ⟨?_, ?_, ?_⟩ <;> intro text value left read <;> cases read
  | succ fuel ih =>
    obtain ⟨alternatives, row, item⟩ := ih
    exact ⟨isSteady_readAlternatives? row alternatives, isSteady_readSequence? item row,
      isSteady_readItem? alternatives⟩

/-- Nothing can be optional at the beginning, so a text after an opening bracket is captured. -/
theorem readAlternatives?_question (fuel : Nat) (rest : List Char) :
    readAlternatives? fuel ('?' :: rest) = none := by
  match fuel with
  | 0 | 1 | 2 | _ + 3 => rfl

/-- A pattern in brackets before the sign for the very end is read as the captured pattern and the end. -/
theorem read?_captured_stop {p : Pattern} (read : read? text = some p) :
    read? ('(' :: text ++ ")\\Z".toList) = some (capture p ++ stop) := by
  unfold read? at read
  split at read
  · next alternatives whole =>
    cases read
    have inner := (isSteady_readers _).1 _ _ _ whole (3 * text.length + 12) (by omega) "\\Z".toList
    have item : readItem? (3 * text.length + 13) ('(' :: (text ++ ")\\Z".toList)) =
        some ([capture (inSequence (choice alternatives))], "\\Z".toList) := by
      rw [readItem?]
      · exact (congrArg (Option.bind · _) inner).trans rfl
      · intro rest same
        cases text with
        | nil => cases same
        | cons c text =>
          obtain ⟨rfl, -⟩ := List.cons.inj same
          rw [readAlternatives?_question] at whole
          cases whole
    have row : readSequence? (3 * text.length + 14) ('(' :: (text ++ ")\\Z".toList)) =
        some ([capture (inSequence (choice alternatives)), stop], []) := by
      rw [readSequence?]
      · exact (congrArg (Option.bind · _) item).trans rfl
      · simp
      · simp
      · simp
    have size : 3 * ('(' :: text ++ ")\\Z".toList).length + 3 = 3 * text.length + 15 := by
      simp
      omega
    unfold read?
    rw [size, readAlternatives?, List.cons_append, row]
    rfl
  · cases read

end Groups

end Inflection.Pattern
