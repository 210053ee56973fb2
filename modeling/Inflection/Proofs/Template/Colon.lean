import Inflection.Template.Tag

/-! # The colon of a tag

A character is escaped when an odd number of backslashes stands right before it. A tag is split at its
first colon that is not escaped, which settles where the head ends and the payload begins. The reader
passes over each backslash together with the character after it; the main result is that it finds
the only split that the lengths of the runs of backslashes allow.
-/

namespace Inflection

namespace Text

private theorem length_takeEndWhile_le (p : Char → Bool) (text : List Char) :
    (takeEndWhile p text).length ≤ text.length := by
  simpa [takeEndWhile] using (List.takeWhile_sublist p (l := text.reverse)).length_le

/-- A character in front of a text makes the run that ends it longer only if the run is the text. -/
theorem length_takeEndWhile_cons (p : Char → Bool) (c : Char) (text : List Char) :
    (takeEndWhile p (c :: text)).length =
      if (takeEndWhile p text).length = text.length then text.length + (if p c then 1 else 0)
      else (takeEndWhile p text).length := by
  simp only [takeEndWhile, List.length_reverse, List.reverse_cons, List.takeWhile_append]
  split
  · cases holds : p c <;> simp [holds]
  · rfl

end Text

namespace Tag

/-- Whether a text escapes the character after it, by an odd run of backslashes at its end. -/
def Escapes (text : List Char) : Prop :=
  (Text.takeEndWhile (· = '\\') text).length % 2 = 1

instance (text : List Char) : Decidable (Escapes text) :=
  inferInstanceAs (Decidable (_ = 1))

/-- Whether every colon of a text is escaped. -/
def ColonsEscaped (text : List Char) : Prop :=
  ∀ before after, text = before ++ ':' :: after → Escapes before

/-- What it takes for a head and a payload to be the parts of a text around its first colon that is
not escaped. -/
structure IsColonSplit (text head payload : List Char) : Prop where
  whole : text = head ++ ':' :: payload
  plain : ¬ Escapes head
  escaped : ColonsEscaped head

/-- A character that is no backslash does not escape. -/
theorem escapes_cons_iff {c : Char} {text : List Char} (noEscape : c ≠ '\\') :
    Escapes (c :: text) ↔ Escapes text := by
  simp only [Escapes, Text.length_takeEndWhile_cons, decide_eq_true_eq, if_neg noEscape]
  split <;> omega

/-- A backslash and the character that it escapes leave the later characters as they are. -/
theorem escapes_pair_iff {c : Char} {text : List Char} :
    Escapes ('\\' :: c :: text) ↔ Escapes text := by
  have bound := Text.length_takeEndWhile_le (· = '\\') text
  simp only [Escapes, Text.length_takeEndWhile_cons, List.length_cons, decide_true, if_true]
  by_cases all : (Text.takeEndWhile (· = '\\') text).length = text.length
  · by_cases same : c = '\\'
    · simp only [all, same, decide_true, if_true]
      omega
    · simp [all, same]
  · have short : (Text.takeEndWhile (· = '\\') text).length ≠ text.length + 1 := by omega
    simp [all, short]

private theorem colonsEscaped_cons_iff {c : Char} {text : List Char} (noColon : c ≠ ':')
    (noEscape : c ≠ '\\') : ColonsEscaped (c :: text) ↔ ColonsEscaped text := by
  constructor
  · intro escaped before after whole
    exact (escapes_cons_iff noEscape).mp (escaped (c :: before) after (by simp [whole]))
  · rintro escaped (_ | ⟨first, before⟩) after whole
    · exact absurd (List.cons.inj whole).1 noColon
    · obtain ⟨rfl, remaining⟩ := List.cons.inj whole
      exact (escapes_cons_iff noEscape).mpr (escaped before after remaining)

private theorem colonsEscaped_pair_iff {c : Char} {text : List Char} :
    ColonsEscaped ('\\' :: c :: text) ↔ ColonsEscaped text := by
  constructor
  · intro escaped before after whole
    exact escapes_pair_iff.mp (escaped ('\\' :: c :: before) after (by simp [whole]))
  · rintro escaped (_ | ⟨first, _ | ⟨second, before⟩⟩) after whole
    · exact absurd (List.cons.inj whole).1 (by decide)
    · rw [← (List.cons.inj whole).1]
      decide
    · rw [← (List.cons.inj whole).1]
      exact escapes_pair_iff.mpr (escaped before after (List.cons.inj (List.cons.inj whole).2).2)

private theorem eq_nil_of_no_pair {c : Char} {rest : List Char}
    (noPair : ∀ d others, c = '\\' → rest = d :: others → False) (escape : c = '\\') : rest = [] := by
  cases rest with
  | nil => rfl
  | cons d others => exact (noPair d others escape rfl).elim

/-- The reader splits a text at its first colon that is not escaped. -/
theorem splitColon?_eq_some_iff {text head payload : List Char} :
    splitColon? text = some (head, payload) ↔ IsColonSplit text head payload := by
  fun_induction splitColon? text generalizing head with
  | case1 =>
    refine iff_of_false nofun ?_
    rintro ⟨whole, -, -⟩
    simp at whole
  | case2 rest =>
    constructor
    · rintro ⟨⟩
      exact ⟨rfl, by decide, fun before after whole => by simp at whole⟩
    · rintro ⟨whole, plain, escaped⟩
      cases head with
      | nil => simpa using whole
      | cons c head =>
        obtain ⟨rfl, -⟩ := List.cons.inj whole
        exact absurd (escaped [] head rfl) (by decide)
  | case3 c rest ih =>
    simp only [Option.map_eq_some_iff, Prod.mk.injEq, Prod.exists]
    constructor
    · rintro ⟨head, payload, found, rfl, rfl⟩
      obtain ⟨rfl, plain, escaped⟩ := ih.mp found
      exact ⟨rfl, (not_congr escapes_pair_iff).mpr plain, colonsEscaped_pair_iff.mpr escaped⟩
    · rintro ⟨whole, plain, escaped⟩
      rcases head with _ | ⟨first, _ | ⟨second, head⟩⟩
      · exact absurd (List.cons.inj whole).1 (by decide)
      · rw [← (List.cons.inj whole).1] at plain
        exact absurd (by decide) plain
      · simp only [List.cons_append, List.cons.injEq] at whole
        obtain ⟨rfl, rfl, remaining⟩ := whole
        exact ⟨head, payload, ih.mpr ⟨remaining, (not_congr escapes_pair_iff).mp plain,
          colonsEscaped_pair_iff.mp escaped⟩, rfl, rfl⟩
  | case4 c rest noColon noPair ih =>
    by_cases noEscape : c = '\\'
    · -- No pair begins with this backslash, so it ends the text and there is no colon after it.
      rw [eq_nil_of_no_pair noPair noEscape] at ih ⊢
      refine iff_of_false nofun ?_
      rintro ⟨whole, -, -⟩
      rcases head with _ | ⟨first, head⟩
      · exact noColon (List.cons.inj whole).1
      · simp at whole
    · simp only [Option.map_eq_some_iff, Prod.mk.injEq, Prod.exists]
      constructor
      · rintro ⟨head, payload, found, rfl, rfl⟩
        obtain ⟨rfl, plain, escaped⟩ := ih.mp found
        exact ⟨rfl, (not_congr (escapes_cons_iff noEscape)).mpr plain,
          (colonsEscaped_cons_iff noColon noEscape).mpr escaped⟩
      · rintro ⟨whole, plain, escaped⟩
        cases head with
        | nil => exact absurd (List.cons.inj whole).1 noColon
        | cons first head =>
          obtain ⟨rfl, remaining⟩ := List.cons.inj whole
          exact ⟨head, payload, ih.mpr ⟨remaining, (not_congr (escapes_cons_iff noEscape)).mp plain,
            (colonsEscaped_cons_iff noColon noEscape).mp escaped⟩, rfl, rfl⟩

/-- There is no split exactly when every colon is escaped. -/
theorem splitColon?_eq_none_iff {text : List Char} :
    splitColon? text = none ↔ ColonsEscaped text := by
  fun_induction splitColon? text with
  | case1 => exact iff_of_true rfl fun before after whole => by simp at whole
  | case2 rest => exact iff_of_false nofun fun escaped => absurd (escaped [] rest rfl) (by decide)
  | case3 c rest ih => rw [Option.map_eq_none_iff, ih, colonsEscaped_pair_iff]
  | case4 c rest noColon noPair ih =>
    by_cases noEscape : c = '\\'
    · rw [eq_nil_of_no_pair noPair noEscape]
      refine iff_of_true rfl ?_
      rintro (_ | ⟨first, before⟩) after whole
      · exact absurd (List.cons.inj whole).1 noColon
      · simp at whole
    · rw [Option.map_eq_none_iff, ih, colonsEscaped_cons_iff noColon noEscape]

/-- The first colon splits a text when no backslash stands before it. -/
theorem isColonSplit_of_plain {head payload : List Char}
    (plain : ∀ c ∈ head, c ≠ ':' ∧ c ≠ '\\') :
    IsColonSplit (head ++ ':' :: payload) head payload := by
  refine ⟨rfl, ?_, ?_⟩
  · induction head with
    | nil => decide
    | cons c head ih =>
      rw [escapes_cons_iff (plain c List.mem_cons_self).2]
      exact ih fun d member => plain d (List.mem_cons_of_mem _ member)
  · rintro before after rfl
    exact absurd rfl (plain ':' (by simp)).1

section Separator

variable {text source head payload : List Char} {kind : Kind} {error : TagError}

/-- A text has at most one split. -/
theorem IsColonSplit.unique {other rest : List Char} (split : IsColonSplit text head payload)
    (again : IsColonSplit text other rest) : other = head ∧ rest = payload := by
  have found := splitColon?_eq_some_iff.mpr split
  rw [splitColon?_eq_some_iff.mpr again] at found
  simpa using found

/-- A text can be split at a colon unless every colon of it is escaped. -/
theorem exists_isColonSplit_iff :
    (∃ head payload, IsColonSplit text head payload) ↔ ¬ ColonsEscaped text := by
  rw [← splitColon?_eq_none_iff, ← ne_eq, Option.ne_none_iff_exists']
  simp only [← splitColon?_eq_some_iff, Prod.exists]

private theorem eq_error_of_map {α β : Type} {answer : Except TagError α} {f : α → β}
    (refused : answer.map f = .error error) : answer = .error error := by
  cases answer with
  | ok value => cases refused
  | error other => exact congrArg Except.error (Except.error.inj refused)

/-- Letters are refused as modifiers only for an option that the kind does not have. -/
theorem eq_unknownOption_of_readModifiers {letters : List Char}
    (refused : readModifiers kind letters = .error error) :
    ∃ option, error = .unknownOption option kind := by
  induction letters with
  | nil => cases refused
  | cons letter letters ih =>
    simp only [readModifiers] at refused
    split at refused
    · exact ih (eq_error_of_map refused)
    · cases refused
      exact ⟨_, rfl⟩

/-- A head is never refused for the colon after it. -/
theorem readHead_ne_missingSeparator {other : List Char} :
    readHead source head ≠ .error (.malformed other .missingSeparator) := by
  intro refused
  unfold readHead at refused
  split at refused
  · cases refused
  · split at refused
    · cases refused
    · obtain ⟨option, unknown⟩ := eq_unknownOption_of_readModifiers (eq_error_of_map refused)
      cases unknown

/-- Reading misses the colon exactly when the text between the braces cannot be split. -/
theorem read_eq_missingSeparator_iff :
    read source = .error (.malformed source .missingSeparator) ↔
      splitColon? (inner source) = none := by
  constructor
  · intro refused
    cases split : splitColon? (inner source) with
    | none => rfl
    | some parts =>
      obtain ⟨head, rest⟩ := parts
      cases outcome : readHead source head with
      | error error =>
        simp only [read, split, outcome, Except.error.injEq] at refused
        exact absurd (refused ▸ outcome) readHead_ne_missingSeparator
      | ok described =>
        simp only [read, split, outcome] at refused
        split at refused <;> cases refused
  · intro missing
    rw [read, missing]

end Separator

/-- A text is split at its colon that is not escaped and has only escaped ones before it. There is at most
one such colon, and a tag is refused for a missing one exactly when its text has none. -/
theorem splitColon?_finds_unique_split (text : List Char) :
    (∀ head payload, splitColon? text = some (head, payload) ↔ IsColonSplit text head payload) ∧
      (∀ head payload other rest, IsColonSplit text head payload → IsColonSplit text other rest →
        other = head ∧ rest = payload) ∧
      (splitColon? text = none ↔ ¬ ∃ head payload, IsColonSplit text head payload) ∧
      ∀ source, inner source = text →
        (read source = .error (.malformed source .missingSeparator) ↔
          ¬ ∃ head payload, IsColonSplit text head payload) := by
  have missing : splitColon? text = none ↔ ¬ ∃ head payload, IsColonSplit text head payload := by
    rw [splitColon?_eq_none_iff, exists_isColonSplit_iff, Classical.not_not]
  refine ⟨fun head payload => splitColon?_eq_some_iff,
    fun head payload other rest split again => split.unique again, missing, ?_⟩
  rintro source rfl
  rw [read_eq_missingSeparator_iff, missing]

/-- One backslash escapes the first colon and two leave the second one plain. A text with one escaped
colon and a backslash at its end has no split. -/
theorem splitColon?_finds_unique_split_backslashes :
    IsColonSplit "N\\:x\\\\:y:z".toList "N\\:x\\\\".toList "y:z".toList ∧
      (∀ other rest, IsColonSplit "N\\:x\\\\:y:z".toList other rest →
        other = "N\\:x\\\\".toList ∧ rest = "y:z".toList) ∧
      inner "\x7b\x7bN\\:x\\\x7d\x7d".toList = "N\\:x\\".toList ∧
      read "\x7b\x7bN\\:x\\\x7d\x7d".toList =
        .error (.malformed "\x7b\x7bN\\:x\\\x7d\x7d".toList .missingSeparator) ∧
      ¬ ∃ head payload, IsColonSplit "N\\:x\\".toList head payload := by
  have split : IsColonSplit "N\\:x\\\\:y:z".toList "N\\:x\\\\".toList "y:z".toList :=
    ((splitColon?_finds_unique_split _).1 _ _).mp (by decide)
  have body : inner "\x7b\x7bN\\:x\\\x7d\x7d".toList = "N\\:x\\".toList := by decide
  have bare : ¬ ∃ head payload, IsColonSplit "N\\:x\\".toList head payload :=
    (splitColon?_finds_unique_split _).2.2.1.mp (by decide)
  exact ⟨split, fun other rest => (splitColon?_finds_unique_split _).2.1 _ _ other rest split, body,
    ((splitColon?_finds_unique_split _).2.2.2 _ body).mpr bare, bare⟩

end Tag

end Inflection
