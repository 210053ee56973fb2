import Inflection.Proofs.Text.Trim
import Inflection.Settings.Dotenv
import Mathlib.Data.List.SplitBy

/-! # Reading environment files

What the lines of an environment file may look like is given as a relation, line by line: nothing but
blanks, a comment, or an assignment, with its value as it is or in quotes. The reader finds in a file of
such lines the assignments that they stand for, in their order.
-/

namespace Inflection.Dotenv

open Text (isBlank stem)

def isLineEnd (c : Char) : Bool :=
  c == '\n' || c == '\r'

/-- Blanks within a line. -/
def IsGap (text : List Char) : Prop :=
  ∀ c ∈ text, isBlank c = true ∧ isLineEnd c = false

/-- Names on lines: no blank, no equals sign and no comment sign is part of one, and none begins with a
quote. -/
structure IsName (name : List Char) : Prop where
  present : name ≠ []
  plain : ∀ c ∈ name, isBlank c = false ∧ c ≠ '=' ∧ c ≠ '#'
  unquoted : name.head? ≠ some '\''

instance (name : List Char) : Decidable (IsName name) :=
  decidable_of_iff (name ≠ [] ∧ (name.all fun c => !isBlank c && c != '=' && c != '#') = true ∧
      name.head? ≠ some '\'') (by
    rw [List.all_eq_true]
    refine ⟨fun ⟨present, plain, unquoted⟩ => ⟨present, ?_, unquoted⟩,
      fun named => ⟨named.present, ?_, named.unquoted⟩⟩
    · simpa [and_assoc] using plain
    · simpa [and_assoc] using named.plain)

/-- What may stand before a name: the word `export` with blanks after it, or nothing, if the name is not
itself this word with blanks after it. -/
inductive IsLead (name gap : List Char) : List Char → Prop where
  | bare (own : name = "export".toList → gap = []) : IsLead name gap []
  | exported {c : Char} {blanks : List Char} (blank : IsGap (c :: blanks)) :
      IsLead name gap ("export".toList ++ c :: blanks)

/-- How a value is written. As it is, it is on one line, neither begins nor ends with a blank, begins with
no quote and has no comment sign after a blank. In quotes it is on one line and has none of these quotes. -/
inductive IsValue : List Char → List Char → Prop where
  | plain {value : List Char} (line : ∀ c ∈ value, isLineEnd c = false)
      (first : ∀ c, value.head? = some c → isBlank c = false ∧ c ≠ '\'' ∧ c ≠ '"')
      (last : ∀ c, value.getLast? = some c → isBlank c = false)
      (uncommented : value.IsChain fun c d => isBlank c = true → d ≠ '#') : IsValue value value
  | quoted {quote : Char} {value : List Char} (kind : quote = '\'' ∨ quote = '"')
      (line : ∀ c ∈ value, isLineEnd c = false) (inside : quote ∉ value) :
      IsValue (quote :: value ++ [quote]) value

/-- Lines, without the characters that end them, and the assignments that they stand for. -/
inductive IsLine : List Char → Option (List Char × List Char) → Prop where
  | blank {line : List Char} (gap : IsGap line) : IsLine line none
  | comment {indent text : List Char} (gap : IsGap indent) (line : ∀ c ∈ text, isLineEnd c = false) :
      IsLine (indent ++ '#' :: text) none
  | assignment {indent lead name before after shown value last : List Char} (start : IsGap indent)
      (led : IsLead name before lead) (named : IsName name) (gap : IsGap before) (gap' : IsGap after)
      (written : IsValue shown value) (finish : IsGap last) :
      IsLine (indent ++ (lead ++ (name ++ (before ++ '=' :: (after ++ (shown ++ last))))))
        (some (name, value))

/-- Texts of lines, with the assignments on them. The last line may be without a character that ends it. -/
inductive IsFile : List Char → List (List Char × List Char) → Prop where
  | last {line : List Char} {entry : Option (List Char × List Char)} (shape : IsLine line entry) :
      IsFile line entry.toList
  | more {line rest : List Char} {entry : Option (List Char × List Char)} {c : Char}
      {entries : List (List Char × List Char)} (shape : IsLine line entry) (ended : isLineEnd c = true)
      (others : IsFile rest entries) : IsFile (line ++ c :: rest) (entry.toList ++ entries)

variable {c : Char} {text lead name value shown gap before after ending rest : List Char}
  {entry : Option (List Char × List Char)} {entries : List (List Char × List Char)}

section Characters

private theorem isBlank_of_isLineEnd (ended : isLineEnd c = true) : isBlank c = true := by
  rw [isLineEnd, Bool.or_eq_true, beq_iff_eq, beq_iff_eq] at ended
  rcases ended with rfl | rfl
  · decide
  · decide

private theorem isLineEnd_of_not_isBlank (visible : isBlank c = false) : isLineEnd c = false := by
  cases ended : isLineEnd c with
  | false => rfl
  | true => rw [isBlank_of_isLineEnd ended] at visible; contradiction

theorem forall_line (line : text.any isLineEnd = false) : ∀ c ∈ text, isLineEnd c = false := by
  simpa using line

theorem IsGap.blank (blanks : IsGap gap) : ∀ c ∈ gap, isBlank c = true :=
  fun c member => (blanks c member).1

/-- What is taken of a text ends where another kind of character follows. -/
theorem takeWhile_append_eq {p : Char → Bool} (inside : ∀ c ∈ text, p c = true)
    (stop : ∀ c, rest.head? = some c → p c = false) : (text ++ rest).takeWhile p = text := by
  rw [List.takeWhile_append_of_pos inside]
  cases rest with
  | nil => simp
  | cons c rest => rw [List.takeWhile_cons_of_neg (by simp [stop c rfl]), List.append_nil]

/-- Blanks before a text that begins with another character are left out. -/
theorem dropWhile_isBlank_append (blanks : ∀ c ∈ gap, isBlank c = true)
    (first : ∀ c, rest.head? = some c → isBlank c = false) :
    (gap ++ rest).dropWhile isBlank = rest := by
  rw [List.dropWhile_append_of_pos blanks]
  cases rest with
  | nil => rfl
  | cons c rest => rw [List.dropWhile_cons_of_neg (by simp [first c rfl])]

end Characters

section Values

private theorem head?_dropWhile_ne (uncommented : (c :: text).IsChain fun c d => isBlank c = true → d ≠ '#')
    (blank : isBlank c = true) : (text.dropWhile isBlank).head? ≠ some '#' := by
  induction text generalizing c with
  | nil => simp
  | cons d text ih =>
    obtain ⟨unsigned, uncommented⟩ := List.isChain_cons_cons.mp uncommented
    cases other : isBlank d with
    | true =>
      rw [List.dropWhile_cons_of_pos other]
      exact ih uncommented other
    | false =>
      rw [List.dropWhile_cons_of_neg (by simp [other]), List.head?_cons, ne_eq, Option.some.injEq]
      exact unsigned blank

private theorem dropComment_eq_self (uncommented : text.IsChain fun c d => isBlank c = true → d ≠ '#') :
    dropComment text = text := by
  induction text with
  | nil => rfl
  | cons c text ih =>
    have unsigned : ¬(isBlank c && (text.dropWhile isBlank).head? == some '#') = true := by
      rw [Bool.and_eq_true, beq_iff_eq]
      intro ⟨blank, sign⟩
      exact head?_dropWhile_ne uncommented blank sign
    rw [dropComment, if_neg unsigned, ih uncommented.tail]

/-- A value is read as it is meant, whatever blanks are around it. -/
theorem readValue_of_isValue (written : IsValue shown value) (blanks : ∀ c ∈ gap, isBlank c = true)
    (ended : ∀ c ∈ ending, isBlank c = true) : readValue (gap ++ (shown ++ ending)) = value := by
  rw [readValue, List.dropWhile_append_of_pos blanks]
  cases written with
  | plain line first last uncommented =>
    have cut : stem (dropComment (value ++ ending)) = value := by
      rw [dropComment_eq_self, Text.stem_append ended]
      · exact Text.dropEndWhile_eq_self last
      · refine List.isChain_append.mpr ⟨uncommented, ?_, ?_⟩
        · refine List.Pairwise.isChain (List.pairwise_of_forall_mem_list ?_)
          intro c _ d member _ sign
          subst sign
          exact absurd (ended _ member) (by decide)
        · intro c _ d head _ sign
          subst sign
          exact absurd (ended _ (List.mem_of_head? head)) (by decide)
    cases value with
    | nil =>
      rw [List.nil_append, List.dropWhile_eq_nil_iff.mpr ended]
      rfl
    | cons c value =>
      obtain ⟨visible, single, double⟩ := first c rfl
      rw [List.cons_append, List.dropWhile_cons_of_neg (by simp [visible])]
      split
      · next head => exact absurd (List.cons.inj head).1 single
      · next head => exact absurd (List.cons.inj head).1 double
      · exact cut
  | @quoted quote value kind line inside =>
    have taken : (value ++ ([quote] ++ ending)).takeWhile (· != quote) = value := by
      refine takeWhile_append_eq ?_ (by simp)
      intro c member
      rw [bne_iff_ne]
      rintro rfl
      exact inside member
    rw [List.cons_append, List.cons_append, List.append_assoc]
    rcases kind with rfl | rfl
    · rw [List.dropWhile_cons_of_neg (by decide)]
      exact taken
    · rw [List.dropWhile_cons_of_neg (by decide)]
      exact taken

end Values

section Lines

/-- A name begins with neither a blank nor a comment sign. -/
theorem IsName.head (named : IsName name) (text : List Char) :
    ∃ c, (name ++ text).head? = some c ∧ isBlank c = false ∧ c ≠ '#' := by
  obtain ⟨c, others, rfl⟩ := List.exists_cons_of_ne_nil named.present
  obtain ⟨visible, -, unsigned⟩ := named.plain c List.mem_cons_self
  exact ⟨c, rfl, visible, unsigned⟩

/-- The word `export` before a name is left out, and nothing else is. -/
theorem dropExport_of_isLead (led : IsLead name before lead) (named : IsName name) (gap : IsGap before)
    (text : List Char) : dropExport (lead ++ (name ++ (before ++ '=' :: text))) =
      name ++ (before ++ '=' :: text) := by
  cases led with
  | bare own =>
    rw [List.nil_append, dropExport, if_neg]
    rw [Bool.and_eq_true, List.isPrefixOf_iff_prefix]
    rintro ⟨⟨rest, whole⟩, spaced⟩
    rw [← whole] at spaced
    replace spaced : rest.head?.elim false isBlank = true := spaced
    -- Both the word and the name end at the first blank or equals sign, so they are the same.
    have word : name = "export".toList := by
      have first : (("export".toList ++ rest).takeWhile fun c => !isBlank c && c != '=') =
          "export".toList := by
        refine takeWhile_append_eq (List.all_eq_true.mp (by decide)) fun c head => ?_
        rw [head, Option.elim_some] at spaced
        simp [spaced]
      rw [← first, whole]
      refine (takeWhile_append_eq ?_ fun c head => ?_).symm
      · intro c member
        obtain ⟨visible, unequal, -⟩ := named.plain c member
        simp [visible, unequal]
      · cases before with
        | nil => simp [← Option.some.inj head]
        | cons d before => simp [← Option.some.inj head, gap d List.mem_cons_self]
    rw [own word, word, List.nil_append, List.append_cancel_left_eq] at whole
    rw [whole] at spaced
    have equals : isBlank '=' = true := spaced
    exact absurd equals (by decide)
  | @exported c blanks blank =>
    obtain ⟨d, head, visible, -⟩ := named.head (before ++ '=' :: text)
    rw [List.append_assoc, dropExport, if_pos]
    · refine dropWhile_isBlank_append blank.blank ?_
      intro e other
      obtain rfl := Option.some.inj (head.symm.trans other)
      exact visible
    · rw [Bool.and_eq_true, List.isPrefixOf_iff_prefix]
      exact ⟨List.prefix_append _ _, blank.blank c List.mem_cons_self⟩

/-- What leads up to a name begins with neither a blank nor a comment sign. -/
theorem IsLead.head (led : IsLead name before lead) (named : IsName name) (text : List Char) :
    ∃ c, (lead ++ (name ++ text)).head? = some c ∧ isBlank c = false ∧ c ≠ '#' := by
  cases led with
  | bare own => exact named.head text
  | exported blank => exact ⟨'e', rfl, by decide, by decide⟩

/-- A line is read as the assignment that it stands for, with the character that ends it or without it. -/
theorem readLine?_of_isLine (shape : IsLine line entry) (ended : ∀ c ∈ ending, isBlank c = true) :
    readLine? (line ++ ending) = entry := by
  cases shape with
  | blank gap =>
    rw [readLine?, List.dropWhile_eq_nil_iff.mpr]
    · rfl
    · exact List.forall_mem_append.mpr ⟨gap.blank, ended⟩
  | comment gap line =>
    rw [List.append_assoc, readLine?, dropWhile_isBlank_append gap.blank]
    · rfl
    · intro c head
      obtain rfl := Option.some.inj head
      decide
  | @assignment indent lead name before after shown value last start led named gap gap' written finish =>
    obtain ⟨c, head, visible, unsigned⟩ := led.head named (before ++ '=' :: (after ++ (shown ++ (last ++ ending))))
    have noEquals : ∀ c ∈ name ++ before, (c != '=') = true := by
      intro c member
      rw [bne_iff_ne]
      rcases List.mem_append.mp member with member | member
      · exact (named.plain c member).2.1
      · rintro rfl
        exact absurd (gap _ member).1 (by decide)
    have trimmed : stem (name ++ before) = name := by
      rw [Text.stem_append gap.blank]
      exact Text.dropEndWhile_eq_self fun c last => (named.plain c (List.mem_of_getLast? last)).1
    simp only [List.append_assoc, List.cons_append]
    rw [readLine?, dropWhile_isBlank_append start.blank, if_neg]
    · dsimp only
      rw [dropExport_of_isLead led named gap, ← List.append_assoc, List.dropWhile_append_of_pos noEquals,
        List.takeWhile_append_of_pos noEquals, List.dropWhile_cons_of_neg (by decide),
        List.takeWhile_cons_of_neg (by decide), List.append_nil]
      dsimp only
      rw [trimmed, readValue_of_isValue written gap'.blank (List.forall_mem_append.mpr ⟨finish.blank, ended⟩)]
    · rw [head, Option.some.injEq]
      exact unsigned
    · intro d other
      obtain rfl := Option.some.inj (head.symm.trans other)
      exact visible

end Lines

section Files

theorem IsGap.line (blanks : IsGap gap) : ∀ c ∈ gap, isLineEnd c = false :=
  fun c member => (blanks c member).2

theorem IsLead.line (led : IsLead name before lead) : ∀ c ∈ lead, isLineEnd c = false := by
  cases led with
  | bare own => exact List.forall_mem_nil _
  | exported blank => exact List.forall_mem_append.mpr ⟨forall_line (by decide), blank.line⟩

theorem IsName.line (named : IsName name) : ∀ c ∈ name, isLineEnd c = false :=
  fun c member => isLineEnd_of_not_isBlank (named.plain c member).1

theorem IsValue.line (written : IsValue shown value) : ∀ c ∈ shown, isLineEnd c = false := by
  cases written with
  | plain line => exact line
  | quoted kind line inside =>
    rw [List.cons_append, List.forall_mem_cons, List.forall_mem_append, List.forall_mem_singleton]
    rcases kind with rfl | rfl
    · exact ⟨by decide, line, by decide⟩
    · exact ⟨by decide, line, by decide⟩

/-- No line goes on after a character that ends it. -/
theorem IsLine.line (shape : IsLine text entry) : ∀ c ∈ text, isLineEnd c = false := by
  cases shape with
  | blank gap => exact gap.line
  | comment gap line =>
    exact List.forall_mem_append.mpr ⟨gap.line, List.forall_mem_cons.mpr ⟨by decide, line⟩⟩
  | assignment start led named gap gap' written finish =>
    simp only [List.forall_mem_append, List.forall_mem_cons]
    exact ⟨start.line, led.line, named.line, gap.line, by decide, gap'.line, written.line, finish.line⟩

private theorem isInside_eq (c : Char) : (c != '\n' && c != '\r') = !isLineEnd c :=
  (Bool.not_or _ _).symm

private theorem isChain_of_line (line : ∀ c ∈ text, isLineEnd c = false) :
    text.IsChain fun c _ => (c != '\n' && c != '\r') = true := by
  refine (List.pairwise_of_forall_mem_list fun c member d _ => ?_).isChain
  rw [isInside_eq, line c member, Bool.not_false]

private theorem lines_of_line (line : ∀ c ∈ text, isLineEnd c = false) (present : text ≠ []) :
    lines text = [text] :=
  List.splitBy_of_isChain present (isChain_of_line line)

private theorem lines_append_cons (line : ∀ c ∈ text, isLineEnd c = false) (ended : isLineEnd c = true)
    (rest : List Char) : lines (text ++ c :: rest) = (text ++ [c]) :: lines rest := by
  have first : (text ++ [c]).IsChain fun c _ => (c != '\n' && c != '\r') = true := by
    refine List.isChain_append.mpr ⟨isChain_of_line line, List.isChain_singleton c, ?_⟩
    intro d last _ _
    rw [isInside_eq, line d (List.mem_of_getLast? last), Bool.not_false]
  have apart : ∀ d ∈ (text ++ [c]).getLast?, ∀ e ∈ rest.head?, (d != '\n' && d != '\r') = false := by
    intro d last _ _
    rw [List.getLast?_concat, Option.mem_some_iff] at last
    rw [← last, isInside_eq, ended, Bool.not_true]
  rw [← List.singleton_append, ← List.append_assoc, lines, List.splitBy_append apart,
    List.splitBy_of_isChain (by simp) first]
  rfl

/-- The reader finds the assignments of a file, in their order. -/
theorem filterMap_readLine? (file : IsFile text entries) :
    (lines text).filterMap readLine? = entries := by
  induction file with
  | @last text entry shape =>
    have read : readLine? text = entry := by
      rw [← List.append_nil text]
      exact readLine?_of_isLine shape (List.forall_mem_nil _)
    cases text with
    | nil =>
      rw [← read]
      rfl
    | cons c text =>
      rw [lines_of_line shape.line (List.cons_ne_nil c text), List.filterMap_cons, read]
      cases entry with
      | none => rfl
      | some entry => rfl
  | @more text rest entry c entries shape ended others ih =>
    have read : readLine? (text ++ [c]) = entry :=
      readLine?_of_isLine shape (List.forall_mem_singleton.mpr (isBlank_of_isLineEnd ended))
    rw [lines_append_cons shape.line ended, List.filterMap_cons, read, ih]
    cases entry with
    | none => rfl
    | some entry => rfl

end Files

end Inflection.Dotenv
