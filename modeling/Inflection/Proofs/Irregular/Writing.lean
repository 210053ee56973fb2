import Inflection.Proofs.Irregular.Table
import Inflection.Proofs.Pattern.Escaping
import Inflection.Proofs.Pattern.Sequence
import Inflection.Rule.Reader

/-! # Irregular pairs in writing

Rules for irregular pairs can be written as patterns of their escaped forms. What is read matches in the
same ways as the patterns of the pairs, so the rules do to every word what the rules of the pairs do.
-/

namespace Inflection

namespace Pattern

section Written

variable {letters : List Char}

private theorem length_le_length_escape (letters : List Char) :
    letters.length ≤ (escape letters).length := by
  induction letters with
  | nil => exact Nat.le_refl 0
  | cons c letters ih =>
    have one : 1 ≤ (escapeChar c).length := by
      rw [escapeChar]
      split <;> simp
    rw [escape, List.flatMap_cons, ← escape, List.length_append, List.length_cons]
    omega

private theorem captures_inSequence_cons (item : Pattern) (items : List Pattern) :
    (inSequence (item :: items)).captures = item.captures + (inSequence items).captures := by
  rw [inSequence, List.foldr_cons, ← inSequence]
  split
  · next nothing =>
    rw [nothing]
    rfl
  · rfl

private theorem captures_inSequence_chars (letters : List Char) (items : List Pattern) :
    (inSequence (letters.map char ++ items)).captures = (inSequence items).captures := by
  induction letters with
  | nil => rfl
  | cons c letters ih =>
    rw [List.map_cons, List.cons_append, captures_inSequence_cons, ih]
    exact Nat.zero_add _

/-- What is read of a form that is written as a whole word. -/
theorem exists_read?_whole (letters : List Char) :
    ∃ p, read? ('^' :: escape letters ++ "\\Z".toList) = some p ∧ p.captures = 0 ∧
      p.outcomes = (start ++ ofChars letters ++ stop).outcomes := by
  have row : Reads (2 + letters.length + 1) ('^' :: escape letters ++ "\\Z".toList)
      (start :: (letters.map char ++ [stop])) [] :=
    (reads_stop.escape (by decide) letters).start (head?_escape_append rfl (by decide) (by decide))
  have enough : 2 + letters.length + 1 ≤ 3 * ('^' :: escape letters ++ "\\Z".toList).length + 2 := by
    have bound := length_le_length_escape letters
    simp only [List.length_append, List.length_cons]
    omega
  refine ⟨_, read?_of_reads row enough, ?_, ?_⟩
  · rw [captures_inSequence_cons, captures_inSequence_chars]
    rfl
  · rw [outcomes_inSequence_cons, outcomes_inSequence_append, outcomes_inSequence_chars,
      outcomes_inSequence_cons, outcomes_inSequence_nil, followed_empty, outcomes_append_eq,
      outcomes_append_eq, followed_assoc]

/-- What is read of a form whose first character is captured. -/
theorem exists_read?_captured (s : Char) (letters : List Char) :
    ∃ p, read? ('^' :: '(' :: escape [s] ++ ')' :: escape letters ++ "\\Z".toList) = some p ∧
      p.captures = 1 ∧
      p.outcomes = (start ++ capture (char s) ++ ofChars letters ++ stop).outcomes := by
  have group : Reads (1 + 1) (escape [s] ++ ')' :: (escape letters ++ "\\Z".toList)) ([s].map char ++ [])
      (')' :: (escape letters ++ "\\Z".toList)) :=
    (reads_nothing _).escape (by simp) [s]
  have row : Reads (1 + 1 + (2 + letters.length) + 3 + 1)
      ('^' :: '(' :: escape [s] ++ ')' :: escape letters ++ "\\Z".toList)
      (start :: capture (char s) :: (letters.map char ++ [stop])) [] := by
    have single : inSequence [char s] = char s := rfl
    simpa [single] using (group.group (head?_escape_append rfl (by decide) (by simp))
      (reads_stop.escape (by decide) letters)
      (head?_escape_append rfl (by decide) (by decide))).start (by simp)
  have enough : 1 + 1 + (2 + letters.length) + 3 + 1 ≤
      3 * ('^' :: '(' :: escape [s] ++ ')' :: escape letters ++ "\\Z".toList).length + 2 := by
    have bound := length_le_length_escape letters
    simp only [List.length_append, List.length_cons]
    omega
  refine ⟨_, read?_of_reads row enough, ?_, ?_⟩
  · rw [captures_inSequence_cons, captures_inSequence_cons, captures_inSequence_chars]
    rfl
  · simp only [outcomes_inSequence_cons, outcomes_inSequence_append, outcomes_inSequence_chars,
      outcomes_inSequence_nil, followed_empty, outcomes_append_eq, followed_assoc]

/-- What is read of a form that is kept as a whole word. -/
theorem exists_read?_kept (letters : List Char) :
    ∃ p, read? (Rule.keepPattern ('^' :: escape letters)) = some p ∧ p.captures = 1 ∧
      p.outcomes = (capture (start ++ ofChars letters) ++ stop).outcomes := by
  have inner : Reads (1 + letters.length + 1) ('^' :: (escape letters ++ ")\\Z".toList))
      (start :: (letters.map char ++ [])) (")\\Z".toList) :=
    ((reads_nothing _).escape (by decide) letters).start (head?_escape_append rfl (by decide) (by decide))
  have row : Reads (1 + letters.length + 1 + 2 + 3) (Rule.keepPattern ('^' :: escape letters))
      [capture (inSequence (start :: letters.map char)), stop] [] := by
    simpa [Rule.keepPattern] using inner.group (by simp) reads_stop (by decide)
  have enough : 1 + letters.length + 1 + 2 + 3 ≤
      3 * (Rule.keepPattern ('^' :: escape letters)).length + 2 := by
    have bound := length_le_length_escape letters
    simp only [Rule.keepPattern, List.length_append, List.length_cons]
    omega
  refine ⟨_, read?_of_reads row enough, ?_, ?_⟩
  · have plain := captures_inSequence_chars letters []
    rw [List.append_nil] at plain
    rw [captures_inSequence_cons, captures, captures_inSequence_cons, plain]
    rfl
  · have inside : (inSequence (start :: letters.map char)).outcomes =
        (start ++ ofChars letters).outcomes := by
      rw [outcomes_inSequence_cons, outcomes_inSequence_chars, outcomes_append_eq]
    have captured : (capture (inSequence (start :: letters.map char))).outcomes =
        (capture (start ++ ofChars letters)).outcomes := by
      funext before text
      rw [outcomes, outcomes, inside]
    rw [outcomes_inSequence_cons, captured, outcomes_inSequence_cons, outcomes_inSequence_nil,
      followed_empty, outcomes_append_eq]

end Written

end Pattern

/-- The entries in writing for a pair of forms: a rule that leads from the source form to the target form,
and one that keeps the target form. -/
def irregularEntries (source target : List Char) : List RuleEntry :=
  [if source.head?.map Text.lower = target.head?.map Text.lower then
      .replace ('^' :: '(' :: Pattern.escape (source.take 1) ++ ')' :: Pattern.escape (source.drop 1) ++
        "\\Z".toList) (target.drop 1)
    else .replace ('^' :: Pattern.escape source ++ "\\Z".toList) target,
    .keep ('^' :: Pattern.escape target)]

/-- Whether two rules do the same to every word. -/
structure Rule.Alike (first second : Rule) : Prop where
  outcomes_eq : first.pattern.outcomes = second.pattern.outcomes
  replacement_eq : first.replacement = second.replacement

/-- Rules that are alike have the same match in a word. -/
theorem Rule.Alike.match?_eq {first second : Rule} (alike : first.Alike second) (word : List Char) :
    first.match? word = second.match? word := by
  have search : ∀ before text, first.pattern.findFrom? before text = second.pattern.findFrom? before text := by
    intro before text
    induction text generalizing before with
    | nil => rw [Pattern.findFrom?, Pattern.findFrom?, alike.outcomes_eq]
    | cons c text ih => rw [Pattern.findFrom?, Pattern.findFrom?, alike.outcomes_eq, ih]
  rw [match?, match?, Pattern.find?, Pattern.find?, search]

/-- A pattern in writing makes a rule if it captures one part at most. -/
theorem Rule.read_of_read? {text replacement : List Char} {p : Pattern} (read : Pattern.read? text = some p)
    (single : p.captures ≤ 1) : Rule.read text replacement = .ok ⟨p, replacement⟩ := by
  rw [Rule.read, read]
  exact if_pos single

private theorem mapM_rules_of_read {text replacement pattern : List Char} {rule kept : Rule}
    (read : Rule.read text replacement = .ok rule)
    (keptRead : Rule.read (Rule.keepPattern pattern) [] = .ok kept) :
    [.replace text replacement, .keep pattern].mapM RuleEntry.rules = .ok [[rule], [kept]] := by
  rw [List.mapM_cons, List.mapM_cons, List.mapM_nil, RuleEntry.rules, RuleEntry.rules, read, keptRead]
  rfl

/-- The rules that are read for a pair do what the rules of the pair do. -/
theorem exists_rules_irregularEntries (s t : Char) (source target : List Char) :
    ∃ rule kept,
      (irregularEntries (s :: source) (t :: target)).mapM RuleEntry.rules = .ok [[rule], [kept]] ∧
        rule.Alike (irregularRule s t source target) ∧
        kept.Alike (.keep (.start ++ .ofChars (t :: target))) := by
  obtain ⟨kept, keptRead, keptCaptures, keptWays⟩ := Pattern.exists_read?_kept (t :: target)
  have keptRule : Rule.read (Rule.keepPattern ('^' :: Pattern.escape (t :: target))) [] = .ok ⟨kept, []⟩ :=
    Rule.read_of_read? keptRead keptCaptures.le
  by_cases shared : Text.lower s = Text.lower t
  · obtain ⟨p, read, captures, ways⟩ := Pattern.exists_read?_captured s source
    refine ⟨⟨p, target⟩, ⟨kept, []⟩, ?_, ⟨?_, ?_⟩, ⟨keptWays, rfl⟩⟩
    · rw [irregularEntries, if_pos (by simpa using shared)]
      exact mapM_rules_of_read (Rule.read_of_read? read captures.le) keptRule
    · rw [irregularRule, if_pos shared, ways]
    · rw [irregularRule, if_pos shared]
  · obtain ⟨p, read, captures, ways⟩ := Pattern.exists_read?_whole (s :: source)
    refine ⟨⟨p, t :: target⟩, ⟨kept, []⟩, ?_, ⟨?_, ?_⟩, ⟨keptWays, rfl⟩⟩
    · rw [irregularEntries, if_neg (by simpa using shared)]
      exact mapM_rules_of_read (Rule.read_of_read? read (captures.le.trans (Nat.zero_le 1))) keptRule
    · rw [irregularRule, if_neg shared, ways]
    · rw [irregularRule, if_neg shared]

section Tables

variable {direction : Direction} {pairs : List (List Char × List Char)} {rules written : List Rule}
  {name : List Char}

def writtenPairs (direction : Direction) (pairs : List (List Char × List Char)) : List RuleEntry :=
  pairs.flatMap fun pair => irregularEntries (direction.orient pair).1 (direction.orient pair).2

/-- Pairs in writing are read as rules that do what the rules of the pairs do. -/
theorem exists_alike_of_writtenPairs (built : irregulars? direction pairs = some rules) :
    ∃ read, (writtenPairs direction pairs).mapM RuleEntry.rules = .ok read ∧
      List.Forall₂ Rule.Alike read.flatten rules := by
  induction pairs generalizing rules with
  | nil =>
    obtain rfl := Option.some.inj built
    exact ⟨[], rfl, .nil⟩
  | cons pair pairs ih =>
    rw [irregulars?_cons, Option.bind_eq_some_iff] at built
    obtain ⟨own, ownBuilt, built⟩ := built
    obtain ⟨others, othersBuilt, rfl⟩ := Option.map_eq_some_iff.mp built
    obtain ⟨read, readPairs, alike⟩ := ih othersBuilt
    rw [writtenPairs, List.flatMap_cons, ← writtenPairs, List.mapM_append, readPairs]
    generalize direction.orient pair = oriented at ownBuilt
    obtain ⟨_ | ⟨s, source⟩, _ | ⟨t, target⟩⟩ := oriented <;> cases ownBuilt
    obtain ⟨rule, kept, readPair, ruleAlike, keptAlike⟩ := exists_rules_irregularEntries s t source target
    rw [readPair]
    exact ⟨_, rfl, .cons ruleAlike (.cons keptAlike alike)⟩

/-- Of rules that do the same one by one, the ones at the same place apply first, and give the same. -/
theorem firstFrom?_eq_of_alike (alike : List.Forall₂ Rule.Alike written rules) (word : List Char)
    (index : Nat) :
    (Table.firstFrom? word index written).map (fun found => (found.index, found.result)) =
      (Table.firstFrom? word index rules).map fun found => (found.index, found.result) := by
  induction alike generalizing index with
  | nil => rfl
  | @cons first second written rules same _ ih =>
    rw [Table.firstFrom?, Table.firstFrom?, same.match?_eq]
    cases second.match? word with
    | none => exact ih (index + 1)
    | some parts => simp [Application.result, Rule.build, same.replacement_eq]

/-- The table that is read for pairs in writing does to every word what the table of the pairs does, by
the rule at the same place. -/
theorem exists_table_writtenPairs (name : List Char) (built : irregulars? direction pairs = some rules) :
    ∃ table, Table.ofEntries name (writtenPairs direction pairs) = .ok table ∧
      ∀ word, table.apply word = (Table.mk name rules).apply word ∧
        (table.first? word).map Application.index =
          ((Table.mk name rules).first? word).map Application.index := by
  obtain ⟨read, readPairs, alike⟩ := exists_alike_of_writtenPairs built
  refine ⟨⟨name, read.flatten⟩, ?_, fun word => ?_⟩
  · rw [Table.ofEntries, readPairs]
    rfl
  · have first := firstFrom?_eq_of_alike alike word 0
    have results := congrArg (Option.map Prod.snd) first
    have indices := congrArg (Option.map Prod.fst) first
    simp only [Option.map_map, Function.comp_def] at results indices
    have apply_eq (table : Table) :
        table.apply word = ((table.first? word).map Application.result).getD word := by
      rw [Table.apply]
      cases table.first? word <;> rfl
    refine ⟨?_, indices⟩
    rw [apply_eq, apply_eq]
    exact congrArg (·.getD word) results

end Tables

end Inflection
