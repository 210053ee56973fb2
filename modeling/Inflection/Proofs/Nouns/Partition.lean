import Inflection.Proofs.Nouns.Form

/-! # Singular and plural nouns

Every word of lower-case letters counts as a singular or as a plural noun: of the two tables, at most
one changes it. The words that neither of them changes are few, and they are listed here.
-/

namespace Inflection.Nouns

def alikeWords : List String :=
  ["is", "this", "his", "was", "has", "yes"]

/-- Whether a noun of lower-case letters has one form for both numbers. -/
def IsAlike (word : List Char) : Prop :=
  isUncountable word = true ∨ (∃ s ∈ alikeWords, word = s.toList) ∨ "tennis".toList <:+ word ∨
    "tis".toList <:+ word ∧ word ≠ "testis".toList

/-- The words other than those with one form that both tables keep, in a form that a survey can go
through. -/
def alike : Description :=
  .or (.isOneOf alikeWords) <| .or (.endsInOneOf ["tennis"]) <|
    .butNot (.endsInOneOf ["tis"]) (.isOneOf ["testis"])

/-- What has to be known of a word: it is fixed, both tables keep it if it is alike, or else exactly
one of them keeps it. -/
def isPartitioned (fixed alike : Bool) (singular plural : Edit) (known : Known) : Bool :=
  if fixed then true
  else if alike then known.keptBy singular && known.keptBy plural
  else known == .ended || known.keptBy singular && known.changedBy plural ||
    known.keptBy plural && known.changedBy singular

def surveyBoth : Bool :=
  (Description.isOneOf uncountables).survey .letters (fun fixed =>
    alike.survey .letters fun alike => singulars.survey .letters fun singular =>
      plurals.survey .letters (isPartitioned fixed alike singular))
    .unknown

private theorem surveyBoth_checked : (alike.isSpelt && surveyBoth) = true := by
  decide +kernel

variable {word : List Char}

private theorem fits_alike_iff : isUncountable word = true ∨ alike.Fits word ↔ IsAlike word := by
  simp [alike, Description.Fits, IsAlike]

private theorem exists_partitioned (lower : ∀ c ∈ word, c.isLower = true) :
    ∃ (known : Known) (alike : Bool), known.Covers .letters word.reverse ∧
      (isUncountable word = true ∨ alike = true ↔ IsAlike word) ∧
      isPartitioned (isUncountable word) alike (singulars.edit word) (plurals.edit word) known =
        true := by
  have checked := surveyBoth_checked
  rw [Bool.and_eq_true] at checked
  obtain ⟨sorted, coversSorted, surveyed⟩ :=
    of_survey_uncountables lower (Known.covers_unknown_of_isLower lower) checked.2
  obtain ⟨asked, alike, coversAsked, told, surveyed⟩ :=
    Description.of_survey checked.1 lower coversSorted surveyed
  obtain ⟨inSingular, coversSingular, surveyed⟩ := Table.of_survey coversAsked surveyed
  obtain ⟨known, covers, surveyed⟩ := Table.of_survey coversSingular surveyed
  exact ⟨known, alike, covers, (or_congr_right told).trans fits_alike_iff, surveyed⟩

private theorem form_cases (present : word ≠ []) (lower : ∀ c ∈ word, c.isLower = true) :
    IsAlike word ∧ (∀ number, form number word = word) ∨
      ¬IsAlike word ∧ (form .singular word = word ∧ form .plural word ≠ word ∨
        form .plural word = word ∧ form .singular word ≠ word) := by
  obtain ⟨known, alike, covers, isAlike, checked⟩ := exists_partitioned lower
  cases fixed : isUncountable word with
  | true =>
    refine .inl ⟨isAlike.mp (.inl fixed), fun number => ?_⟩
    exact (form_eq_self_iff_of_isLower present lower).mpr (.inl fixed)
  | false =>
    have form_iff : ∀ number, form number word = word ↔ (table number).apply word = word := by
      intro number
      rw [form_eq_self_iff_of_isLower present lower, or_iff_right (by simp [fixed])]
    have keeps : ∀ number, known.keptBy ((table number).edit word) = true →
        form number word = word := by
      intro number kept
      rw [form_iff, apply_table]
      exact Known.apply_eq_of_keptBy covers lower kept
    have changes : ∀ number, known.changedBy ((table number).edit word) = true →
        form number word ≠ word := by
      intro number changed
      rw [Ne, form_iff, apply_table]
      exact Known.apply_ne_of_changedBy covers changed
    rw [fixed, or_iff_right Bool.false_ne_true] at isAlike
    rw [fixed, isPartitioned, if_neg Bool.false_ne_true] at checked
    cases same : alike with
    | true =>
      rw [same, if_pos rfl, Bool.and_eq_true] at checked
      refine .inl ⟨isAlike.mp same, fun number => ?_⟩
      cases number with
      | singular => exact keeps .singular checked.1
      | plural => exact keeps .plural checked.2
    | false =>
      rw [same, if_neg Bool.false_ne_true] at checked
      simp only [Bool.or_eq_true, Bool.and_eq_true, beq_iff_eq] at checked
      refine .inr ⟨fun holds => by simp [isAlike.mpr holds] at same, ?_⟩
      rcases checked with (ended | singular) | plural
      · -- Of the word without letters, the survey knows that it has ended.
        rw [ended] at covers
        exact absurd (List.reverse_eq_nil_iff.mp covers) present
      · exact .inl ⟨keeps .singular singular.1, changes .plural singular.2⟩
      · exact .inr ⟨keeps .plural plural.1, changes .singular plural.2⟩

/-- At most one table changes a noun of lower-case letters, and neither does if the noun is alike in
both numbers. -/
theorem isSingular_or_isPlural (present : word ≠ []) (lower : ∀ c ∈ word, c.isLower = true) :
    (isSingular word = true ∨ isPlural word = true) ∧
      (isSingular word = true ∧ isPlural word = true ↔ IsAlike word) ∧
      (singularize word = pluralize word ↔ IsAlike word) := by
  have visible : Text.isBlankText word = false := by
    rw [Text.isBlankText, List.all_eq_false]
    exact ⟨word.getLast present, List.getLast_mem present, by
      simp [Text.isBlank_of_isLower (lower _ (List.getLast_mem present))]⟩
  simp only [isSingular, isPlural, isInForm, visible, Bool.not_false, Bool.true_and, beq_iff_eq,
    singularize, pluralize]
  obtain ⟨alike, kept⟩ | ⟨apart, ⟨kept, changed⟩ | ⟨kept, changed⟩⟩ := form_cases present lower
  · simp [alike, kept]
  · simp [apart, kept, changed, changed.symm]
  · simp [apart, kept, changed]

theorem isSingular_or_isPlural_tennis :
    "tennis".toList ≠ [] ∧ (∀ c ∈ "tennis".toList, c.isLower = true) ∧
      (isSingular "tennis".toList = true ∨ isPlural "tennis".toList = true) ∧
      singularize "tennis".toList = pluralize "tennis".toList :=
  have lower : ∀ c ∈ "tennis".toList, c.isLower = true := by simp
  have classified := isSingular_or_isPlural (by decide) lower
  ⟨by decide, lower, classified.1,
    classified.2.2.mpr (.inr (.inr (.inl (List.suffix_refl "tennis".toList))))⟩

end Inflection.Nouns
