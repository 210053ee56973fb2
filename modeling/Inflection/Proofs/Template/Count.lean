import Inflection.Proofs.Template.Grammar
import Inflection.Proofs.Template.Segmentation

/-! # What a count does in a template

A template is read without a look at the count, so whether it fails, and with which error, is the same for
all counts. The count has a part only in the texts of tags: in those of verbs and of nouns without a modifier
by whether it is one, in those of counts by its label or its digits, and in those of nouns with a modifier
not at all.
-/

namespace Inflection

variable {tag : Tag} {n m : Nat}

private theorem Number.ofCount_congr (same : n = 1 ↔ m = 1) : ofCount n = ofCount m := by
  simp only [ofCount, same]

namespace Tag

variable {kind : Kind} {text : List Char} {options : List (List Char)}

/-- Modifiers in writing are modifiers that the kind accepts. -/
theorem IsModifiers.accepted (written : IsModifiers kind text options) :
    ∀ option ∈ options, option ∈ kind.modifiers := by
  induction written with
  | nil => simp
  | space _ _ ih => exact ih
  | letter member _ ih => exact List.forall_mem_cons.mpr ⟨(mem_modifierLetters_iff.mp member).1, ih⟩

/-- The modifiers of a tag that has been read are among those of its kind. -/
theorem accepted_of_read (body : List Char) (read : Tag.read (braced body) = .ok tag) :
    ∀ option ∈ tag.modifiers, option ∈ tag.kind.modifiers := by
  obtain ⟨other, written⟩ | ⟨error, fault⟩ := isBody_or_hasFault body
  · obtain rfl := Except.ok.inj ((read_of_isBody written).symm.trans read)
    obtain ⟨_, _, _, head, _⟩ := written.parts
    obtain ⟨_, _, _, _, _, _, options⟩ := head.parts
    exact options.accepted
  · exact nomatch (read_of_hasFault fault).symm.trans read

/-- A noun with a modifier has the number that the modifier forces on it. -/
theorem render_of_noun_with_modifier (noun : tag.kind = .noun) (present : tag.modifiers ≠ [])
    (accepted : ∀ option ∈ tag.modifiers, option ∈ tag.kind.modifiers) (n m : Nat) :
    tag.render n = tag.render m := by
  obtain ⟨option, options, modifiers⟩ := List.exists_cons_of_ne_nil present
  have first : option ∈ Kind.noun.modifiers := noun ▸ accepted option (modifiers ▸ List.mem_cons_self)
  have forced : ∃ number, forcedNumber? tag.modifiers = some number := by
    simp only [Kind.modifiers, List.mem_cons, List.not_mem_nil, or_false] at first
    rw [modifiers]
    rcases first with rfl | rfl
    · exact ⟨.plural, rfl⟩
    · exact ⟨.singular, rfl⟩
  obtain ⟨number, forced⟩ := forced
  rw [render, render, noun]
  simp only [nounNumber, forced, Option.getD_some]

/-- Two counts of one, or two others, render a tag alike unless it shows the count and tells them apart. -/
theorem render_congr (same : n = 1 ↔ m = 1)
    (label : tag.kind = .count → ['f'] ∈ tag.modifiers ∧ fuzzyLabel n = fuzzyLabel m) :
    tag.render n = tag.render m := by
  have number := Number.ofCount_congr same
  rw [render, render]
  cases kind : tag.kind with
  | noun => simp only [nounNumber, number]
  | verb => simp only [Verbs.conjugate, number]
  | count =>
    obtain ⟨fuzzy, labels⟩ := label kind
    simp only [List.contains_iff_mem.mpr fuzzy, if_true, labels]

end Tag

namespace Template

variable {text : List Char} {spans : List Span} {error : TagError}

/-- Rendering spans fails with the error that reading them ends in, for every count. -/
theorem renderSpans_eq_error_iff (count : Nat) :
    renderSpans count spans = .error error ↔ (tagsOfSpans spans).2 = some error := by
  induction spans with
  | nil => simp [renderSpans, tagsOfSpans]
  | cons span spans ih =>
    rw [renderSpans, tagsOfSpans]
    cases span.tag with
    | error _ => simp [bind, Except.bind]
    | ok tag =>
      rw [← ih]
      cases renderSpans count spans with
      | error _ => simp [bind, Except.bind]
      | ok _ => simp [bind, Except.bind, pure, Except.pure]

/-- Spans are rendered alike for two counts if each of their tags is. -/
theorem renderSpans_congr (alike : ∀ tag ∈ (tagsOfSpans spans).1, tag.render n = tag.render m) :
    renderSpans n spans = renderSpans m spans := by
  induction spans with
  | nil => rfl
  | cons span spans ih =>
    rw [tagsOfSpans] at alike
    rw [renderSpans, renderSpans]
    cases read : span.tag with
    | error _ => rfl
    | ok tag =>
      rw [read] at alike
      obtain ⟨own, others⟩ := List.forall_mem_cons.mp alike
      rw [ih others]
      exact congrArg (fun own => do return span.lead ++ own ++ (← renderSpans m spans)) own

private theorem exists_span_of_mem_tagsOfSpans (member : tag ∈ (tagsOfSpans spans).1) :
    ∃ span ∈ spans, span.tag = .ok tag := by
  induction spans with
  | nil => simp [tagsOfSpans] at member
  | cons span spans ih =>
    rw [tagsOfSpans] at member
    cases read : span.tag with
    | error _ => simp [read] at member
    | ok first =>
      rw [read] at member
      rcases List.mem_cons.mp member with rfl | later
      · exact ⟨span, List.mem_cons_self, read⟩
      · obtain ⟨other, otherMember, otherRead⟩ := ih later
        exact ⟨other, List.mem_cons_of_mem _ otherMember, otherRead⟩

/-- The kind of every tag of a template accepts the modifiers of the tag. -/
theorem accepted_of_mem_tags (member : tag ∈ (tags text).1) :
    ∀ option ∈ tag.modifiers, option ∈ tag.kind.modifiers := by
  obtain ⟨span, -, read⟩ := exists_span_of_mem_tagsOfSpans member
  exact Tag.accepted_of_read span.body read

/-- A template fails for a count if reading its tags ends in an error, and fails with that error. -/
theorem renderTemplate_eq_error_iff {error : RequestError} (text : List Char) (n : Nat) :
    renderTemplate text (.int n) = .error error ↔ ∃ fault, (tags text).2 = some fault ∧ error = .tag fault := by
  rw [renderTemplate_ofNat, render, tags]
  cases rendered : renderSpans n (scan text).spans with
  | error fault =>
    rw [renderSpans_eq_error_iff] at rendered
    rw [rendered]
    simp [bind, Except.bind, Except.mapError, eq_comm]
  | ok content =>
    have whole : (tagsOfSpans (scan text).spans).2 = none := by
      rw [Option.eq_none_iff_forall_ne_some]
      intro fault failed
      rw [← renderSpans_eq_error_iff n, rendered] at failed
      cases failed
    rw [whole]
    simp [bind, Except.bind, pure, Except.pure, Except.mapError]

/-- Two counts give the same text if they do so in every tag. -/
theorem renderTemplate_congr (alike : ∀ tag ∈ (tags text).1, tag.render n = tag.render m) :
    renderTemplate text (.int n) = renderTemplate text (.int m) := by
  rw [renderTemplate_ofNat, renderTemplate_ofNat, render, render, renderSpans_congr alike]

/-- The count has its influence on a template through the tags only. Whether a template fails, and with which
error, is the same for all counts. The texts for two counts are the same if both are one or neither is, every
tag for the count asks for a label, and both counts have the same label if there is such a tag; and if all
tags are nouns with a modifier, the texts for any two counts are. -/
theorem count_acts_through_tags (text : List Char) (n m : Nat) :
    (∀ error, renderTemplate text (.int n) = .error error ↔ renderTemplate text (.int m) = .error error) ∧
      ((n = 1 ↔ m = 1) → (∀ tag ∈ (tags text).1, tag.kind = .count → ['f'] ∈ tag.modifiers) →
        ((∀ tag ∈ (tags text).1, tag.kind ≠ .count) ∨ fuzzyLabel n = fuzzyLabel m) →
          renderTemplate text (.int n) = renderTemplate text (.int m)) ∧
      ((∀ tag ∈ (tags text).1, tag.kind = .noun ∧ tag.modifiers ≠ []) →
        renderTemplate text (.int n) = renderTemplate text (.int m)) := by
  refine ⟨fun error => ?_, fun same fuzzy label => ?_, fun nouns => ?_⟩
  · rw [renderTemplate_eq_error_iff, renderTemplate_eq_error_iff]
  · refine renderTemplate_congr fun tag member => Tag.render_congr same fun kind => ?_
    exact ⟨fuzzy tag member kind, label.resolve_left fun none => none tag member kind⟩
  · refine renderTemplate_congr fun tag member => ?_
    obtain ⟨noun, present⟩ := nouns tag member
    exact Tag.render_of_noun_with_modifier noun present (accepted_of_mem_tags member) n m

theorem count_acts_through_tags_wolves :
    fuzzyLabel 4 = fuzzyLabel 7 ∧
      renderTemplate "\x7b\x7b# f: n\x7d\x7d \x7b\x7bN: wolf\x7d\x7d".toList (.int (4 : Nat)) =
        renderTemplate "\x7b\x7b# f: n\x7d\x7d \x7b\x7bN: wolf\x7d\x7d".toList (.int (7 : Nat)) ∧
      (∀ tag ∈ (tags "\x7b\x7bN p: wolf\x7d\x7d".toList).1, tag.kind = .noun ∧ tag.modifiers ≠ []) ∧
      renderTemplate "\x7b\x7bN p: wolf\x7d\x7d".toList (.int (1 : Nat)) =
        renderTemplate "\x7b\x7bN p: wolf\x7d\x7d".toList (.int (2 : Nat)) :=
  have label : fuzzyLabel 4 = fuzzyLabel 7 := by decide
  have forced : ∀ tag ∈ (tags "\x7b\x7bN p: wolf\x7d\x7d".toList).1,
      tag.kind = .noun ∧ tag.modifiers ≠ [] := by decide +kernel
  ⟨label, (count_acts_through_tags _ 4 7).2.1 (by decide) (by decide +kernel) (.inr label), forced,
    (count_acts_through_tags _ 1 2).2.2 forced⟩

end Template

end Inflection
