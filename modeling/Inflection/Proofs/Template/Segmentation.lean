import Inflection.Proofs.Text.Numeral
import Inflection.Request

/-! # Segmentations of a template

A text is segmented into spans with their leads and a rest. No opening braces stand in a lead before
those of its span, no closing braces stand in a body before those of its span, and the rest has no
opening braces that are closed. Scanning finds a segmentation, and every text has only one; reading
and rendering the tags of a text follow it span by span.
-/

namespace Inflection

/-- Whether a text holds a doubled brace nowhere but at its end. -/
def DoubledOnlyAtEnd (brace : Char) (text : List Char) : Prop :=
  ∀ before after, text = before ++ brace :: brace :: after → after = []

/-- Whether a text holds opening braces with closing braces somewhere after them. -/
def HoldsSpan (text : List Char) : Prop :=
  ∃ before body after,
    text = before ++ '\x7b' :: '\x7b' :: (body ++ '\x7d' :: '\x7d' :: after)

/-- What it takes for spans and a rest to be a segmentation of a text. -/
structure Template.IsSegmentation (template : Template) (text : List Char) : Prop where
  text_eq : template.text = text
  lead : ∀ span ∈ template.spans, DoubledOnlyAtEnd '\x7b' (span.lead ++ ['\x7b', '\x7b'])
  body : ∀ span ∈ template.spans, DoubledOnlyAtEnd '\x7d' (span.body ++ ['\x7d', '\x7d'])
  rest : ¬ HoldsSpan template.rest

section Doubled

variable {brace c : Char} {text : List Char}

private theorem doubledOnlyAtEnd_pair (brace : Char) : DoubledOnlyAtEnd brace [brace, brace] := by
  intro before after whole
  have lengths := congrArg List.length whole
  simp only [List.length_cons, List.length_nil, List.length_append] at lengths
  exact List.length_eq_zero_iff.mp (by omega)

/-- In front of a text that ends in a doubled brace, a character must not double a brace. -/
theorem doubledOnlyAtEnd_cons_iff :
    DoubledOnlyAtEnd brace (c :: (text ++ [brace, brace])) ↔
      ¬ (c = brace ∧ (text ++ [brace, brace]).head? = some brace) ∧
        DoubledOnlyAtEnd brace (text ++ [brace, brace]) := by
  constructor
  · intro only
    refine ⟨?_, fun before after whole => only (c :: before) after (by simp [whole])⟩
    rintro ⟨rfl, head⟩
    obtain ⟨more, doubled⟩ := List.head?_eq_some_iff.mp head
    have ended : more = [] := only [] more (by simp [doubled])
    have lengths := congrArg List.length doubled
    simp only [List.length_append, List.length_cons, List.length_nil, ended] at lengths
    omega
  · rintro ⟨single, only⟩ before after whole
    cases before with
    | nil =>
      obtain ⟨same, doubled⟩ := List.cons.inj whole
      exact absurd ⟨same, List.head?_eq_some_iff.mpr ⟨after, doubled⟩⟩ single
    | cons first before => exact only before after (List.cons.inj whole).2

private theorem head?_append_pair (lead after : List Char) :
    (lead ++ brace :: brace :: after).head? = (lead ++ [brace, brace]).head? := by
  cases lead <;> rfl

private theorem not_doubled (single : ∀ rest, c = brace → text = brace :: rest → False) :
    ¬ (c = brace ∧ text.head? = some brace) := by
  rintro ⟨same, head⟩
  obtain ⟨rest, doubled⟩ := List.head?_eq_some_iff.mp head
  exact single rest same doubled

end Doubled

namespace Span

/-- A body reaches to the first closing braces, and no others do. -/
theorem splitClosing?_eq_some_iff {text body rest : List Char} :
    splitClosing? text = some (body, rest) ↔
      text = body ++ '\x7d' :: '\x7d' :: rest ∧
        DoubledOnlyAtEnd '\x7d' (body ++ ['\x7d', '\x7d']) := by
  fun_induction splitClosing? text generalizing body with
  | case1 => simp
  | case2 text =>
    constructor
    · rintro ⟨⟩
      exact ⟨rfl, doubledOnlyAtEnd_pair _⟩
    · rintro ⟨whole, only⟩
      cases body with
      | nil => simp_all
      | cons c body =>
        rw [List.cons_append, List.cons.injEq] at whole
        refine absurd ⟨whole.1.symm, ?_⟩ (doubledOnlyAtEnd_cons_iff.mp only).1
        rw [← head?_append_pair body rest, ← whole.2]
        rfl
  | case3 c text single ih =>
    simp only [Option.map_eq_some_iff, Prod.mk.injEq, Prod.exists]
    constructor
    · rintro ⟨body, rest, found, rfl, rfl⟩
      obtain ⟨whole, only⟩ := ih.mp found
      refine ⟨by rw [whole, List.cons_append], doubledOnlyAtEnd_cons_iff.mpr ⟨?_, only⟩⟩
      rw [← head?_append_pair body rest, ← whole]
      exact not_doubled single
    · rintro ⟨whole, only⟩
      cases body with
      | nil =>
        obtain ⟨same, doubled⟩ := List.cons.inj whole
        exact (single rest same doubled).elim
      | cons first body =>
        obtain ⟨rfl, remaining⟩ := List.cons.inj whole
        exact ⟨body, rest, ih.mpr ⟨remaining, (doubledOnlyAtEnd_cons_iff.mp only).2⟩, rfl, rfl⟩

/-- No body is found exactly in a text without closing braces. -/
theorem splitClosing?_eq_none_iff {text : List Char} :
    splitClosing? text = none ↔ ∀ body rest, text ≠ body ++ '\x7d' :: '\x7d' :: rest := by
  fun_induction splitClosing? text with
  | case1 => simp
  | case2 text => simpa using ⟨[], text, rfl⟩
  | case3 c text single ih =>
    rw [Option.map_eq_none_iff, ih]
    constructor
    · rintro unclosed (_ | ⟨first, body⟩) rest whole
      · obtain ⟨same, doubled⟩ := List.cons.inj whole
        exact single rest same doubled
      · exact unclosed body rest (List.cons.inj whole).2
    · intro unclosed body rest whole
      exact unclosed (c :: body) rest (by rw [whole, List.cons_append])

/-- The first span begins at the first opening braces and ends at the first closing braces after
them. -/
theorem next?_eq_some_iff {text rest : List Char} {span : Span} :
    next? text = some (span, rest) ↔
      text = span.lead ++ '\x7b' :: '\x7b' :: (span.body ++ '\x7d' :: '\x7d' :: rest) ∧
        DoubledOnlyAtEnd '\x7b' (span.lead ++ ['\x7b', '\x7b']) ∧
        DoubledOnlyAtEnd '\x7d' (span.body ++ ['\x7d', '\x7d']) := by
  fun_induction next? text generalizing span with
  | case1 => simp
  | case2 text =>
    obtain ⟨lead, body⟩ := span
    simp only [Option.map_eq_some_iff, Prod.exists, Prod.mk.injEq, mk.injEq,
      splitClosing?_eq_some_iff]
    constructor
    · rintro ⟨body, rest, ⟨whole, only⟩, ⟨rfl, rfl⟩, rfl⟩
      exact ⟨by rw [whole]; rfl, doubledOnlyAtEnd_pair _, only⟩
    · rintro ⟨whole, leadOnly, bodyOnly⟩
      cases lead with
      | nil =>
        simp only [List.nil_append, List.cons.injEq, true_and] at whole
        exact ⟨body, rest, ⟨whole, bodyOnly⟩, ⟨rfl, rfl⟩, rfl⟩
      | cons c lead =>
        -- The text begins with two braces, so these would be doubled before the end of the lead.
        rw [List.cons_append, List.cons.injEq] at whole
        refine absurd ⟨whole.1.symm, ?_⟩ (doubledOnlyAtEnd_cons_iff.mp leadOnly).1
        rw [← head?_append_pair lead (body ++ '\x7d' :: '\x7d' :: rest), ← whole.2]
        rfl
  | case3 c text single ih =>
    simp only [Option.map_eq_some_iff, Prod.exists, Prod.mk.injEq]
    constructor
    · rintro ⟨span, rest, found, rfl, rfl⟩
      obtain ⟨whole, leadOnly, bodyOnly⟩ := ih.mp found
      refine ⟨by rw [whole, List.cons_append], doubledOnlyAtEnd_cons_iff.mpr ⟨?_, leadOnly⟩,
        bodyOnly⟩
      rw [← head?_append_pair span.lead, ← whole]
      exact not_doubled single
    · rintro ⟨whole, leadOnly, bodyOnly⟩
      obtain ⟨_ | ⟨first, lead⟩, body⟩ := span
      · obtain ⟨same, doubled⟩ := List.cons.inj whole
        exact (single _ same doubled).elim
      · obtain ⟨rfl, remaining⟩ := List.cons.inj whole
        have leadOnly := (doubledOnlyAtEnd_cons_iff.mp leadOnly).2
        exact ⟨⟨lead, body⟩, rest, ih.mpr ⟨remaining, leadOnly, bodyOnly⟩, rfl, rfl⟩

/-- There is no first span exactly when no opening braces are closed. -/
theorem next?_eq_none_iff {text : List Char} : next? text = none ↔ ¬ HoldsSpan text := by
  fun_induction next? text with
  | case1 => simp [HoldsSpan]
  | case2 text =>
    rw [Option.map_eq_none_iff, splitClosing?_eq_none_iff]
    constructor
    · rintro unclosed ⟨before, body, after, whole⟩
      rcases before with _ | ⟨first, _ | ⟨second, before⟩⟩
      · exact unclosed body after (List.cons.inj (List.cons.inj whole).2).2
      · exact unclosed ('\x7b' :: body) after (List.cons.inj (List.cons.inj whole).2).2
      · have remaining := (List.cons.inj (List.cons.inj whole).2).2
        exact unclosed (before ++ '\x7b' :: '\x7b' :: body) after (by simpa using remaining)
    · intro bare body rest whole
      exact bare ⟨[], body, rest, by rw [whole]; rfl⟩
  | case3 c text single ih =>
    rw [Option.map_eq_none_iff, ih]
    refine not_congr ⟨?_, ?_⟩
    · rintro ⟨before, body, after, whole⟩
      exact ⟨c :: before, body, after, by rw [whole, List.cons_append]⟩
    · rintro ⟨_ | ⟨first, before⟩, body, after, whole⟩
      · obtain ⟨same, doubled⟩ := List.cons.inj whole
        exact (single _ same doubled).elim
      · exact ⟨before, body, after, (List.cons.inj whole).2⟩

end Span

namespace Template

/-- A text is segmented without spans exactly when it has no first span. -/
theorem isSegmentation_nil_iff {text rest : List Char} :
    (⟨[], rest⟩ : Template).IsSegmentation text ↔ Span.next? text = none ∧ rest = text := by
  rw [Span.next?_eq_none_iff]
  constructor
  · rintro ⟨whole, -, -, bare⟩
    obtain rfl : rest = text := whole
    exact ⟨bare, rfl⟩
  · rintro ⟨bare, rfl⟩
    exact ⟨rfl, by simp, by simp, bare⟩

/-- A segmentation begins with the first span, and its other spans segment what follows. -/
theorem isSegmentation_cons_iff {text rest : List Char} {span : Span} {spans : List Span} :
    (⟨span :: spans, rest⟩ : Template).IsSegmentation text ↔
      ∃ following, Span.next? text = some (span, following) ∧
        (⟨spans, rest⟩ : Template).IsSegmentation following := by
  simp only [Span.next?_eq_some_iff]
  constructor
  · rintro ⟨whole, lead, body, bare⟩
    refine ⟨(⟨spans, rest⟩ : Template).text, ⟨?_, lead span List.mem_cons_self,
      body span List.mem_cons_self⟩, ⟨rfl, fun other member => lead other ?_,
      fun other member => body other ?_, bare⟩⟩
    · rw [← whole]
      simp [Template.text, Span.source]
    · exact List.mem_cons_of_mem _ member
    · exact List.mem_cons_of_mem _ member
  · rintro ⟨following, ⟨whole, spanLead, spanBody⟩, ⟨rfl, lead, body, bare⟩⟩
    refine ⟨?_, ?_, ?_, bare⟩
    · rw [whole]
      simp [Template.text, Span.source]
    · exact List.forall_mem_cons.mpr ⟨spanLead, lead⟩
    · exact List.forall_mem_cons.mpr ⟨spanBody, body⟩

/-- Scanning finds the only segmentation of a text. -/
theorem isSegmentation_iff {template : Template} {text : List Char} :
    template.IsSegmentation text ↔ template = scan text := by
  fun_induction scan text generalizing template with
  | case1 text unfound =>
    obtain ⟨_ | ⟨span, spans⟩, rest⟩ := template
    · simp [isSegmentation_nil_iff, unfound]
    · simp [isSegmentation_cons_iff, unfound]
  | case2 text span remaining found following =>
    rename_i ih
    obtain ⟨_ | ⟨first, spans⟩, rest⟩ := template
    · simp [isSegmentation_nil_iff, found]
    · rw [isSegmentation_cons_iff]
      simp only [found, Option.some.injEq, Prod.mk.injEq, mk.injEq, List.cons.injEq]
      constructor
      · rintro ⟨_, ⟨rfl, rfl⟩, segmentation⟩
        have same := ih.mp segmentation
        exact ⟨⟨rfl, congrArg Template.spans same⟩, congrArg Template.rest same⟩
      · rintro ⟨⟨rfl, rfl⟩, rfl⟩
        exact ⟨remaining, ⟨rfl, rfl⟩, ih.mpr rfl⟩

/-- Spans are all tags, or there is a first one among them that is none. -/
theorem tags_or_first_error (spans : List Span) :
    (∃ tags : List Tag, spans.map Span.tag = tags.map .ok) ∨
      ∃ good bad later, ∃ tags : List Tag, ∃ error,
        spans = good ++ bad :: later ∧ good.map Span.tag = tags.map .ok ∧
          bad.tag = .error error := by
  induction spans with
  | nil => exact .inl ⟨[], rfl⟩
  | cons span spans ih =>
    cases result : span.tag with
    | error error => exact .inr ⟨[], span, spans, [], error, rfl, rfl, result⟩
    | ok tag =>
      obtain ⟨tags, read⟩ | ⟨good, bad, later, tags, error, rfl, read, refused⟩ := ih
      · exact .inl ⟨tag :: tags, by simp [result, read]⟩
      · exact .inr ⟨span :: good, bad, later, tag :: tags, error, rfl, by simp [result, read],
          refused⟩

/-- The leads of spans with the texts of their tags for a count. -/
def woven (count : Nat) (spans : List Span) (tags : List Tag) : List Char :=
  (List.zipWith (fun span tag => span.lead ++ tag.render count) spans tags).flatten

private theorem tagsOfSpans_eq_of_read {spans : List Span} {tags : List Tag}
    (read : spans.map Span.tag = tags.map .ok) : tagsOfSpans spans = (tags, none) := by
  induction spans generalizing tags with
  | nil => simp_all [tagsOfSpans]
  | cons span spans ih =>
    obtain ⟨tag, tags, rfl, ok, rest⟩ := List.map_eq_cons_iff.mp read.symm
    simp only [tagsOfSpans, ← ok, ih rest.symm]

private theorem tagsOfSpans_eq_of_refused {good later : List Span} {bad : Span} {tags : List Tag}
    {error : TagError} (read : good.map Span.tag = tags.map .ok) (refused : bad.tag = .error error) :
    tagsOfSpans (good ++ bad :: later) = (tags, some error) := by
  induction good generalizing tags with
  | nil => simp_all [tagsOfSpans]
  | cons span good ih =>
    obtain ⟨tag, tags, rfl, ok, rest⟩ := List.map_eq_cons_iff.mp read.symm
    simp only [List.cons_append, tagsOfSpans, ← ok, ih rest.symm]

private theorem renderSpans_eq_of_read {spans : List Span} {tags : List Tag} (count : Nat)
    (read : spans.map Span.tag = tags.map .ok) :
    renderSpans count spans = .ok (woven count spans tags) := by
  induction spans generalizing tags with
  | nil => simp_all [renderSpans, woven]
  | cons span spans ih =>
    obtain ⟨tag, tags, rfl, ok, rest⟩ := List.map_eq_cons_iff.mp read.symm
    rw [renderSpans, ← ok, ih rest.symm]
    rfl

private theorem renderSpans_eq_of_refused {good later : List Span} {bad : Span} {tags : List Tag}
    {error : TagError} (count : Nat) (read : good.map Span.tag = tags.map .ok)
    (refused : bad.tag = .error error) :
    renderSpans count (good ++ bad :: later) = .error error := by
  induction good generalizing tags with
  | nil =>
    rw [List.nil_append, renderSpans, refused]
    rfl
  | cons span good ih =>
    obtain ⟨tag, tags, rfl, ok, rest⟩ := List.map_eq_cons_iff.mp read.symm
    rw [List.cons_append, renderSpans, ← ok, ih rest.symm]
    rfl

theorem renderTemplate_ofNat (text : List Char) (n : Nat) :
    renderTemplate text (.int n) = (render text n).mapError .tag := rfl

section Refusal

variable {count : Json}

private theorem checkCount_of_not_count (invalid : ∀ n : Nat, count ≠ .int n) :
    checkCount count = if shown : count.hasLiteral = true then .error (.invalid ⟨count, shown⟩)
      else .error .tooLong := by
  rcases count with _ | _ | (n | n) | _ | _ | _ | _
  case int.ofNat => exact absurd rfl (invalid n)
  all_goals rfl

/-- A value that is no whole number, or a negative one, is refused as a count if it can be shown. -/
theorem checkCount_eq_invalid (invalid : ∀ n : Nat, count ≠ .int n) (shown : count.hasLiteral = true) :
    checkCount count = .error (.invalid ⟨count, shown⟩) := by
  rw [checkCount_of_not_count invalid, dif_pos shown]

/-- A value that is no count and cannot be shown ends in the error of a number with too many digits. -/
theorem checkCount_eq_tooLong (invalid : ∀ n : Nat, count ≠ .int n) (long : count.hasLiteral = false) :
    checkCount count = .error .tooLong := by
  rw [checkCount_of_not_count invalid, dif_neg (ne_true_of_eq_false long)]

end Refusal

/-- Every text has exactly one segmentation. If all of its spans are tags, they are the tags of the
text, and rendering puts their texts between the leads and the rest. Otherwise the tags end before
the first span that is none, and its error is that of reading the tags and of every rendering. A
value that is no count is refused whatever the text is if it can be shown, and otherwise it ends in the
error of a number with too many digits. -/
theorem existsUnique_segmentation_followed (text : List Char) :
    ∃ template : Template, template.IsSegmentation text ∧
      (∀ other : Template, other.IsSegmentation text → other = template) ∧
      ((∃ tags : List Tag, template.spans.map Span.tag = tags.map .ok ∧
          Template.tags text = (tags, none) ∧
          ∀ n : Nat, renderTemplate text (.int n) =
            .ok (woven n template.spans tags ++ template.rest)) ∨
        ∃ good bad later, ∃ tags : List Tag, ∃ error,
          template.spans = good ++ bad :: later ∧ good.map Span.tag = tags.map .ok ∧
            bad.tag = .error error ∧ Template.tags text = (tags, some error) ∧
            ∀ n : Nat, renderTemplate text (.int n) = .error (.tag error)) ∧
      ∀ count : Json, (∀ n : Nat, count ≠ .int n) →
        (∀ shown : count.hasLiteral = true,
          renderTemplate text count = .error (.count (.invalid ⟨count, shown⟩))) ∧
        (count.hasLiteral = false → renderTemplate text count = .error (.count .tooLong)) := by
  refine ⟨scan text, isSegmentation_iff.mpr rfl, fun other => isSegmentation_iff.mp, ?_, ?_⟩
  · obtain ⟨tags, read⟩ | ⟨good, bad, later, tags, error, spans, read, refused⟩ :=
      tags_or_first_error (scan text).spans
    · refine .inl ⟨tags, read, tagsOfSpans_eq_of_read read, fun n => ?_⟩
      have rendered : render text n = .ok (woven n (scan text).spans tags ++ (scan text).rest) := by
        rw [render, renderSpans_eq_of_read n read]
        rfl
      rw [renderTemplate_ofNat, rendered]
      rfl
    · refine .inr ⟨good, bad, later, tags, error, spans, read, refused, ?_, fun n => ?_⟩
      · rw [Template.tags, spans, tagsOfSpans_eq_of_refused read refused]
      · have failed : render text n = .error error := by
          rw [render, spans, renderSpans_eq_of_refused n read refused]
          rfl
        rw [renderTemplate_ofNat, failed]
        rfl
  · intro count invalid
    constructor
    · intro shown
      rw [renderTemplate, checkCount_eq_invalid invalid shown]
    · intro long
      rw [renderTemplate, checkCount_eq_tooLong invalid long]

/-- A negative number with too many digits cannot be shown, so that it is not refused as a count. -/
theorem renderTemplate_of_long {n : Nat} (long : 10 ^ Text.maxDigits ≤ n) (text : List Char) :
    (∀ m : Nat, Json.int (-n) ≠ .int m) ∧ renderTemplate text (.int (-n)) = .error (.count .tooLong) := by
  have positive : 0 < n := Nat.lt_of_lt_of_le (Nat.pow_pos (by decide)) long
  have negative : ∀ m : Nat, Json.int (-n) ≠ .int m := by
    intro m same
    have value := Json.int.inj same
    omega
  have size : n = (-(n : Int)).natAbs := by rw [Int.natAbs_neg, Int.natAbs_natCast]
  have hidden : (Json.int (-n)).hasLiteral = false := Text.isReadable_eq_false (long.trans_eq size)
  exact ⟨negative, by rw [renderTemplate, checkCount_eq_tooLong negative hidden]⟩

/-- The negative of the least number with too many digits is no count, and it is not refused as one. -/
theorem renderTemplate_ne_invalid :
    (∀ m : Nat, Json.int (-(10 ^ Text.maxDigits : Nat)) ≠ .int m) ∧
      ∀ error, renderTemplate "x".toList (.int (-(10 ^ Text.maxDigits : Nat))) ≠
        .error (.count (.invalid error)) := by
  obtain ⟨negative, ended⟩ := renderTemplate_of_long (Nat.le_refl (10 ^ Text.maxDigits)) "x".toList
  refine ⟨negative, fun error refused => ?_⟩
  rw [ended] at refused
  cases refused

end Template

end Inflection
