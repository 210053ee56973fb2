import Inflection.Template.Tag

/-! # Spans of a template

A span is the text from a pair of opening braces to the nearest pair of closing braces. A template is
a sequence of spans, each after some plain text, and the plain text that is left. Braces that are
never closed are plain text.
-/

namespace Inflection

/-- A span and the plain text that leads to it. The body stands between the braces. -/
structure Span where
  lead : List Char
  body : List Char
deriving DecidableEq, Repr

namespace Span

/-- The span as it stands in the template. -/
def source (span : Span) : List Char :=
  '\x7b' :: '\x7b' :: span.body ++ ['\x7d', '\x7d']

def tag (span : Span) : Except TagError Tag :=
  Tag.read span.source

/-- The text before the first pair of closing braces and the text after it. -/
def splitClosing? : List Char → Option (List Char × List Char)
  | [] => none
  | '\x7d' :: '\x7d' :: rest => some ([], rest)
  | c :: rest => (splitClosing? rest).map fun (body, rest) => (c :: body, rest)

/-- The first span of a text and the text after it. -/
def next? : List Char → Option (Span × List Char)
  | [] => none
  | '\x7b' :: '\x7b' :: rest => (splitClosing? rest).map fun (body, rest) => (⟨[], body⟩, rest)
  | c :: rest => (next? rest).map fun (span, rest) => ({ span with lead := c :: span.lead }, rest)

/-- A text is what stands before its first closing braces, the braces, and what follows them. -/
theorem eq_of_splitClosing? {text body rest : List Char}
    (split : splitClosing? text = some (body, rest)) :
    text = body ++ '\x7d' :: '\x7d' :: rest := by
  fun_induction splitClosing? text generalizing body with
  | case1 => simp at split
  | case2 => simp_all
  | case3 c text _ ih =>
    simp only [Option.map_eq_some_iff, Prod.mk.injEq] at split
    obtain ⟨⟨body, rest⟩, found, rfl, rfl⟩ := split
    rw [ih found, List.cons_append]

/-- A text is the lead of its first span, the span, and what follows it. -/
theorem eq_of_next? {text rest : List Char} {span : Span} (found : next? text = some (span, rest)) :
    text = span.lead ++ span.source ++ rest := by
  fun_induction next? text generalizing span with
  | case1 => simp at found
  | case2 text =>
    simp only [Option.map_eq_some_iff, Prod.mk.injEq] at found
    obtain ⟨⟨body, rest⟩, split, rfl, rfl⟩ := found
    simp [source, eq_of_splitClosing? split]
  | case3 c text _ ih =>
    simp only [Option.map_eq_some_iff, Prod.mk.injEq] at found
    obtain ⟨⟨span, rest⟩, found, rfl, rfl⟩ := found
    rw [ih found]
    rfl

private theorem length_lt_of_next? {text rest : List Char} {span : Span}
    (found : next? text = some (span, rest)) : rest.length < text.length := by
  rw [eq_of_next? found]
  simp only [source, List.length_append, List.length_cons]
  omega

end Span

/-- A text cut into its spans and the plain text after them. -/
structure Template where
  spans : List Span
  rest : List Char
deriving DecidableEq, Repr

namespace Template

def scan (text : List Char) : Template :=
  match _next : Span.next? text with
  | none => ⟨[], text⟩
  | some (span, rest) =>
    let following := scan rest
    ⟨span :: following.spans, following.rest⟩
termination_by text.length
decreasing_by exact Span.length_lt_of_next? ‹_›

def text (template : Template) : List Char :=
  template.spans.flatMap (fun span => span.lead ++ span.source) ++ template.rest

end Template

end Inflection
