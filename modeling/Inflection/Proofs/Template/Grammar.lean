import Inflection.Proofs.Template.Colon
import Inflection.Proofs.Text.Case
import Inflection.Proofs.Text.Trim

/-! # The grammar of tags

The body of a tag is a head, a colon and a payload. The head is a kind letter and modifier letters of
that kind, with spaces and tabs anywhere; the payload has some other character. Reading accepts
exactly these bodies, and refuses any other for the first of its faults: no colon to split it at, no
kind, an unknown kind, an unknown option, an empty payload.
-/

namespace Inflection

namespace Tag

def kindLetters : List (Char × Kind) :=
  [('N', .noun), ('n', .noun), ('V', .verb), ('v', .verb), ('#', .count)]

/-- The letters that a kind accepts as modifiers, with their lower-case forms. -/
def modifierLetters : Kind → List (Char × Char)
  | .noun => [('s', 's'), ('S', 's'), ('p', 'p'), ('P', 'p')]
  | .verb => []
  | .count => [('f', 'f'), ('F', 'f')]

/-- The modifiers of a kind as they are written, with the options that they stand for. -/
inductive IsModifiers (kind : Kind) : List Char → List (List Char) → Prop
  | nil : IsModifiers kind [] []
  | space {c text options} : isSpace c = true → IsModifiers kind text options →
      IsModifiers kind (c :: text) options
  | letter {c small text options} : (c, small) ∈ modifierLetters kind →
      IsModifiers kind text options → IsModifiers kind (c :: text) ([small] :: options)

/-- A head as it is written, with its kind and its options. -/
structure IsHead (head : List Char) (kind : Kind) (options : List (List Char)) : Prop where
  parts : ∃ spaces letter text, head = spaces ++ letter :: text ∧ (∀ c ∈ spaces, isSpace c = true) ∧
    (letter, kind) ∈ kindLetters ∧ IsModifiers kind text options

def braced (body : List Char) : List Char :=
  '\x7b' :: '\x7b' :: body ++ ['\x7d', '\x7d']

/-- What it takes for a body to be that of a tag. -/
structure IsBody (body : List Char) (tag : Tag) : Prop where
  parts : ∃ head rest, body = head ++ ':' :: rest ∧ IsHead head tag.kind tag.modifiers ∧
    (∃ c ∈ rest, isSpace c = false) ∧ Text.IsTrimmed isSpace rest tag.payload
  source_eq : tag.source = braced body

/-- The first fault of a body, as the error that it leads to. -/
inductive HasFault (body : List Char) : TagError → Prop
  | missingSeparator : ColonsEscaped body →
      HasFault body (.malformed (braced body) .missingSeparator)
  | missingKind {head rest} : IsColonSplit body head rest → (∀ c ∈ head, isSpace c = true) →
      HasFault body (.malformed (braced body) .missingKind)
  | unknownKind {spaces letter more rest} : IsColonSplit body (spaces ++ letter :: more) rest →
      (∀ c ∈ spaces, isSpace c = true) → isSpace letter = false →
      (∀ kind, (letter, kind) ∉ kindLetters) →
      HasFault body (.malformed (braced body) (.unknownKind letter))
  | unknownOption {spaces letter kind good options bad more rest} :
      IsColonSplit body (spaces ++ letter :: (good ++ bad :: more)) rest →
      (∀ c ∈ spaces, isSpace c = true) → (letter, kind) ∈ kindLetters →
      IsModifiers kind good options → isSpace bad = false →
      (∀ small, (bad, small) ∉ modifierLetters kind) →
      HasFault body (.unknownOption (Text.lower bad) kind)
  | emptyPayload {head kind options rest} : IsColonSplit body head rest →
      IsHead head kind options → (∀ c ∈ rest, isSpace c = true) →
      HasFault body (.malformed (braced body) .emptyPayload)

/-- Braces around a body are taken off again. -/
theorem inner_braced (body : List Char) : inner (braced body) = body := by
  have closed : ['\x7d', '\x7d'].isSuffixOf (braced body) = true :=
    List.isSuffixOf_iff_suffix.mpr (List.suffix_append ..)
  rw [inner, closed]
  simp [braced]

section Letters

variable {c : Char} {kind : Kind} {text : List Char} {options : List (List Char)}

/-- The kind that a letter names. -/
theorem ofLetter?_eq_some_iff : Kind.ofLetter? c = some kind ↔ (c, kind) ∈ kindLetters := by
  constructor
  · intro named
    unfold Kind.ofLetter? at named
    split at named <;> cases named <;> decide
  · intro member
    simp only [kindLetters, List.mem_cons, Prod.mk.injEq, List.not_mem_nil, or_false] at member
    rcases member with ⟨rfl, rfl⟩ | ⟨rfl, rfl⟩ | ⟨rfl, rfl⟩ | ⟨rfl, rfl⟩ | ⟨rfl, rfl⟩ <;> rfl

/-- A kind accepts a letter exactly when its lower-case text is an option of the kind. -/
theorem mem_modifierLetters_iff {small : Char} :
    (c, small) ∈ modifierLetters kind ↔ [small] ∈ kind.modifiers ∧ Text.lower c = [small] := by
  constructor
  · intro member
    cases kind <;> simp only [modifierLetters, List.mem_cons, Prod.mk.injEq, List.not_mem_nil,
      or_false] at member
    · rcases member with ⟨rfl, rfl⟩ | ⟨rfl, rfl⟩ | ⟨rfl, rfl⟩ | ⟨rfl, rfl⟩ <;> decide
    · rcases member with ⟨rfl, rfl⟩ | ⟨rfl, rfl⟩ <;> decide
  · rintro ⟨option, lowered⟩
    cases kind <;> simp only [Kind.modifiers, List.mem_cons, List.cons.injEq, and_true,
      List.not_mem_nil, or_false] at option
    · rcases option with rfl | rfl
      · obtain rfl | rfl := (Text.lower_eq_singleton_iff rfl (by decide)).mp lowered <;> decide
      · obtain rfl | rfl := (Text.lower_eq_singleton_iff rfl (by decide)).mp lowered <;> decide
    · subst option
      obtain rfl | rfl := (Text.lower_eq_singleton_iff rfl (by decide)).mp lowered <;> decide

private theorem exists_eq_singleton_of_mem_modifiers {option : List Char}
    (member : option ∈ kind.modifiers) : ∃ small, option = [small] := by
  cases kind <;> simp only [Kind.modifiers, List.mem_cons, List.not_mem_nil, or_false] at member
  · rcases member with rfl | rfl <;> exact ⟨_, rfl⟩
  · exact ⟨_, member⟩

/-- Whether a character has a part of its own in the writing of a tag. -/
def IsMark (c : Char) : Prop :=
  c = ':' ∨ c = '\\' ∨ isSpace c = true

instance (c : Char) : Decidable (IsMark c) :=
  inferInstanceAs (Decidable (_ ∨ _))

private theorem not_isMark_of_mem_modifierLetters {small : Char}
    (member : (c, small) ∈ modifierLetters kind) : ¬ IsMark c := by
  have plain : ∀ pair ∈ modifierLetters kind, ¬ IsMark pair.1 := by
    cases kind <;> decide
  exact plain _ member

private theorem not_isMark_of_mem_kindLetters (member : (c, kind) ∈ kindLetters) : ¬ IsMark c := by
  have plain : ∀ pair ∈ kindLetters, ¬ IsMark pair.1 := by decide
  exact plain _ member

private theorem not_isSpace_of_not_isMark (plain : ¬ IsMark c) : isSpace c = false :=
  Bool.eq_false_iff.mpr fun space => plain (.inr (.inr space))

private theorem plain_of_isSpace (space : isSpace c = true) : c ≠ ':' ∧ c ≠ '\\' := by
  constructor <;> (rintro rfl; contradiction)

end Letters

section Reading

variable {kind : Kind} {text source : List Char} {options : List (List Char)}

private theorem readModifiers_cons (c : Char) (text : List Char) :
    readModifiers kind (c :: text) =
      if Text.lower c ∈ kind.modifiers then (readModifiers kind text).map (Text.lower c :: ·)
      else .error (.unknownOption (Text.lower c) kind) := rfl

/-- Modifiers in writing are read as those modifiers, whatever blanks are among them. -/
theorem readModifiers_of_isModifiers (written : IsModifiers kind text options) :
    readModifiers kind (text.filter (!isSpace ·)) = .ok options := by
  induction written with
  | nil => rfl
  | space space _ ih => rw [List.filter_cons_of_neg (by simp [space]), ih]
  | letter member _ ih =>
    have plain := not_isSpace_of_not_isMark (not_isMark_of_mem_modifierLetters member)
    obtain ⟨option, lowered⟩ := mem_modifierLetters_iff.mp member
    rw [List.filter_cons_of_pos (by simp [plain]), readModifiers_cons, lowered, if_pos option, ih]
    rfl

/-- The first letter that is no modifier of the kind is refused. -/
theorem readModifiers_of_unknown {good more : List Char} {bad : Char}
    (written : IsModifiers kind good options) (plain : isSpace bad = false)
    (unknown : ∀ small, (bad, small) ∉ modifierLetters kind) :
    readModifiers kind ((good ++ bad :: more).filter (!isSpace ·)) =
      .error (.unknownOption (Text.lower bad) kind) := by
  induction written with
  | nil =>
    have refused : Text.lower bad ∉ kind.modifiers := by
      intro option
      obtain ⟨small, lowered⟩ := exists_eq_singleton_of_mem_modifiers option
      exact unknown small (mem_modifierLetters_iff.mpr ⟨lowered ▸ option, lowered⟩)
    rw [List.nil_append, List.filter_cons_of_pos (by simp [plain]), readModifiers_cons,
      if_neg refused]
  | space space _ ih => rw [List.cons_append, List.filter_cons_of_neg (by simp [space]), ih]
  | letter member _ ih =>
    have plain := not_isSpace_of_not_isMark (not_isMark_of_mem_modifierLetters member)
    obtain ⟨option, lowered⟩ := mem_modifierLetters_iff.mp member
    rw [List.cons_append, List.filter_cons_of_pos (by simp [plain]), readModifiers_cons, lowered,
      if_pos option, ih]
    rfl

/-- Letters are modifiers of a kind, or there is a first one among them that is none. -/
theorem isModifiers_or_unknown (kind : Kind) (text : List Char) :
    (∃ options, IsModifiers kind text options) ∨
      ∃ good options bad more, text = good ++ bad :: more ∧ IsModifiers kind good options ∧
        isSpace bad = false ∧ ∀ small, (bad, small) ∉ modifierLetters kind := by
  induction text with
  | nil => exact .inl ⟨[], .nil⟩
  | cons c text ih =>
    cases space : isSpace c with
    | true =>
      obtain ⟨options, written⟩ | ⟨good, options, bad, more, rfl, written, unknown⟩ := ih
      · exact .inl ⟨options, .space space written⟩
      · exact .inr ⟨c :: good, options, bad, more, rfl, .space space written, unknown⟩
    | false =>
      by_cases accepted : ∃ small, (c, small) ∈ modifierLetters kind
      · obtain ⟨small, member⟩ := accepted
        obtain ⟨options, written⟩ | ⟨good, options, bad, more, rfl, written, unknown⟩ := ih
        · exact .inl ⟨[small] :: options, .letter member written⟩
        · exact .inr ⟨c :: good, [small] :: options, bad, more, rfl, .letter member written,
            unknown⟩
      · exact .inr ⟨[], [], c, text, rfl, .nil, space, not_exists.mp accepted⟩

/-- The letters of modifiers do not split a text and do not escape. -/
theorem IsModifiers.plain (written : IsModifiers kind text options) :
    ∀ c ∈ text, c ≠ ':' ∧ c ≠ '\\' := by
  induction written with
  | nil => simp
  | space space _ ih => exact List.forall_mem_cons.mpr ⟨plain_of_isSpace space, ih⟩
  | letter member _ ih =>
    have plain := not_isMark_of_mem_modifierLetters member
    exact List.forall_mem_cons.mpr ⟨⟨fun same => plain (.inl same),
      fun same => plain (.inr (.inl same))⟩, ih⟩

variable {spaces head rest body : List Char} {letter : Char} {tag : Tag} {error : TagError}

/-- A head of spaces only names no kind. -/
theorem readHead_of_spaces (all : ∀ c ∈ head, isSpace c = true) :
    readHead source head = .error (.malformed source .missingKind) := by
  have bare : head.filter (!isSpace ·) = [] := List.filter_eq_nil_iff.mpr (by simpa using all)
  rw [readHead, bare]

private theorem filter_spaces_append (all : ∀ c ∈ spaces, isSpace c = true) (plain : isSpace letter = false) :
    (spaces ++ letter :: text).filter (!isSpace ·) = letter :: text.filter (!isSpace ·) := by
  have bare : spaces.filter (!isSpace ·) = [] := List.filter_eq_nil_iff.mpr (by simpa using all)
  rw [List.filter_append, bare, List.nil_append, List.filter_cons_of_pos (by simp [plain])]

/-- The first letter of a head has to name a kind. -/
theorem readHead_of_unknown (all : ∀ c ∈ spaces, isSpace c = true) (plain : isSpace letter = false)
    (unknown : ∀ kind, (letter, kind) ∉ kindLetters) :
    readHead source (spaces ++ letter :: text) =
      .error (.malformed source (.unknownKind letter)) := by
  have unnamed : Kind.ofLetter? letter = none :=
    Option.eq_none_iff_forall_ne_some.mpr fun kind named =>
      unknown kind (ofLetter?_eq_some_iff.mp named)
  rw [readHead, filter_spaces_append all plain]
  simp only [unnamed]

/-- After the letter of the kind, a head is read as its modifiers. -/
theorem readHead_of_kind (all : ∀ c ∈ spaces, isSpace c = true)
    (named : (letter, kind) ∈ kindLetters) :
    readHead source (spaces ++ letter :: text) =
      (readModifiers kind (text.filter (!isSpace ·))).map (kind, ·) := by
  have plain := not_isSpace_of_not_isMark (not_isMark_of_mem_kindLetters named)
  rw [readHead, filter_spaces_append all plain]
  simp only [ofLetter?_eq_some_iff.mpr named]

/-- A head in writing is read as its kind and its modifiers. -/
theorem readHead_of_isHead (written : IsHead head kind options) :
    readHead source head = .ok (kind, options) := by
  obtain ⟨spaces, letter, text, rfl, all, named, modifiers⟩ := written
  rw [readHead_of_kind all named, readModifiers_of_isModifiers modifiers]
  rfl

/-- The first colon after a head splits the body. -/
theorem IsHead.isColonSplit (written : IsHead head kind options) :
    IsColonSplit (head ++ ':' :: rest) head rest := by
  obtain ⟨spaces, letter, text, rfl, all, named, modifiers⟩ := written
  have plain := not_isMark_of_mem_kindLetters named
  refine isColonSplit_of_plain fun c member => ?_
  rcases List.mem_append.mp member with member | member
  · exact plain_of_isSpace (all c member)
  · rcases List.mem_cons.mp member with rfl | member
    · exact ⟨fun same => plain (.inl same), fun same => plain (.inr (.inl same))⟩
    · exact modifiers.plain c member

end Reading

section Whole

variable {body head rest : List Char} {kind : Kind} {options : List (List Char)} {tag : Tag}
  {error : TagError}

/-- A body whose colons are all escaped is refused for its missing separator. -/
theorem read_of_colonsEscaped (escaped : ColonsEscaped body) :
    read (braced body) = .error (.malformed (braced body) .missingSeparator) := by
  rw [read, inner_braced, splitColon?_eq_none_iff.mpr escaped]

/-- A body is refused for what its head is refused for. -/
theorem read_of_readHead_error (split : IsColonSplit body head rest)
    (refused : readHead (braced body) head = .error error) : read (braced body) = .error error := by
  rw [read, inner_braced, splitColon?_eq_some_iff.mpr split]
  simp only [refused]

/-- After a proper head, only an empty payload is refused. -/
theorem read_of_isHead (split : IsColonSplit body head rest) (written : IsHead head kind options) :
    read (braced body) =
      if (Text.trim isSpace rest).isEmpty then .error (.malformed (braced body) .emptyPayload)
      else .ok ⟨kind, options, Text.trim isSpace rest, braced body⟩ := by
  rw [read, inner_braced, splitColon?_eq_some_iff.mpr split]
  simp only [readHead_of_isHead written]

/-- A body of the grammar is read as its tag. -/
theorem read_of_isBody (written : IsBody body tag) : read (braced body) = .ok tag := by
  obtain ⟨kind, options, payload, source⟩ := tag
  obtain ⟨⟨head, rest, rfl, isHead, ⟨c, member, plain⟩, trimmed⟩, rfl⟩ := written
  obtain rfl := Text.isTrimmed_iff.mp trimmed
  have full : Text.trim isSpace rest ≠ [] := by
    intro bare
    have space := Text.trim_eq_nil_iff.mp bare c member
    rw [plain] at space
    contradiction
  rw [read_of_isHead isHead.isColonSplit isHead, if_neg (by simpa using full)]

/-- A body with a fault is refused for it. -/
theorem read_of_hasFault (fault : HasFault body error) : read (braced body) = .error error := by
  cases fault with
  | missingSeparator escaped => exact read_of_colonsEscaped escaped
  | missingKind split all => exact read_of_readHead_error split (readHead_of_spaces all)
  | unknownKind split all plain unknown =>
    exact read_of_readHead_error split (readHead_of_unknown all plain unknown)
  | unknownOption split all named written plain unknown =>
    refine read_of_readHead_error split ?_
    rw [readHead_of_kind all named, readModifiers_of_unknown written plain unknown]
    rfl
  | emptyPayload split written all =>
    rw [read_of_isHead split written, Text.trim_eq_nil_iff.mpr all]
    rfl

private theorem spaces_or_letter (head : List Char) :
    (∀ c ∈ head, isSpace c = true) ∨
      ∃ spaces letter text, head = spaces ++ letter :: text ∧ (∀ c ∈ spaces, isSpace c = true) ∧
        isSpace letter = false := by
  induction head with
  | nil => exact .inl (by simp)
  | cons c head ih =>
    cases space : isSpace c with
    | false => exact .inr ⟨[], c, head, rfl, by simp, space⟩
    | true =>
      obtain all | ⟨spaces, letter, text, rfl, all, plain⟩ := ih
      · exact .inl (List.forall_mem_cons.mpr ⟨space, all⟩)
      · exact .inr ⟨c :: spaces, letter, text, rfl, List.forall_mem_cons.mpr ⟨space, all⟩, plain⟩

/-- A body that can be split at a colon is that of a tag or has a fault. -/
theorem IsColonSplit.isBody_or_hasFault (split : IsColonSplit body head rest) :
    (∃ tag, IsBody body tag) ∨ ∃ error, HasFault body error := by
  obtain all | ⟨spaces, letter, text, rfl, all, plain⟩ := spaces_or_letter head
  · exact .inr ⟨_, .missingKind split all⟩
  · by_cases named : ∃ kind, (letter, kind) ∈ kindLetters
    · obtain ⟨kind, named⟩ := named
      obtain ⟨options, written⟩ | ⟨good, options, bad, more, rfl, written, odd, unknown⟩ :=
        isModifiers_or_unknown kind text
      · have isHead : IsHead (spaces ++ letter :: text) kind options :=
          ⟨spaces, letter, text, rfl, all, named, written⟩
        by_cases full : ∃ c ∈ rest, isSpace c = false
        · exact .inl ⟨⟨kind, options, Text.trim isSpace rest, braced body⟩,
            ⟨_, rest, split.whole, isHead, full, Text.isTrimmed_iff.mpr rfl⟩, rfl⟩
        · refine .inr ⟨_, .emptyPayload split isHead fun c member => ?_⟩
          exact (Bool.not_eq_false _).mp fun odd => full ⟨c, member, odd⟩
      · exact .inr ⟨_, .unknownOption split all named written odd unknown⟩
    · exact .inr ⟨_, .unknownKind split all plain (not_exists.mp named)⟩

/-- Every body is that of a tag or has a fault. -/
theorem isBody_or_hasFault (body : List Char) :
    (∃ tag, IsBody body tag) ∨ ∃ error, HasFault body error := by
  cases found : splitColon? body with
  | none => exact .inr ⟨_, .missingSeparator (splitColon?_eq_none_iff.mp found)⟩
  | some parts => exact (splitColon?_eq_some_iff.mp found).isBody_or_hasFault

end Whole

/-- Reading a tag accepts exactly the bodies of the grammar, with the kind, the options and the payload
that the grammar gives them, and refuses every other body for its first fault. -/
theorem read_braced_iff (body : List Char) :
    (∀ tag, read (braced body) = .ok tag ↔ IsBody body tag) ∧
      ∀ error, read (braced body) = .error error ↔ HasFault body error := by
  obtain ⟨tag, written⟩ | ⟨error, fault⟩ := isBody_or_hasFault body
  · have accepted := read_of_isBody written
    refine ⟨fun other => ⟨fun read => ?_, read_of_isBody⟩,
      fun error => ⟨fun refused => ?_, read_of_hasFault⟩⟩
    · obtain rfl := Except.ok.inj (accepted.symm.trans read)
      exact written
    · exact nomatch accepted.symm.trans refused
  · have refused := read_of_hasFault fault
    refine ⟨fun tag => ⟨fun accepted => ?_, read_of_isBody⟩,
      fun other => ⟨fun read => ?_, read_of_hasFault⟩⟩
    · exact nomatch refused.symm.trans accepted
    · obtain rfl := Except.error.inj (refused.symm.trans read)
      exact fault

end Tag

end Inflection
