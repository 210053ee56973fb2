import Inflection.Proofs.Text.Lowered
import Inflection.Settings.Environment

/-! # Looking up names

The value of a name is that of the last entry for it. Giving values to names one after the other gives each
name the last of its values, as long as no name is spelled in two ways. Names that differ in the case of
letters of ASCII only have the same lower-case text, and a name in ASCII without the letter k has the
lower-case text of no other names: only the kelvin sign has a lower-case form in ASCII.
-/

namespace Inflection

namespace Text

variable {c : Char} {text : List Char}

private theorem char_toLower_of_not_isAscii (beyond : isAscii c = false) : c.toLower = c := by
  rw [isAscii, decide_eq_false_iff_not] at beyond
  refine dif_neg fun capital => beyond ?_
  have bound : c.toNat ≤ 90 := capital.2
  omega

private theorem lower_char_toLower (c : Char) : lower c.toLower = lower c := by
  cases ascii : isAscii c with
  | true =>
    have own : toLower c = c.toLower := if_pos ascii
    have small : isAscii c.toLower = true := own ▸ isAscii_toLower ascii
    have twice : toLower c.toLower = c.toLower := own ▸ toLower_toLower ascii
    have again : c.toLower.toLower = c.toLower := (if_pos small).symm.trans twice
    rw [lower_of_isAscii ascii, lower_of_isAscii small, again]
  | false => rw [char_toLower_of_not_isAscii ascii]

private theorem lowered_map_toLower (text : List Char) : lowered (text.map Char.toLower) = lowered text := by
  rw [lowered, List.flatMap_map]
  exact List.flatMap_congr fun c _ => lower_char_toLower c

/-- Only the kelvin sign has a lower-case text in ASCII from beyond ASCII. -/
theorem isAscii_of_lower (ascii : ∀ d ∈ lower c, isAscii d = true ∧ d ≠ 'k') : isAscii c = true := by
  cases inside : isAscii c with
  | true => rfl
  | false =>
    by_cases dotted : c = '\u0130'
    · rw [dotted] at ascii
      exact absurd (ascii '\u0307' (by decide)).1 (by decide)
    · have own : lower c = [toLower c] := if_neg dotted
      rw [own] at ascii
      obtain ⟨small, unlikeKelvin⟩ := ascii _ (List.mem_singleton_self _)
      obtain rfl | rfl | ⟨beyond, -⟩ := toLower_of_not_isAscii inside
      · exact absurd rfl dotted
      · exact absurd (by decide) unlikeKelvin
      · rw [beyond] at small
        contradiction

end Text

namespace Environment

open Text (lowered isAscii)

variable {environment : Environment} {name spelled value : List Char}

/-- Names are the same if they are equal in lower case. -/
theorem sameName_iff {first second : List Char} :
    sameName first second = true ↔ first.map Char.toLower = second.map Char.toLower :=
  beq_iff_eq

theorem lowered_eq_of_sameName {first second : List Char} (same : sameName first second = true) :
    lowered first = lowered second := by
  rw [← Text.lowered_map_toLower first, sameName_iff.mp same, Text.lowered_map_toLower]

/-- A name in ASCII without the letter k is the same as all names with its lower-case text. -/
theorem sameName_iff_lowered (plain : (name.all fun c => isAscii c && c.toLower != 'k') = true) :
    sameName spelled name = true ↔ lowered spelled = lowered name := by
  simp only [List.all_eq_true, Bool.and_eq_true, bne_iff_ne] at plain
  refine ⟨lowered_eq_of_sameName, fun same => sameName_iff.mpr ?_⟩
  have inside : ∀ c ∈ name, isAscii c = true := fun c member => (plain c member).1
  have lower {text : List Char} (ascii : ∀ c ∈ text, isAscii c = true) :
      lowered text = text.map Char.toLower := by
    rw [Text.lowered_eq_map ascii]
    exact List.map_congr_left fun c member => if_pos (ascii c member)
  have ascii : ∀ c ∈ spelled, isAscii c = true := by
    intro c member
    refine Text.isAscii_of_lower fun d small => ?_
    have present : d ∈ lowered name := same ▸ List.mem_flatMap.mpr ⟨c, member, small⟩
    rw [lower inside, List.mem_map] at present
    obtain ⟨e, member, rfl⟩ := present
    have own : Text.toLower e = e.toLower := if_pos (inside e member)
    exact ⟨own ▸ Text.isAscii_toLower (inside e member), (plain e member).2⟩
  rw [← lower ascii, same, lower inside]

/-- A name has no value if no entry is named so. -/
theorem lookup?_eq_none_iff :
    environment.lookup? name = none ↔ ∀ entry ∈ environment, sameName entry.1 name = false := by
  rw [lookup?, Option.map_eq_none_iff, List.find?_eq_none]
  simp

/-- The value of a name is that of the last entry for it. -/
theorem lookup?_eq_some_iff : environment.lookup? name = some value ↔
    ∃ earlier spelled later, environment = earlier ++ (spelled, value) :: later ∧
      sameName spelled name = true ∧ ∀ entry ∈ later, sameName entry.1 name = false := by
  rw [lookup?, Option.map_eq_some_iff]
  constructor
  · rintro ⟨⟨spelled, _⟩, found, rfl⟩
    obtain ⟨same, later, earlier, whole, others⟩ := List.find?_eq_some_iff_append.mp found
    refine ⟨earlier.reverse, spelled, later.reverse, ?_, same, ?_⟩
    · rw [← List.reverse_reverse environment, whole]
      simp
    · intro entry member
      simpa using others entry (List.mem_reverse.mp member)
  · rintro ⟨earlier, spelled, later, rfl, same, others⟩
    refine ⟨(spelled, value), List.find?_eq_some_iff_append.mpr ?_, rfl⟩
    refine ⟨same, later.reverse, earlier.reverse, by simp, ?_⟩
    intro entry member
    simpa using others entry (List.mem_reverse.mp member)

/-- If no two names have the same lower-case text, the only entry for a name gives it its value. -/
theorem lookup?_eq_some_of_mem (distinct : environment.Pairwise fun a b => lowered a.1 ≠ lowered b.1)
    (set : (spelled, value) ∈ environment) (same : sameName spelled name = true) :
    environment.lookup? name = some value := by
  obtain ⟨earlier, later, rfl⟩ := List.append_of_mem set
  refine lookup?_eq_some_iff.mpr ⟨earlier, spelled, later, rfl, same, fun entry member => ?_⟩
  rw [Bool.eq_false_iff]
  intro alike
  have others := (List.pairwise_cons.mp (List.pairwise_append.mp distinct).2.1).1
  exact others entry member ((lowered_eq_of_sameName same).trans (lowered_eq_of_sameName alike).symm)

/-- A name that has got a value has this value, whatever it had before. -/
theorem lookup?_assign (spelling : ∀ entry ∈ environment, sameName entry.1 name = true → entry.1 = name)
    (other : List Char) : (environment.assign name value).lookup? other =
      if sameName name other then some value else environment.lookup? other := by
  have keeps (entry : List Char × List Char) :
      (if entry.1 == name then (name, value) else entry).1 = entry.1 := by
    split
    · next own => exact (beq_iff_eq.mp own).symm
    · rfl
  rw [assign]
  split
  · next known =>
    obtain ⟨first, member, own⟩ := List.any_eq_true.mp known
    rw [lookup?, ← List.map_reverse, List.find?_map, Function.comp_def]
    simp only [keeps]
    cases found : environment.reverse.find? (sameName ·.1 other) with
    | none =>
      have unlike := List.find?_eq_none.mp found first (List.mem_reverse.mpr member)
      rw [beq_iff_eq.mp own] at unlike
      rw [if_neg unlike, lookup?, found]
      rfl
    | some entry =>
      have alike := List.find?_some found
      have inside : entry ∈ environment := List.mem_reverse.mp (List.mem_of_find?_eq_some found)
      by_cases same : sameName name other = true
      · have own : entry.1 = name :=
          spelling entry inside (sameName_iff.mpr ((sameName_iff.mp alike).trans (sameName_iff.mp same).symm))
        rw [if_pos same]
        simp [own]
      · have unlike : entry.1 ≠ name := by
          rintro rfl
          exact same alike
        rw [if_neg same, lookup?, found]
        simp [unlike]
  · rw [lookup?, List.reverse_append, List.reverse_singleton, List.singleton_append, List.find?_cons]
    cases sameName name other with
    | true => rfl
    | false => rfl

private theorem eq_or_mem_of_mem_assign {entry : List Char × List Char}
    (member : entry ∈ environment.assign name value) : entry = (name, value) ∨ entry ∈ environment := by
  rw [assign] at member
  split at member
  · obtain ⟨former, inside, rfl⟩ := List.mem_map.mp member
    split
    · exact .inl rfl
    · exact .inr inside
  · exact (List.mem_append.mp member).symm.imp_left List.mem_singleton.mp

private theorem mem_of_mem_foldl_assign {entries : Environment} {entry : List Char × List Char}
    (member : entry ∈ entries.foldl (fun (values : Environment) (name, value) => values.assign name value) []) :
    entry ∈ entries := by
  induction entries using List.reverseRecOn with
  | nil => exact member
  | append_singleton entries last ih =>
    rw [List.foldl_append] at member
    rcases eq_or_mem_of_mem_assign member with rfl | inside
    · exact List.mem_append_right _ (List.mem_singleton_self _)
    · exact List.mem_append_left _ (ih inside)

/-- Names that get their values one after the other end up with the last of them. -/
theorem lookup?_foldl_assign {entries : Environment}
    (spelling : ∀ a ∈ entries, ∀ b ∈ entries, sameName a.1 b.1 = true → a.1 = b.1) (name : List Char) :
    (entries.foldl (fun (values : Environment) (name, value) => values.assign name value) []).lookup? name =
      lookup? entries name := by
  induction entries using List.reverseRecOn with
  | nil => rfl
  | append_singleton entries last ih =>
    have spelling' : ∀ a ∈ entries, ∀ b ∈ entries, sameName a.1 b.1 = true → a.1 = b.1 :=
      fun a inside b inside' => spelling a (List.mem_append_left _ inside) b (List.mem_append_left _ inside')
    rw [List.foldl_append, List.foldl_cons, List.foldl_nil, lookup?_assign, ih spelling']
    · rw [lookup?, lookup?, List.reverse_append, List.reverse_singleton, List.singleton_append, List.find?_cons]
      cases sameName last.1 name with
      | true => rfl
      | false => rfl
    · intro entry member
      exact spelling entry (List.mem_append_left _ (mem_of_mem_foldl_assign member)) last
        (List.mem_append_right _ (List.mem_singleton_self _))

end Environment

end Inflection
