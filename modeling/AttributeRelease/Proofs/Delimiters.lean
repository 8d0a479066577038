import AttributeRelease.Text.Split

/-! A text is split at the occurrence of its delimiter that starts furthest to the right. -/

namespace AttributeRelease.Text

/-- The characters of `part` stand at a place of a text. -/
def OccursAt (part text : List Char) (place : Nat) : Prop := part <+: text.drop place

/-- The end of a delimiter and the characters after it begin with the delimiter once more. -/
def Overlaps (delimiter after : List Char) : Prop :=
  ∃ shift, 0 < shift ∧ shift < delimiter.length ∧ delimiter <+: delimiter.drop shift ++ after

theorem occursAt_append (before part after : List Char) : OccursAt part (before ++ part ++ after) before.length := by
  rw [OccursAt, List.append_assoc, List.drop_left]
  exact List.prefix_append part after

theorem not_occursAt_nil {part : List Char} (filled : part ≠ []) (place : Nat) : ¬ OccursAt part [] place := by
  rw [OccursAt, List.drop_nil, List.prefix_nil]
  exact filled

section
variable {delimiter : List Char} (filled : delimiter ≠ [])
include filled

theorem not_occursAt_of_splitLastChars {text : List Char} (unsplit : splitLastChars delimiter text = none) (place : Nat) :
    ¬ OccursAt delimiter text place := by
  induction text generalizing place with
  | nil => exact not_occursAt_nil filled place
  | cons char rest ih =>
    rw [splitLastChars] at unsplit
    cases later : splitLastChars delimiter rest with
    | some parts => simp [later] at unsplit
    | none =>
      have here : ¬ delimiter <+: char :: rest := by
        rw [← List.isPrefixOf_iff_prefix]
        intro starts
        simp [later, starts] at unsplit
      cases place with
      | zero => exact here
      | succ place => exact ih later place

/-- What comes before and after a delimiter that is found, and no occurrence starts further right. -/
theorem splitLastChars_sound {text before after : List Char}
    (split : splitLastChars delimiter text = some (before, after)) :
    text = before ++ delimiter ++ after ∧ ∀ place, before.length < place → ¬ OccursAt delimiter text place := by
  induction text generalizing before with
  | nil =>
    rw [splitLastChars, if_neg (by simpa using filled)] at split
    cases split
  | cons char rest ih =>
    rw [splitLastChars] at split
    cases later : splitLastChars delimiter rest with
    | some parts =>
      obtain ⟨start, remainder⟩ := parts
      rw [later] at split
      cases split
      obtain ⟨same, last⟩ := ih later
      refine ⟨by rw [same, List.cons_append, List.cons_append], fun place beyond => ?_⟩
      obtain ⟨place, rfl⟩ := Nat.exists_eq_add_one.mpr (Nat.zero_lt_of_lt beyond)
      exact last place (Nat.lt_of_succ_lt_succ beyond)
    | none =>
      rw [later] at split
      by_cases starts : delimiter.isPrefixOf (char :: rest) = true
      · rw [if_pos starts] at split
        cases split
        refine ⟨?_, fun place beyond => ?_⟩
        · rw [List.nil_append]
          exact (List.prefix_iff_eq_append.mp (List.isPrefixOf_iff_prefix.mp starts)).symm
        · obtain ⟨place, rfl⟩ := Nat.exists_eq_add_one.mpr beyond
          exact not_occursAt_of_splitLastChars filled later place
      · rw [if_neg starts] at split
        cases split

theorem splitLastChars_eq_some_iff {text before after : List Char} :
    splitLastChars delimiter text = some (before, after) ↔
      text = before ++ delimiter ++ after ∧ ∀ place, before.length < place → ¬ OccursAt delimiter text place := by
  refine ⟨splitLastChars_sound filled, ?_⟩
  rintro ⟨same, last⟩
  have found : OccursAt delimiter text before.length := same ▸ occursAt_append before delimiter after
  cases split : splitLastChars delimiter text with
  | none => exact absurd found (not_occursAt_of_splitLastChars filled split _)
  | some parts =>
    obtain ⟨start, remainder⟩ := parts
    obtain ⟨cut, furthest⟩ := splitLastChars_sound filled split
    have other : OccursAt delimiter text start.length := cut ▸ occursAt_append start delimiter remainder
    have lengths : start.length = before.length :=
      Nat.le_antisymm (Nat.not_lt.mp fun beyond => last _ beyond other)
        (Nat.not_lt.mp fun beyond => furthest _ beyond found)
    have equal : start ++ (delimiter ++ remainder) = before ++ (delimiter ++ after) := by
      rw [← List.append_assoc, ← cut, same, List.append_assoc]
    obtain ⟨rfl, tails⟩ := List.append_inj equal lengths
    rw [List.append_cancel_left tails]

/-- A delimiter occurs again after its own place exactly if what comes after holds one, or makes up one together with
the end of the first. -/
theorem occursAt_beyond_iff {before after : List Char} :
    (∃ place, before.length < place ∧ OccursAt delimiter (before ++ delimiter ++ after) place) ↔
      delimiter <:+: after ∨ Overlaps delimiter after := by
  have moved (shift : Nat) : OccursAt delimiter (before ++ delimiter ++ after) (before.length + shift) ↔
      delimiter <+: (delimiter ++ after).drop shift := by
    rw [OccursAt, List.append_assoc, List.drop_length_add_append]
  constructor
  · rintro ⟨place, beyond, occurs⟩
    obtain ⟨shift, rfl⟩ := Nat.exists_eq_add_of_le (Nat.le_of_lt beyond)
    have later := (moved shift).mp occurs
    rcases Nat.lt_or_ge shift delimiter.length with within | outside
    case inl =>
      rw [List.drop_append_of_le_length (Nat.le_of_lt within)] at later
      exact Or.inr ⟨shift, by omega, within, later⟩
    case inr =>
      obtain ⟨rest, rfl⟩ := Nat.exists_eq_add_of_le outside
      rw [List.drop_length_add_append] at later
      exact Or.inl (later.isInfix.trans (List.drop_suffix rest after).isInfix)
  · rintro (⟨start, rest, same⟩ | ⟨shift, positive, within, starts⟩)
    · have length := List.length_pos_iff.mpr filled
      refine ⟨before.length + (delimiter.length + start.length), by omega, (moved _).mpr ?_⟩
      rw [List.drop_length_add_append, ← same, List.append_assoc, List.drop_left]
      exact List.prefix_append delimiter rest
    · refine ⟨before.length + shift, by omega, (moved shift).mpr ?_⟩
      rw [List.drop_append_of_le_length (Nat.le_of_lt within)]
      exact starts

end

theorem splitLast?_eq_some_iff {delimiter text before after : String} (filled : delimiter ≠ "") :
    splitLast? delimiter text = some (before, after) ↔
      text = before ++ delimiter ++ after ∧
        ∀ place, before.length < place → ¬ OccursAt delimiter.toList text.toList place := by
  have chars : delimiter.toList ≠ [] := by simpa using filled
  have same : text = before ++ delimiter ++ after ↔
      text.toList = before.toList ++ delimiter.toList ++ after.toList := by
    rw [← String.toList_inj, String.toList_append, String.toList_append]
  rw [same, ← String.length_toList, ← splitLastChars_eq_some_iff chars, splitLast?, Option.map_eq_some_iff]
  constructor
  · rintro ⟨⟨start, rest⟩, split, found⟩
    cases found
    simpa using split
  · intro split
    exact ⟨_, split, by simp⟩

end AttributeRelease.Text
