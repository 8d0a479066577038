import AttributeRelease.Attribute.Basic

/-! Membership in sets of values. Every operation is described by the values that it
keeps, and those that only keep some values of a set also by the order in which they
keep them. -/

namespace AttributeRelease

namespace ValueSet

theorem mem_insertAll {values : ValueSet} {added : List Value} {value : Value} :
    value ∈ values.insertAll added ↔ value ∈ values ∨ value ∈ added := by
  unfold insertAll
  induction added generalizing values with
  | nil => simp
  | cons first rest ih =>
    rw [List.foldl_cons, ih, mem_insert, List.mem_cons, or_assoc]

theorem insertAll_eq_self_iff {values : ValueSet} {added : List Value} :
    values.insertAll added = values ↔ ∀ value ∈ added, value ∈ values := by
  constructor
  · intro same value member
    exact same ▸ mem_insertAll.mpr (.inr member)
  · intro present
    induction added with
    | nil => rfl
    | cons first rest ih =>
      obtain ⟨here, later⟩ := List.forall_mem_cons.mp present
      have unchanged : values.insert first = values := dif_pos here
      rw [insertAll, List.foldl_cons, unchanged]
      exact ih later

@[simp] theorem mem_union {left right : ValueSet} {value : Value} :
    value ∈ left.union right ↔ value ∈ left ∨ value ∈ right := mem_insertAll

@[simp] theorem mem_ofList {values : List Value} {value : Value} : value ∈ ofList values ↔ value ∈ values := by
  rw [ofList, mem_insertAll]
  simp

@[simp] theorem mem_inter {left right : ValueSet} {value : Value} :
    value ∈ left.inter right ↔ value ∈ left ∧ value ∈ right := by
  simp [inter]

@[simp] theorem mem_diff {left right : ValueSet} {value : Value} :
    value ∈ left.diff right ↔ value ∈ left ∧ value ∉ right := by
  simp [diff, contains]

theorem insertAll_append (values : ValueSet) (first second : List Value) :
    values.insertAll (first ++ second) = (values.insertAll first).insertAll second := List.foldl_append

theorem insertAll_eq_eraseDups (values : ValueSet) (added : List Value) :
    (values.insertAll added).toList = values.toList ++ (added.filter (!values.contains ·)).eraseDups := by
  induction added generalizing values with
  | nil => simp [insertAll]
  | cons first rest ih =>
    have step : values.insertAll (first :: rest) = (values.insert first).insertAll rest := rfl
    rw [step, ih]
    by_cases present : first ∈ values
    · have unchanged : values.insert first = values := dif_pos present
      rw [unchanged, List.filter_cons_of_neg (by simpa using present)]
    · have appended : (values.insert first).toList = values.toList ++ [first] := by simp [insert, present]
      have others : rest.filter (!(values.insert first).contains ·) =
          (rest.filter (!values.contains ·)).filter fun value => !value == first := by
        rw [List.filter_filter]
        refine List.filter_congr fun value _ => ?_
        rw [Bool.eq_iff_iff]
        simp [contains, mem_insert, and_comm]
      rw [List.filter_cons_of_pos (by simpa [contains] using present), List.eraseDups_cons, appended, others,
        List.append_assoc,
        List.singleton_append]

theorem toList_ofList (values : List Value) : (ofList values).toList = values.eraseDups := by
  have everything : values.filter (!(∅ : ValueSet).contains ·) = values := List.filter_eq_self.mpr fun value _ => rfl
  rw [ofList, insertAll_eq_eraseDups, everything]
  rfl

private theorem eraseDups_of_nodup {values : List Value} (distinct : values.Nodup) : values.eraseDups = values := by
  induction values with
  | nil => rfl
  | cons first rest ih =>
    obtain ⟨absent, distinct⟩ := List.nodup_cons.mp distinct
    have others : (rest.filter fun value => !value == first) = rest :=
      List.filter_eq_self.mpr fun value member => by simpa using fun same : value = first => absent (same ▸ member)
    rw [List.eraseDups_cons, others, ih distinct]

theorem ofList_eq {values : List Value} (distinct : values.Nodup) : ofList values = ⟨values, distinct⟩ :=
  ext ((toList_ofList values).trans (eraseDups_of_nodup distinct))

theorem ofList_toList (values : ValueSet) : ofList values.toList = values := ofList_eq values.nodup

theorem insertAll_eq_ofList (values : ValueSet) (added : List Value) :
    values.insertAll added = ofList (values.toList ++ added) := by
  rw [ofList, insertAll_append, ← ofList, ofList_toList]

@[simp] theorem ofList_filter (values : ValueSet) (keep : Value → Bool) :
    ofList (values.toList.filter keep) = values.filter keep :=
  ofList_eq _

theorem filter_congr {values : ValueSet} {first second : Value → Bool}
    (same : ∀ value ∈ values, first value = second value) : values.filter first = values.filter second :=
  ext (List.filter_congr same)

@[simp] theorem filter_filter (values : ValueSet) (first second : Value → Bool) :
    (values.filter first).filter second = values.filter fun value => first value && second value :=
  ext (by simp [filter, List.filter_filter, Bool.and_comm])

theorem filter_eq_self {values : ValueSet} {keep : Value → Bool} (all : ∀ value ∈ values, keep value = true) :
    values.filter keep = values :=
  ext (List.filter_eq_self.mpr all)

theorem filter_eq_empty {values : ValueSet} {keep : Value → Bool} (drop : ∀ value ∈ values, keep value = false) :
    values.filter keep = ∅ :=
  ext (List.filter_eq_nil_iff.mpr fun value member => by simp [drop value member])

theorem filter_contains_of_sublist {values whole : ValueSet} (part : values.toList.Sublist whole.toList) :
    whole.filter values.contains = values := by
  obtain ⟨whole, distinct⟩ := whole
  obtain ⟨values, _⟩ := values
  refine ext ?_
  change whole.filter (fun value => decide (value ∈ values)) = values
  change values.Sublist whole at part
  induction part with
  | slnil => rfl
  | @cons values whole value part ih =>
    obtain ⟨absent, distinct⟩ := List.nodup_cons.mp distinct
    rw [List.filter_cons_of_neg (by simpa using fun member => absent (part.subset member))]
    exact ih distinct (distinct.sublist part)
  | @cons_cons values whole value part ih =>
    obtain ⟨absent, distinct⟩ := List.nodup_cons.mp distinct
    have others : whole.filter (fun other => decide (other ∈ value :: values)) =
        whole.filter fun other => decide (other ∈ values) := by
      refine List.filter_congr fun other member => decide_eq_decide.mpr ?_
      have different : other ≠ value := fun same => absent (same ▸ member)
      simp [different]
    rw [List.filter_cons_of_pos (by simp), others, ih distinct (distinct.sublist part)]

theorem contains_filter {values : ValueSet} {keep : Value → Bool} {value : Value} (member : value ∈ values) :
    (values.filter keep).contains value = keep value := by
  rw [Bool.eq_iff_iff, contains_iff, mem_filter]
  exact and_iff_right member

theorem contains_union (left right : ValueSet) (value : Value) :
    (left.union right).contains value = (left.contains value || right.contains value) := by
  rw [Bool.eq_iff_iff, Bool.or_eq_true, contains_iff, contains_iff, contains_iff, mem_union]

theorem isEmpty_iff {values : ValueSet} : values.isEmpty = true ↔ ∀ value, value ∉ values := by
  simp [isEmpty, mem_def, List.eq_nil_iff_forall_not_mem]

end ValueSet

namespace Attribute

/-- The attribute with the values that pass a test, and no attribute if none does. -/
def only? (attr : Attribute) (keep : Value → Bool) : Option Attribute :=
  if (attr.values.filter keep).isEmpty then none else some { attr with values := attr.values.filter keep }

theorem only?_eq_some_iff {attr kept : Attribute} {keep : Value → Bool} :
    attr.only? keep = some kept ↔
      kept = { attr with values := attr.values.filter keep } ∧ ∃ value ∈ attr.values, keep value = true := by
  have inhabited : (attr.values.filter keep).isEmpty = true ↔ ¬ ∃ value ∈ attr.values, keep value = true := by
    simp [ValueSet.isEmpty_iff]
  unfold only?
  split
  next empty => simp [inhabited.mp empty]
  next filled =>
    have found := Decidable.not_not.mp (mt inhabited.mpr filled)
    exact ⟨fun same => ⟨(Option.some.inj same).symm, found⟩, fun ⟨same, _⟩ => congrArg some same.symm⟩

theorem only?_congr {attr : Attribute} {first second : Value → Bool}
    (same : ∀ value ∈ attr.values, first value = second value) : attr.only? first = attr.only? second := by
  rw [only?, only?, ValueSet.filter_congr same]

theorem only?_only? (attr : Attribute) (first second : Value → Bool) :
    ((attr.only? first).bind fun kept => kept.only? second) = attr.only? fun value => first value && second value := by
  refine Option.ext fun last => ?_
  rw [Option.bind_eq_some_iff]
  constructor
  · rintro ⟨kept, made, again⟩
    obtain ⟨rfl, _⟩ := only?_eq_some_iff.mp made
    obtain ⟨rfl, value, member, passes⟩ := only?_eq_some_iff.mp again
    obtain ⟨inside, passed⟩ := ValueSet.mem_filter.mp member
    exact only?_eq_some_iff.mpr ⟨by simp, value, inside, by simp [passed, passes]⟩
  · intro made
    obtain ⟨rfl, value, inside, both⟩ := only?_eq_some_iff.mp made
    obtain ⟨passed, passes⟩ := (Bool.and_eq_true _ _).mp both
    refine ⟨_, only?_eq_some_iff.mpr ⟨rfl, value, inside, passed⟩, ?_⟩
    exact only?_eq_some_iff.mpr ⟨by simp, value, ValueSet.mem_filter.mpr ⟨inside, passed⟩, passes⟩

theorem only?_of_sublist {attr : Attribute} {values : ValueSet} (part : values.toList.Sublist attr.values.toList)
    (keep : Value → Bool) :
    only? { attr with values } keep = attr.only? fun value => values.contains value && keep value := by
  rw [only?, only?, ← ValueSet.filter_filter, ValueSet.filter_contains_of_sublist part]

end Attribute

end AttributeRelease
