import AttributeRelease.Attribute.Value

/-! Sets of values in the order in which they were first added. -/

namespace AttributeRelease

structure ValueSet where
  toList : List Value
  nodup : toList.Nodup

namespace ValueSet

def empty : ValueSet := ⟨[], List.nodup_nil⟩

instance : EmptyCollection ValueSet := ⟨empty⟩

instance : Inhabited ValueSet := ⟨empty⟩

instance : Membership Value ValueSet := ⟨fun values value => value ∈ values.toList⟩

instance (value : Value) (values : ValueSet) : Decidable (value ∈ values) :=
  inferInstanceAs (Decidable (value ∈ values.toList))

@[ext] theorem ext {left right : ValueSet} (same : left.toList = right.toList) : left = right := by
  cases left
  cases right
  cases same
  rfl

instance : DecidableEq ValueSet := fun left right =>
  decidable_of_iff (left.toList = right.toList) ⟨ValueSet.ext, fun same => same ▸ rfl⟩

theorem mem_def {value : Value} {values : ValueSet} : value ∈ values ↔ value ∈ values.toList :=
  Iff.rfl

def size (values : ValueSet) : Nat := values.toList.length

def isEmpty (values : ValueSet) : Bool := values.toList.isEmpty

def contains (values : ValueSet) (value : Value) : Bool := decide (value ∈ values)

@[simp] theorem contains_iff {values : ValueSet} {value : Value} :
    values.contains value = true ↔ value ∈ values := by
  simp [contains]

/-- Adds a value at the end unless it is there already. -/
def insert (values : ValueSet) (value : Value) : ValueSet :=
  if absent : value ∈ values then values
  else ⟨values.toList ++ [value], by
    refine List.nodup_append.mpr ⟨values.nodup, List.nodup_cons.mpr ⟨by simp, List.nodup_nil⟩, ?_⟩
    intro left member right single same
    rw [List.mem_singleton.mp single] at same
    exact absent (same ▸ member)⟩

/-- Adds values one after the other. -/
def insertAll (values : ValueSet) (added : List Value) : ValueSet := added.foldl insert values

def ofList (values : List Value) : ValueSet := (∅ : ValueSet).insertAll values

def filter (values : ValueSet) (keep : Value → Bool) : ValueSet :=
  ⟨values.toList.filter keep, values.nodup.sublist List.filter_sublist⟩

/-- The values of the first set that are also in the second. -/
def inter (left right : ValueSet) : ValueSet := left.filter right.contains

/-- The values of the first set that are not in the second. -/
def diff (left right : ValueSet) : ValueSet := left.filter fun value => !right.contains value

def union (left right : ValueSet) : ValueSet := left.insertAll right.toList

/-- Equality as sets: the order does not count. -/
def sameMembers (left right : ValueSet) : Bool :=
  left.size == right.size && left.toList.all right.contains

@[simp] theorem not_mem_empty (value : Value) : value ∉ (∅ : ValueSet) := List.not_mem_nil

theorem mem_insert {values : ValueSet} {value other : Value} :
    other ∈ values.insert value ↔ other ∈ values ∨ other = value := by
  unfold insert
  split
  · rename_i present
    refine ⟨Or.inl, ?_⟩
    rintro (member | rfl)
    · exact member
    · exact present
  · simp [mem_def]

@[simp] theorem mem_filter {values : ValueSet} {keep : Value → Bool} {value : Value} :
    value ∈ values.filter keep ↔ value ∈ values ∧ keep value = true := List.mem_filter

end ValueSet

end AttributeRelease
