/-! Finite maps from names, in the order of the names. Two dictionaries with the same entries
are equal. -/

namespace AttributeRelease

structure Dictionary (α : Type) where
  entries : List (String × α)
  sorted : (entries.map Prod.fst).Pairwise (· < ·)

namespace Dictionary

variable {α : Type}

/-- Puts an entry at the place of its name. An entry of the same name is replaced. -/
def put (name : String) (value : α) : List (String × α) → List (String × α)
  | [] => [(name, value)]
  | (other, old) :: rest =>
    if name < other then (name, value) :: (other, old) :: rest
    else if name = other then (name, value) :: rest
    else (other, old) :: put name value rest

theorem mem_names_put {name other : String} {value : α} {entries : List (String × α)}
    (member : other ∈ (put name value entries).map Prod.fst) :
    other = name ∨ other ∈ entries.map Prod.fst := by
  induction entries with
  | nil => simpa [put] using member
  | cons entry rest ih =>
    obtain ⟨key, old⟩ := entry
    simp only [put] at member
    split at member
    · simpa using member
    · split at member
      · rename_i same
        subst same
        simp only [List.map_cons, List.mem_cons] at member ⊢
        rcases member with here | later
        · exact Or.inl here
        · exact Or.inr (Or.inr later)
      · simp only [List.map_cons, List.mem_cons] at member ⊢
        rcases member with here | later
        · exact Or.inr (Or.inl here)
        · rcases ih later with first | tail
          · exact Or.inl first
          · exact Or.inr (Or.inr tail)

theorem put_sorted (name : String) (value : α) {entries : List (String × α)}
    (sorted : (entries.map Prod.fst).Pairwise (· < ·)) :
    ((put name value entries).map Prod.fst).Pairwise (· < ·) := by
  induction entries with
  | nil => simp [put]
  | cons entry rest ih =>
    obtain ⟨key, old⟩ := entry
    obtain ⟨below, rest_sorted⟩ := List.pairwise_cons.mp sorted
    simp only [put]
    split
    · rename_i before
      refine List.pairwise_cons.mpr ⟨?_, sorted⟩
      intro other member
      rcases List.mem_cons.mp member with rfl | later
      · exact before
      · exact String.lt_trans before (below other later)
    · rename_i not_before
      split
      · rename_i same
        subst same
        exact List.pairwise_cons.mpr ⟨below, rest_sorted⟩
      · rename_i different
        refine List.pairwise_cons.mpr ⟨?_, ih rest_sorted⟩
        intro other member
        rcases mem_names_put member with rfl | later
        · exact Std.lt_of_le_of_ne (Std.not_lt.mp not_before) (Ne.symm different)
        · exact below other later

def empty : Dictionary α := ⟨[], List.Pairwise.nil⟩

instance : EmptyCollection (Dictionary α) := ⟨empty⟩

instance : Inhabited (Dictionary α) := ⟨empty⟩

def insert (dictionary : Dictionary α) (name : String) (value : α) : Dictionary α :=
  ⟨put name value dictionary.entries, put_sorted name value dictionary.sorted⟩

/-- Of several entries of one name the last counts. -/
def ofList (entries : List (String × α)) : Dictionary α :=
  entries.foldl (fun dictionary entry => dictionary.insert entry.1 entry.2) ∅

def get? (dictionary : Dictionary α) (name : String) : Option α :=
  dictionary.entries.lookup name

def isEmpty (dictionary : Dictionary α) : Bool := dictionary.entries.isEmpty

def erase (dictionary : Dictionary α) (name : String) : Dictionary α :=
  ⟨dictionary.entries.filter (·.1 != name), by
    refine List.Pairwise.sublist ?_ dictionary.sorted
    exact List.filter_sublist.map Prod.fst⟩

instance [DecidableEq α] : DecidableEq (Dictionary α) := fun left right =>
  decidable_of_iff (left.entries = right.entries)
    ⟨fun same => by cases left; cases right; cases same; rfl, fun same => same ▸ rfl⟩

@[ext] theorem ext {left right : Dictionary α} (same : left.entries = right.entries) :
    left = right := by
  cases left
  cases right
  cases same
  rfl

theorem lookup_entry (name other : String) (value : α) (rest : List (String × α)) :
    ((name, value) :: rest).lookup other =
      if other = name then some value else rest.lookup other := by
  by_cases same : other = name
  · simp [same]
  · simp [List.lookup_cons, same, beq_eq_false_iff_ne.mpr same]

theorem lookup_put (name other : String) (value : α) (entries : List (String × α)) :
    (put name value entries).lookup other =
      if other = name then some value else entries.lookup other := by
  induction entries with
  | nil => rw [put, lookup_entry]
  | cons entry rest ih =>
    obtain ⟨key, old⟩ := entry
    rw [put]
    split
    · rw [lookup_entry]
    · split
      · rename_i same
        subst same
        rw [lookup_entry, lookup_entry]
        split <;> rfl
      · rename_i different
        rw [lookup_entry, ih, lookup_entry]
        split
        · rename_i found
          subst found
          rw [if_neg (Ne.symm different)]
        · rfl

/-- What is found after entries were put one by one is one of them, or was there before. -/
theorem mem_or_of_lookup_foldl {name : String} {value : α} {entries start : List (String × α)}
    (found : (entries.foldl (fun sorted entry => put entry.1 entry.2 sorted) start).lookup name =
      some value) : (name, value) ∈ entries ∨ start.lookup name = some value := by
  induction entries generalizing start with
  | nil => exact Or.inr found
  | cons entry rest ih =>
    rcases ih found with later | earlier
    · exact Or.inl (List.mem_cons_of_mem _ later)
    · rw [lookup_put] at earlier
      split at earlier
      · rename_i same
        cases earlier
        exact Or.inl (same ▸ List.mem_cons_self)
      · exact Or.inr earlier

@[simp] theorem get?_empty (name : String) : (∅ : Dictionary α).get? name = none := rfl

theorem get?_insert (dictionary : Dictionary α) (name other : String) (value : α) :
    (dictionary.insert name value).get? other =
      if other = name then some value else dictionary.get? other :=
  lookup_put name other value dictionary.entries

end Dictionary

end AttributeRelease
