import AttributeRelease.Json.Basic

/-! Objects by their fields. What is found under a name does not depend on the order in which
the fields were written, and lists are read item by item. -/

namespace AttributeRelease

namespace Dictionary

variable {α : Type}

private theorem lookup_eq_none_of_lt {name : String} {entries : List (String × α)}
    (above : ∀ other ∈ entries.map Prod.fst, name < other) : entries.lookup name = none := by
  rw [List.lookup_eq_none_iff]
  intro entry member
  have less := above entry.1 (List.mem_map_of_mem member)
  simpa using fun same : name = entry.1 => String.lt_irrefl _ (same ▸ less)

private theorem mem_names_of_lookup {name : String} {value : α} {entries : List (String × α)}
    (found : entries.lookup name = some value) : name ∈ entries.map Prod.fst := by
  obtain ⟨before, after, rfl, _⟩ := List.lookup_eq_some_iff.mp found
  simp

private theorem entries_eq_of_lookup {left right : List (String × α)}
    (sortedLeft : (left.map Prod.fst).Pairwise (· < ·)) (sortedRight : (right.map Prod.fst).Pairwise (· < ·))
    (same : ∀ name, left.lookup name = right.lookup name) : left = right := by
  induction left generalizing right with
  | nil =>
    cases right with
    | nil => rfl
    | cons entry rest => simpa [lookup_entry] using (same entry.1).symm
  | cons first lefts ih =>
    obtain ⟨name, value⟩ := first
    obtain ⟨belowLeft, sortedLefts⟩ := List.pairwise_cons.mp sortedLeft
    cases right with
    | nil => simpa [lookup_entry] using same name
    | cons second rights =>
      obtain ⟨other, known⟩ := second
      obtain ⟨belowRight, sortedRights⟩ := List.pairwise_cons.mp sortedRight
      have here : ((other, known) :: rights).lookup name = some value := by
        rw [← same name, lookup_entry, if_pos rfl]
      have there : ((name, value) :: lefts).lookup other = some known := by
        rw [same other, lookup_entry, if_pos rfl]
      -- Each of the first names is found on the other side, where all names but the first come later.
      have names : name = other := by
        rcases List.mem_cons.mp (mem_names_of_lookup here) with equal | later
        · exact equal
        · rcases List.mem_cons.mp (mem_names_of_lookup there) with equal | earlier
          · exact equal.symm
          · exact absurd (belowLeft _ earlier) (String.lt_asymm (belowRight _ later))
      subst names
      rw [lookup_entry, if_pos rfl] at here
      cases here
      have absentLeft := lookup_eq_none_of_lt belowLeft
      have absentRight := lookup_eq_none_of_lt belowRight
      rw [ih sortedLefts sortedRights]
      intro query
      by_cases hit : query = name
      · rw [hit, absentLeft, absentRight]
      · have rest := same query
        rwa [lookup_entry, lookup_entry, if_neg hit, if_neg hit] at rest

theorem ext_get? {left right : Dictionary α} (same : ∀ name, left.get? name = right.get? name) : left = right :=
  ext (entries_eq_of_lookup left.sorted right.sorted same)

private theorem lookup_eq_some_iff_mem {entries : List (String × α)} (distinct : (entries.map Prod.fst).Nodup)
    {name : String} {value : α} : entries.lookup name = some value ↔ (name, value) ∈ entries := by
  rw [List.lookup_eq_some_iff]
  constructor
  · rintro ⟨before, after, rfl, _⟩
    simp
  · intro member
    obtain ⟨before, after, rfl⟩ := List.append_of_mem member
    refine ⟨before, after, rfl, fun entry earlier => ?_⟩
    rw [List.map_append] at distinct
    have apart := (List.nodup_append.mp distinct).2.2 entry.1 (List.mem_map_of_mem earlier) name (by simp)
    simpa using Ne.symm apart

theorem distinct (dictionary : Dictionary α) : (dictionary.entries.map Prod.fst).Nodup := by
  refine List.Pairwise.imp ?_ dictionary.sorted
  intro name other less same
  exact String.lt_irrefl other (same ▸ less)

theorem get?_eq_some_iff {dictionary : Dictionary α} {name : String} {value : α} :
    dictionary.get? name = some value ↔ (name, value) ∈ dictionary.entries :=
  lookup_eq_some_iff_mem dictionary.distinct

private theorem lookup_reverse (dictionary : Dictionary α) (name : String) :
    dictionary.entries.reverse.lookup name = dictionary.get? name := by
  have reversed : (dictionary.entries.reverse.map Prod.fst).Nodup := by
    rw [List.map_reverse, List.Nodup, List.pairwise_reverse]
    exact dictionary.distinct.imp Ne.symm
  refine Option.ext fun value => ?_
  rw [lookup_eq_some_iff_mem reversed, get?_eq_some_iff, List.mem_reverse]

theorem get?_erase (dictionary : Dictionary α) (name other : String) :
    (dictionary.erase name).get? other = if other = name then none else dictionary.get? other := by
  refine Option.ext fun value => ?_
  rw [get?_eq_some_iff, erase, List.mem_filter]
  by_cases same : other = name
  · simp [same]
  · simp [same, get?_eq_some_iff]

private theorem get?_foldl (entries : List (String × α)) (start : Dictionary α) (name : String) :
    (entries.foldl (fun dictionary entry => dictionary.insert entry.1 entry.2) start).get? name =
      (entries.reverse.lookup name).or (start.get? name) := by
  induction entries generalizing start with
  | nil => rfl
  | cons entry rest ih =>
    rw [List.foldl_cons, ih, get?_insert, List.reverse_cons, List.lookup_append, lookup_entry, Option.or_assoc]
    split <;> rfl

theorem get?_ofList (entries : List (String × α)) (name : String) :
    (ofList entries).get? name = entries.reverse.lookup name := by
  rw [ofList, get?_foldl, get?_empty, Option.or_none]

theorem ofList_entries (dictionary : Dictionary α) : ofList dictionary.entries = dictionary :=
  ext_get? fun name => by rw [get?_ofList, lookup_reverse]

theorem mem_of_mem_ofList {entries : List (String × α)} {entry : String × α}
    (member : entry ∈ (ofList entries).entries) : entry ∈ entries := by
  have found := get?_eq_some_iff.mpr member
  rw [get?_ofList] at found
  obtain ⟨before, after, split, _⟩ := List.lookup_eq_some_iff.mp found
  rw [← List.mem_reverse, split]
  simp

theorem get?_ofList_cons (dictionary : Dictionary α) (name other : String) (value : α) :
    (ofList ((name, value) :: dictionary.entries)).get? other =
      (dictionary.get? other).or (if other = name then some value else none) := by
  rw [get?_ofList, List.reverse_cons, List.lookup_append, lookup_reverse, lookup_entry]
  rfl

theorem erase_ofList_cons {dictionary : Dictionary α} {name : String} (absent : dictionary.get? name = none)
    (value : α) : (ofList ((name, value) :: dictionary.entries)).erase name = dictionary := by
  refine ext_get? fun other => ?_
  rw [get?_erase, get?_ofList_cons]
  by_cases same : other = name
  · rw [if_pos same, same, absent]
  · rw [if_neg same, if_neg same, Option.or_none]

theorem lookup_map {β : Type} (change : α → β) (entries : List (String × α)) (name : String) :
    (entries.map fun entry => (entry.1, change entry.2)).lookup name = (entries.lookup name).map change := by
  induction entries with
  | nil => rfl
  | cons entry rest ih =>
    rw [List.map_cons, lookup_entry, lookup_entry, ih]
    split <;> rfl

theorem isEmpty_iff {dictionary : Dictionary α} : dictionary.isEmpty = true ↔ dictionary = ∅ := by
  rw [isEmpty, List.isEmpty_iff, Dictionary.ext_iff]
  rfl

end Dictionary

theorem mapM_map_eq_some {α β : Type} {write : α → β} {read? : β → Option α} {values : List α}
    (back : ∀ value ∈ values, read? (write value) = some value) : (values.map write).mapM read? = some values := by
  induction values with
  | nil => rfl
  | cons value rest ih =>
    obtain ⟨first, later⟩ := List.forall_mem_cons.mp back
    rw [List.map_cons, List.mapM_cons, first, ih later]
    rfl

theorem exists_of_mapM_eq_some {α β : Type} {read? : β → Option α} {items : List β} {values : List α}
    (read : items.mapM read? = some values) {value : α} (member : value ∈ values) :
    ∃ item ∈ items, read? item = some value := by
  induction items generalizing values with
  | nil =>
    cases read
    cases member
  | cons item rest ih =>
    rw [List.mapM_cons] at read
    obtain ⟨first, here, read⟩ := Option.bind_eq_some_iff.mp read
    obtain ⟨later, there, same⟩ := Option.bind_eq_some_iff.mp read
    cases same
    rcases List.mem_cons.mp member with rfl | tail
    · exact ⟨item, List.mem_cons_self .., here⟩
    · obtain ⟨other, found, reads⟩ := ih there tail
      exact ⟨other, List.mem_cons_of_mem _ found, reads⟩

namespace Json

theorem ofFields_eq (fields : List (String × Json)) : ofFields fields = .object (Dictionary.ofList fields).entries := by
  have run (start : Dictionary Json) :
      fields.foldl (fun sorted field => Dictionary.put field.1 field.2 sorted) start.entries =
        (fields.foldl (fun dictionary field => dictionary.insert field.1 field.2) start).entries := by
    induction fields generalizing start with
    | nil => rfl
    | cons field rest ih => exact ih (start.insert field.1 field.2)
  exact congrArg object (run ∅)

@[simp] theorem record?_ofFields (names : List String) (fields : List (String × Json)) :
    (ofFields fields).record? names = some (ofFields fields) := rfl

@[simp] theorem field?_ofFields (fields : List (String × Json)) (name : String) :
    (ofFields fields).field? name = fields.reverse.lookup name := by
  rw [ofFields_eq]
  exact Dictionary.get?_ofList fields name

@[simp] theorem typed?_ofFields (names : String → List String) (fields : List (String × Json)) :
    (ofFields fields).typed? names = ((fields.reverse.lookup "type").bind string?).map (·, ofFields fields) := by
  rw [← field?_ofFields, Option.map_eq_bind, Option.bind_assoc]
  rfl

/-- The items of an array, each of them read in the same way. -/
def listOf? {α : Type} (read? : Json → Option α) (json : Json) : Option (List α) := do (← json.items?).mapM read?

variable {α : Type} {read? : Json → Option α} {json : Json} {name : String}

theorem required_eq {field : Json} {value : α} (found : json.field? name = some field)
    (reads : read? field = some value) : json.required name read? = some value := by
  rw [required, found]
  exact reads

theorem exists_of_required {value : α} (read : json.required name read? = some value) :
    ∃ field, read? field = some value := by
  obtain ⟨field, _, reads⟩ := Option.bind_eq_some_iff.mp read
  exact ⟨field, reads⟩

theorem exists_of_listOf? {values : List α} (read : listOf? read? json = some values) :
    ∀ value ∈ values, ∃ item, read? item = some value := by
  intro value member
  obtain ⟨_, _, each⟩ := Option.bind_eq_some_iff.mp read
  obtain ⟨item, _, reads⟩ := exists_of_mapM_eq_some each member
  exact ⟨item, reads⟩

theorem exists_of_defaulted_list {values : List α} (read : json.defaulted name [] (listOf? read?) = some values) :
    ∀ value ∈ values, ∃ item, read? item = some value := by
  rw [defaulted] at read
  split at read
  next =>
    cases read
    exact nofun
  next => exact exists_of_listOf? read

theorem listOf?_map {write : α → Json} {values : List α}
    (back : ∀ value ∈ values, read? (write value) = some value) :
    listOf? read? (.array (values.map write)) = some values := mapM_map_eq_some back

end Json

end AttributeRelease
