import AttributeRelease.Request.Facts

/-! A request: its facts, and the attributes that were resolved for its principal. -/

namespace AttributeRelease

/-- Adds an attribute to a collection with one entry for each id. If the id is there already,
only the values are added to its entry. -/
def mergeAttribute (attr : Attribute) : List Attribute → List Attribute
  | [] => [attr]
  | known :: rest =>
    if known.id = attr.id then known.insertAll attr.values.toList :: rest
    else known :: mergeAttribute attr rest

theorem ids_mergeAttribute (attr : Attribute) (attributes : List Attribute) :
    (mergeAttribute attr attributes).map Attribute.id =
      if attr.id ∈ attributes.map Attribute.id then attributes.map Attribute.id
      else attributes.map Attribute.id ++ [attr.id] := by
  induction attributes with
  | nil => simp [mergeAttribute]
  | cons known rest ih =>
    rw [mergeAttribute]
    split
    · rename_i same
      simp [Attribute.insertAll, same]
    · rename_i different
      simp only [List.map_cons, ih, List.mem_cons, Ne.symm different, false_or]
      split <;> simp

/-- The attributes merged one after the other. -/
def mergeAttributes (attributes : List Attribute) : List Attribute :=
  attributes.foldl (fun merged attr => mergeAttribute attr merged) []

theorem ids_nodup_foldl_merge (attributes merged : List Attribute)
    (distinct : (merged.map Attribute.id).Nodup) :
    ((attributes.foldl (fun merged attr => mergeAttribute attr merged) merged).map
      Attribute.id).Nodup := by
  induction attributes generalizing merged with
  | nil => exact distinct
  | cons attr rest ih =>
    refine ih _ ?_
    rw [ids_mergeAttribute]
    split
    · exact distinct
    · rename_i absent
      refine List.nodup_append.mpr ⟨distinct, List.nodup_cons.mpr ⟨by simp, List.nodup_nil⟩, ?_⟩
      intro left member right single same
      rw [List.mem_singleton.mp single] at same
      exact absent (same ▸ member)

structure Request where
  facts : Facts
  attributes : List Attribute
  distinct : (attributes.map Attribute.id).Nodup

namespace Request

/-- Attributes of one id are merged into the first of them. -/
def ofAttributes (facts : Facts) (attributes : List Attribute) : Request :=
  ⟨facts, mergeAttributes attributes, ids_nodup_foldl_merge attributes [] List.nodup_nil⟩

instance : Inhabited Request := ⟨ofAttributes default []⟩

def attribute? (request : Request) (id : String) : Option Attribute :=
  request.attributes.find? (·.id == id)

end Request

end AttributeRelease
