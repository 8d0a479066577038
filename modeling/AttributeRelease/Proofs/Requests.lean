import AttributeRelease.Proofs.ValueSets
import AttributeRelease.Request.Basic

/-! Attributes of a request are found by their ids, which are distinct. A request is reduced by
taking values from its attributes or leaving attributes out. -/

namespace AttributeRelease

namespace Request

theorem mem_of_attribute? {request : Request} {id : String} {attr : Attribute}
    (found : request.attribute? id = some attr) : attr ∈ request.attributes ∧ attr.id = id :=
  ⟨List.mem_of_find?_eq_some found, by simpa using List.find?_some found⟩

private theorem find_of_mem {attributes : List Attribute} (distinct : (attributes.map Attribute.id).Nodup)
    {attr : Attribute} (member : attr ∈ attributes) : attributes.find? (·.id == attr.id) = some attr := by
  induction attributes with
  | nil => cases member
  | cons first rest ih =>
    obtain ⟨absent, later⟩ := List.nodup_cons.mp distinct
    rcases List.mem_cons.mp member with rfl | tail
    · simp
    · have different : first.id ≠ attr.id := by
        intro same
        exact absent (same ▸ List.mem_map_of_mem tail)
      rw [List.find?_cons_of_neg (by simpa using different)]
      exact ih later tail

theorem attribute?_of_mem {request : Request} {attr : Attribute} (member : attr ∈ request.attributes) :
    request.attribute? attr.id = some attr := find_of_mem request.distinct member

theorem attribute?_eq_some_iff {request : Request} {id : String} {attr : Attribute} :
    request.attribute? id = some attr ↔ attr ∈ request.attributes ∧ attr.id = id := by
  refine ⟨mem_of_attribute?, ?_⟩
  rintro ⟨member, rfl⟩
  exact attribute?_of_mem member

theorem attribute?_eq_none_iff {request : Request} {id : String} :
    request.attribute? id = none ↔ id ∉ request.attributes.map Attribute.id := by
  rw [attribute?, List.find?_eq_none]
  simp

end Request

private theorem mergeAttribute_of_new {attr : Attribute} {merged : List Attribute}
    (new : attr.id ∉ merged.map Attribute.id) : mergeAttribute attr merged = merged ++ [attr] := by
  induction merged with
  | nil => rfl
  | cons known rest ih =>
    rw [List.map_cons, List.mem_cons, not_or] at new
    rw [mergeAttribute, if_neg (Ne.symm new.1), ih new.2, List.cons_append]

theorem mergeAttributes_of_distinct {attributes : List Attribute} (distinct : (attributes.map Attribute.id).Nodup) :
    mergeAttributes attributes = attributes := by
  have run (merged : List Attribute) (apart : ((merged ++ attributes).map Attribute.id).Nodup) :
      attributes.foldl (fun merged attr => mergeAttribute attr merged) merged = merged ++ attributes := by
    clear distinct
    induction attributes generalizing merged with
    | nil => simp
    | cons attr rest ih =>
      have new : attr.id ∉ merged.map Attribute.id := by
        intro present
        rw [List.map_append, List.nodup_append] at apart
        exact apart.2.2 attr.id present attr.id (by simp) rfl
      rw [List.foldl_cons, mergeAttribute_of_new new, ih _ (by simpa using apart), List.append_assoc, List.singleton_append]
  exact run [] distinct

/-- Some attributes have been cut down to a part of their values, or left out. Those with a fixed
id are what they were. -/
inductive Reduced (fixed : List String) : List Attribute → List Attribute → Prop where
  | nil : Reduced fixed [] []
  | keep {attr before after} (rest : Reduced fixed before after) : Reduced fixed (attr :: before) (attr :: after)
  | cut {attr before after} {values : ValueSet} (free : attr.id ∉ fixed)
      (part : values.toList.Sublist attr.values.toList) (rest : Reduced fixed before after) :
      Reduced fixed (attr :: before) ({ attr with values } :: after)
  | drop {attr before after} (free : attr.id ∉ fixed) (rest : Reduced fixed before after) :
      Reduced fixed (attr :: before) after

namespace Reduced

variable {fixed : List String} {before after : List Attribute}

theorem ids (reduced : Reduced fixed before after) :
    (after.map Attribute.id).Sublist (before.map Attribute.id) := by
  induction reduced with
  | nil => exact List.Sublist.slnil
  | keep rest ih => exact ih.cons_cons _
  | cut free part rest ih => exact ih.cons_cons _
  | drop free rest ih => exact ih.cons _

theorem find?_fixed (reduced : Reduced fixed before after) {id : String} (member : id ∈ fixed) :
    after.find? (·.id == id) = before.find? (·.id == id) := by
  induction reduced with
  | nil => rfl
  | keep rest ih => rw [List.find?_cons, List.find?_cons, ih]
  | @cut attr _ _ _ free part rest ih =>
    have other : (attr.id == id) = false := beq_eq_false_iff_ne.mpr fun same => free (same ▸ member)
    simp only [List.find?_cons, other, ih]
  | @drop attr _ _ free rest ih =>
    have other : (attr.id == id) = false := beq_eq_false_iff_ne.mpr fun same => free (same ▸ member)
    simp only [List.find?_cons, other, ih]

/-- What is left comes from an attribute with the same id, of which it has a part of the values. -/
theorem source (reduced : Reduced fixed before after) {left : Attribute} (member : left ∈ after) :
    ∃ attr ∈ before, ∃ values : ValueSet, values.toList.Sublist attr.values.toList ∧ left = { attr with values } := by
  induction reduced with
  | nil => cases member
  | @keep attr _ _ rest ih =>
    rcases List.mem_cons.mp member with rfl | tail
    · exact ⟨left, by simp, left.values, List.Sublist.refl _, rfl⟩
    · obtain ⟨origin, inside, found⟩ := ih tail
      exact ⟨origin, List.mem_cons_of_mem _ inside, found⟩
  | @cut attr _ _ values free part rest ih =>
    rcases List.mem_cons.mp member with rfl | tail
    · exact ⟨attr, by simp, values, part, rfl⟩
    · obtain ⟨origin, inside, found⟩ := ih tail
      exact ⟨origin, List.mem_cons_of_mem _ inside, found⟩
  | drop free rest ih =>
    obtain ⟨origin, inside, found⟩ := ih member
    exact ⟨origin, List.mem_cons_of_mem _ inside, found⟩

private theorem eq_filterMap_lookup (reduced : Reduced fixed before after) (distinct : (before.map Attribute.id).Nodup)
    (lookup : String → Option Attribute) (present : ∀ left ∈ after, lookup left.id = some left)
    (absent : ∀ attr ∈ before, attr.id ∉ after.map Attribute.id → lookup attr.id = none) :
    before.filterMap (fun attr => lookup attr.id) = after := by
  have skip {attr : Attribute} {rest left : List Attribute} (apart : attr.id ∉ rest.map Attribute.id)
      (absent : ∀ other ∈ rest, other.id ∉ attr.id :: left.map Attribute.id → lookup other.id = none) :
      ∀ other ∈ rest, other.id ∉ left.map Attribute.id → lookup other.id = none := by
    intro other member new
    refine absent other member fun seen => ?_
    rcases List.mem_cons.mp seen with same | old
    · exact apart (same ▸ List.mem_map_of_mem member)
    · exact new old
  induction reduced with
  | nil => rfl
  | @keep attr _ _ rest ih =>
    obtain ⟨apart, distinct⟩ := List.nodup_cons.mp distinct
    obtain ⟨here, present⟩ := List.forall_mem_cons.mp present
    simp only [List.filterMap_cons, here]
    rw [ih distinct present (skip apart (List.forall_mem_cons.mp absent).2)]
  | @cut attr _ _ values free part rest ih =>
    obtain ⟨apart, distinct⟩ := List.nodup_cons.mp distinct
    obtain ⟨here, present⟩ := List.forall_mem_cons.mp present
    simp only [List.filterMap_cons, here]
    rw [ih distinct present (skip apart (List.forall_mem_cons.mp absent).2)]
  | drop free rest ih =>
    obtain ⟨apart, distinct⟩ := List.nodup_cons.mp distinct
    obtain ⟨here, absent⟩ := List.forall_mem_cons.mp absent
    simp only [List.filterMap_cons, here fun seen => apart (rest.ids.subset seen)]
    exact ih distinct present absent

theorem attributes_eq {full left : Request} (reduced : Reduced fixed full.attributes left.attributes) :
    full.attributes.filterMap (fun attr => left.attribute? attr.id) = left.attributes :=
  reduced.eq_filterMap_lookup full.distinct left.attribute? (fun _ member => Request.attribute?_of_mem member)
    (fun _ _ new => Request.attribute?_eq_none_iff.mpr new)

theorem of_only? (attributes : List Attribute) (keep : Attribute → Value → Bool) :
    Reduced [] attributes (attributes.filterMap fun attr => attr.only? (keep attr)) := by
  induction attributes with
  | nil => exact nil
  | cons attr rest ih =>
    cases kept : attr.only? (keep attr) with
    | none =>
      simp only [List.filterMap_cons, kept]
      exact drop (by simp) ih
    | some left =>
      simp only [List.filterMap_cons, kept]
      obtain ⟨rfl, _⟩ := Attribute.only?_eq_some_iff.mp kept
      exact cut (by simp) List.filter_sublist ih

end Reduced

end AttributeRelease
