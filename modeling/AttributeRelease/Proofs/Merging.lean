import AttributeRelease.Proofs.Requests

/-! Merging gathers attributes by their ids. The first attribute of an id gives everything but the values, and these
come from all attributes of the id, each value where it is met first. Whether that is done at once or in steps makes no
difference. -/

namespace AttributeRelease

/-- The values of all attributes of an id, one attribute after the other. -/
def valuesOf (attributes : List Attribute) (id : String) : List Value :=
  (attributes.filter (·.id = id)).flatMap (·.values.toList)

theorem valuesOf_cons_of_eq {first : Attribute} {id : String} (same : first.id = id) (rest : List Attribute) :
    valuesOf (first :: rest) id = first.values.toList ++ valuesOf rest id := by
  rw [valuesOf, List.filter_cons_of_pos (by simpa using same), List.flatMap_cons, valuesOf]

theorem valuesOf_cons_of_ne {first : Attribute} {id : String} (different : first.id ≠ id) (rest : List Attribute) :
    valuesOf (first :: rest) id = valuesOf rest id := by
  rw [valuesOf, List.filter_cons_of_neg (by simpa using different), valuesOf]

/-- The first attribute takes the values of all that have its id, and the others are merged among themselves. -/
theorem mergeAttributes_cons (first : Attribute) (rest : List Attribute) :
    mergeAttributes (first :: rest) =
      first.insertAll (valuesOf rest first.id) :: mergeAttributes (rest.filter (·.id ≠ first.id)) := by
  have run (first : Attribute) (merged : List Attribute) :
      rest.foldl (fun merged attr => mergeAttribute attr merged) (first :: merged) =
        first.insertAll (valuesOf rest first.id) ::
          (rest.filter (·.id ≠ first.id)).foldl (fun merged attr => mergeAttribute attr merged) merged := by
    induction rest generalizing first merged with
    | nil => rfl
    | cons attr rest ih =>
      rw [List.foldl_cons, mergeAttribute]
      split
      next same =>
        rw [ih, valuesOf_cons_of_eq same.symm, List.filter_cons_of_neg (by simpa using same.symm)]
        refine congrArg (· :: _) ?_
        exact congrArg ({ first with values := · }) (ValueSet.insertAll_append ..).symm
      next different =>
        rw [ih, valuesOf_cons_of_ne (Ne.symm different), List.filter_cons_of_pos (by simpa using Ne.symm different),
          List.foldl_cons]
  exact run first []

theorem mergeAttributes_eq_nil_iff {attributes : List Attribute} : mergeAttributes attributes = [] ↔ attributes = [] := by
  cases attributes with
  | nil => simp [mergeAttributes]
  | cons first rest => simp [mergeAttributes_cons]

theorem ids_mergeAttributes (attributes : List Attribute) :
    (mergeAttributes attributes).map Attribute.id = (attributes.map Attribute.id).eraseDups := by
  match attributes with
  | [] => rfl
  | first :: rest =>
    have others : (rest.map Attribute.id).filter (fun id => !id == first.id) =
        (rest.filter (·.id ≠ first.id)).map Attribute.id := by
      rw [List.filter_map]
      refine congrArg (List.map Attribute.id) (List.filter_congr fun attr _ => ?_)
      rw [Bool.eq_iff_iff]
      simp
    rw [mergeAttributes_cons, List.map_cons, ids_mergeAttributes, List.map_cons, List.eraseDups_cons, others]
    rfl
termination_by attributes.length
decreasing_by exact Nat.lt_succ_of_le (List.length_filter_le ..)

theorem eq_of_mem_mergeAttributes {attributes : List Attribute} {attr : Attribute}
    (member : attr ∈ mergeAttributes attributes) :
    ∃ first, attributes.find? (·.id = attr.id) = some first ∧
      attr = { first with values := .ofList (valuesOf attributes attr.id) } := by
  match attributes with
  | [] => cases member
  | first :: rest =>
    rw [mergeAttributes_cons] at member
    rcases List.mem_cons.mp member with rfl | later
    · refine ⟨first, List.find?_cons_of_pos (by simp [Attribute.insertAll]), ?_⟩
      have gathered : first.values.insertAll (valuesOf rest first.id) = .ofList (valuesOf (first :: rest) first.id) := by
        rw [ValueSet.insertAll_eq_ofList, valuesOf_cons_of_eq rfl]
      exact congrArg ({ first with values := · }) gathered
    · -- The entry is for another id, and what has that id is in what is left.
      obtain ⟨found, first?, made⟩ := eq_of_mem_mergeAttributes later
      have other : first.id ≠ attr.id := by
        have inside := List.mem_filter.mp (List.mem_of_find?_eq_some first?)
        have named : found.id = attr.id := by simpa using List.find?_some first?
        exact fun same => absurd (named.trans same.symm) (by simpa using inside.2)
      have same : (rest.filter (·.id ≠ first.id)).filter (·.id = attr.id) = rest.filter (·.id = attr.id) := by
        rw [List.filter_filter]
        refine List.filter_congr fun candidate _ => ?_
        by_cases named : candidate.id = attr.id
        · simp [named, Ne.symm other]
        · simp [named]
      rw [← List.head?_filter, same, List.head?_filter] at first?
      rw [valuesOf, same] at made
      refine ⟨found, (List.find?_cons_of_neg (by simpa using other)).trans first?, ?_⟩
      rw [valuesOf_cons_of_ne other]
      exact made
termination_by attributes.length
decreasing_by exact Nat.lt_succ_of_le (List.length_filter_le ..)

/-- What has been merged takes further attributes as the attributes themselves would. -/
theorem mergeAttributes_append (first second : List Attribute) :
    mergeAttributes (first ++ second) =
      second.foldl (fun merged attr => mergeAttribute attr merged) (mergeAttributes first) :=
  List.foldl_append

namespace Request

/-- A request has one entry for each id among the resolved attributes, in the order in which the ids are met first, and
finds it under that id. The entry is named and described like the first attribute of the id, and has the values of all of
them, each value where it is met first. Attributes that are resolved later could as well be merged with the entries. -/
theorem ofAttributes_gathers (facts : Facts) (attributes later : List Attribute) :
    let request := ofAttributes facts attributes
    request.attributes.map Attribute.id = (attributes.map Attribute.id).eraseDups ∧
      (∀ attr ∈ request.attributes, request.attribute? attr.id = some attr ∧
        ∃ first, attributes.find? (·.id = attr.id) = some first ∧ attr.displayNames = first.displayNames ∧
          attr.displayDescriptions = first.displayDescriptions ∧
          attr.values.toList = (valuesOf attributes attr.id).eraseDups) ∧
      ofAttributes facts (request.attributes ++ later) = ofAttributes facts (attributes ++ later) := by
  intro request
  refine ⟨ids_mergeAttributes attributes, fun attr member => ⟨attribute?_of_mem member, ?entry⟩, ?steps⟩
  case entry =>
    obtain ⟨first, found, made⟩ := eq_of_mem_mergeAttributes member
    have names := congrArg (·.displayNames) made
    have descriptions := congrArg (·.displayDescriptions) made
    have values := congrArg (·.values.toList) made
    exact ⟨first, found, names, descriptions, values.trans (ValueSet.toList_ofList _)⟩
  case steps =>
    have merged : mergeAttributes request.attributes = mergeAttributes attributes :=
      mergeAttributes_of_distinct request.distinct
    have same : mergeAttributes (request.attributes ++ later) = mergeAttributes (attributes ++ later) := by
      rw [mergeAttributes_append, merged, ← mergeAttributes_append]
    simp only [ofAttributes, same]

private def resolved : List Attribute :=
  let mail (names : Dictionary String) (values : List Value) : Attribute :=
    { id := "mail", displayNames := names, values := .ofList values }
  [mail (.ofList [("en", "Mail")]) [.string "a", .string "b"], { id := "phone" },
    mail (.ofList [("de", "Post")]) [.string "c", .string "a"]]

/-- Of two attributes of one id, the second adds one of its values, and its name is lost. A third one adds another
value behind the two entries. -/
theorem ofAttributes_gathers_mail :
    let request := ofAttributes default resolved
    request.attributes.map Attribute.id = ["mail", "phone"] ∧
      (∃ mail, request.attribute? "mail" = some mail ∧ mail.displayNames = .ofList [("en", "Mail")] ∧
        mail.values.toList = [.string "a", .string "b", .string "c"]) ∧
      ofAttributes default (request.attributes ++ [{ id := "mail", values := .ofList [.string "d"] }]) =
        ofAttributes default (resolved ++ [{ id := "mail", values := .ofList [.string "d"] }]) := by
  intro request
  obtain ⟨ids, entries, steps⟩ := ofAttributes_gathers default resolved [{ id := "mail", values := .ofList [.string "d"] }]
  have member : { resolved[0] with values := .ofList [.string "a", .string "b", .string "c"] } ∈ request.attributes := by
    decide
  obtain ⟨found, first, firstFound, names, _, values⟩ := entries _ member
  have same : resolved.find? (·.id = "mail") = some resolved[0] := rfl
  cases Option.some.inj (same.symm.trans firstFound)
  exact ⟨ids, ⟨_, found, names, values⟩, steps⟩

end Request

end AttributeRelease
