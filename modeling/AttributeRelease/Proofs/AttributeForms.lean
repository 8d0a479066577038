import AttributeRelease.Attribute.Serial
import AttributeRelease.Proofs.Fields
import AttributeRelease.Proofs.ValueSets
import AttributeRelease.Transcoding.Catalog

/-! Values, attributes, claims and transcoding rules are read back from what is written of them. -/

namespace AttributeRelease

namespace Json

theorem natural?_integer {value : Int} (word : isUnsignedWord value = true) :
    (integer value).natural? = some value.toNat := by
  rw [natural?, integer?, Option.bind_eq_bind, Option.bind_some, if_pos word]

theorem byte?_integer (byte : UInt8) : (integer byte.toNat).byte? = some byte := by
  have bound := byte.toNat_lt
  have word : isUnsignedWord byte.toNat = true := isUnsignedWord_iff.mpr ⟨by omega, by omega⟩
  have small : byte.toNat < 256 := bound
  rw [byte?, natural?_integer word, Int.toNat_natCast, Option.bind_eq_bind, Option.bind_some, if_pos small]
  simp

theorem texts?_ofTexts (texts : Dictionary String) : (ofTexts texts).texts? = some texts := by
  rw [texts?, ofTexts, fields?, Option.bind_eq_bind, Option.bind_some, mapM_map_eq_some]
  · exact congrArg some texts.ofList_entries
  · exact fun _ _ => rfl

end Json

theorem EmptyKind.ofJson?_name (kind : EmptyKind) : ofJson? (.string kind.name) = some kind := by
  cases kind <;> rfl

theorem Value.ofJson?_toJson (value : Value) : ofJson? value.toJson = some value := by
  cases value with
  | binary data =>
    have bytes : Json.listOf? Json.byte? (.array (data.map fun byte => .integer byte.toNat)) = some data :=
      Json.listOf?_map fun byte _ => Json.byte?_integer byte
    have items : (data.map fun byte => Json.integer byte.toNat).mapM Json.byte? = some data := bytes
    simp [ofJson?, toJson, Json.required, Json.string?, Json.items?, List.lookup_cons, items]
  | empty kind => simp [ofJson?, toJson, Json.required, Json.string?, List.lookup_cons, EmptyKind.ofJson?_name]
  | _ => simp [ofJson?, toJson, Json.required, Json.string?, List.lookup_cons]

theorem ValueSet.ofJson?_toJson (values : ValueSet) : ofJson? values.toJson = some values := by
  have items : Json.listOf? Value.ofJson? values.toJson = some values.toList :=
    Json.listOf?_map fun value _ => Value.ofJson?_toJson value
  have read : ofJson? values.toJson =
      (Json.listOf? Value.ofJson? values.toJson).bind fun items => some (ofList items) := rfl
  rw [read, items, Option.bind_some, ofList_eq values.nodup]

theorem Claim.ofJson?_toJson (claim : Claim) : ofJson? claim.toJson = some claim := by
  simp [ofJson?, toJson, Json.required, Json.string?, List.lookup_cons]

theorem Attribute.ofJson?_toJson (attr : Attribute) : ofJson? attr.toJson = some attr := by
  obtain ⟨id, names, descriptions, values⟩ := attr
  have valuesBack := values.ofJson?_toJson
  have namesBack := Json.texts?_ofTexts names
  have descriptionsBack := Json.texts?_ofTexts descriptions
  -- Texts are written unless there are none, so the fields that stand there differ.
  by_cases unnamed : names = ∅
  all_goals by_cases undescribed : descriptions = ∅
  all_goals simp [ofJson?, toJson, Json.required, Json.defaulted, Json.string?, List.lookup_cons, Dictionary.isEmpty_iff,
    unnamed, undescribed, valuesBack, namesBack, descriptionsBack]

namespace Property

/-- Integers of a JSON value have 64 bits. -/
def Fits : Property → Prop
  | .integer value => isSignedWord value = true
  | _ => True

theorem ofJson?_toJson {property : Property} (fits : property.Fits) : ofJson? property.toJson = some property := by
  cases property with
  | bool _ => rfl
  | string _ => rfl
  | integer _ => exact if_pos fits
  | list values =>
    have back : (values.map Json.string).mapM Json.string? = some values := mapM_map_eq_some fun _ _ => rfl
    rw [toJson, Json.strings, ofJson?, back]
    rfl

theorem fits_of_ofJson? {json : Json} {property : Property} (read : ofJson? json = some property) : property.Fits := by
  cases json with
  | integer value =>
    rw [ofJson?] at read
    split at read
    next word =>
      cases read
      exact word
    next => cases read
  | array items =>
    obtain ⟨_, _, rfl⟩ := Option.map_eq_some_iff.mp read
    trivial
  | bool _ | string _ =>
    cases read
    trivial
  | _ => cases read

end Property

namespace TranscodingRuleDefinition

/-- The name of the transcoder stands among the properties, which cannot have a property of that name. -/
structure Fits (definition : TranscodingRuleDefinition) : Prop where
  properties : ∀ entry ∈ definition.properties.entries, entry.2.Fits
  unnamed : definition.properties.get? "transcoder" = none

theorem ofJson?_toJson {definition : TranscodingRuleDefinition} (fits : definition.Fits) :
    ofJson? definition.toJson = some definition := by
  obtain ⟨transcoder, properties⟩ := definition
  let fields : Dictionary Json := ⟨properties.toFields, by
    rw [Properties.toFields, List.map_map]
    exact properties.sorted⟩
  have absent : fields.get? "transcoder" = none := by
    have found := Dictionary.lookup_map Property.toJson properties.entries "transcoder"
    exact found.trans (congrArg (Option.map Property.toJson) fits.unnamed)
  have written : toJson ⟨transcoder, properties⟩ =
      .object (Dictionary.ofList (("transcoder", .string transcoder) :: fields.entries)).entries :=
    Json.ofFields_eq _
  have named : (toJson ⟨transcoder, properties⟩).field? "transcoder" = some (.string transcoder) := by
    have found := fields.get?_ofList_cons "transcoder" "transcoder" (.string transcoder)
    rw [absent, if_pos rfl] at found
    exact written ▸ found
  have others : (Dictionary.ofList (("transcoder", .string transcoder) :: fields.entries)).entries.filter
      (·.1 != "transcoder") = properties.toFields :=
    congrArg Dictionary.entries (Dictionary.erase_ofList_cons absent (.string transcoder))
  have back : Properties.ofJson? (.object properties.toFields) = some properties := by
    rw [Properties.ofJson?, Json.fields?, Option.bind_eq_bind, Option.bind_some, Properties.toFields, mapM_map_eq_some]
    · exact congrArg some properties.ofList_entries
    · intro entry member
      simp only [Property.ofJson?_toJson (fits.properties entry member)]
      rfl
  rw [ofJson?, Json.required_eq named (by rfl), written, Json.fields?]
  simp only [Option.bind_eq_bind, Option.bind_some, others, back]
  rfl

theorem fits_of_ofJson? {json : Json} {definition : TranscodingRuleDefinition} (read : ofJson? json = some definition) :
    definition.Fits := by
  obtain ⟨transcoder, _, afterName⟩ := Option.bind_eq_some_iff.mp read
  obtain ⟨fields, _, afterFields⟩ := Option.bind_eq_some_iff.mp afterName
  obtain ⟨properties, others, whole⟩ := Option.bind_eq_some_iff.mp afterFields
  obtain ⟨entries, items, listed⟩ := Option.bind_eq_some_iff.mp others
  have each : ∀ entry ∈ properties.entries, entry.1 ≠ "transcoder" ∧ entry.2.Fits := by
    intro entry member
    cases listed
    obtain ⟨field, found, reads⟩ := exists_of_mapM_eq_some items (Dictionary.mem_of_mem_ofList member)
    obtain ⟨property, held, same⟩ := Option.bind_eq_some_iff.mp reads
    cases same
    have different := (List.mem_filter.mp found).2
    exact ⟨by simpa using different, Property.fits_of_ofJson? held⟩
  cases whole
  refine ⟨fun entry member => (each entry member).2, ?_⟩
  cases found : properties.get? "transcoder" with
  | none => rfl
  | some property => exact absurd rfl (each _ (Dictionary.get?_eq_some_iff.mp found)).1

end TranscodingRuleDefinition

end AttributeRelease
