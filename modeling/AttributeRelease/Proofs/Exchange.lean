import AttributeRelease.Proofs.Emission

/-! What a registry makes of attributes and of objects, in terms of its rules. Rules that a registry finds
for a type have a transcoder for it, so no exchange fails for want of one. -/

namespace AttributeRelease

/-- Some attribute of an id has a value. -/
def Carries (attributes : List Attribute) (id : String) (value : Value) : Prop :=
  ∃ attr ∈ attributes, attr.id = id ∧ value ∈ attr.values

theorem carries_cons {first : Attribute} {rest : List Attribute} {id : String} {value : Value} :
    Carries (first :: rest) id value ↔ (first.id = id ∧ value ∈ first.values) ∨ Carries rest id value := by
  simp [Carries]

theorem carries_mergeAttribute {attr : Attribute} {merged : List Attribute} {id : String} {value : Value} :
    Carries (mergeAttribute attr merged) id value ↔
      Carries merged id value ∨ (attr.id = id ∧ value ∈ attr.values) := by
  induction merged with
  | nil => simp [mergeAttribute, Carries]
  | cons known rest ih =>
    rw [mergeAttribute]
    split
    next same =>
      have inserted : value ∈ (known.insertAll attr.values.toList).values ↔ value ∈ known.values ∨ value ∈ attr.values :=
        ValueSet.mem_insertAll
      have named : (known.insertAll attr.values.toList).id = known.id := rfl
      rw [carries_cons, carries_cons, inserted, named, same]
      tauto
    · rw [carries_cons, carries_cons, ih, or_assoc]

theorem carries_mergeAttributes {attributes : List Attribute} {id : String} {value : Value} :
    Carries (mergeAttributes attributes) id value ↔ Carries attributes id value := by
  have run (merged : List Attribute) :
      Carries (attributes.foldl (fun merged attr => mergeAttribute attr merged) merged) id value ↔
        Carries merged id value ∨ Carries attributes id value := by
    induction attributes generalizing merged with
    | nil => simp [Carries]
    | cons attr rest ih => rw [List.foldl_cons, ih, carries_mergeAttribute, carries_cons, or_assoc]
  rw [mergeAttributes, run]
  simp [Carries]

theorem Transcoder.typed?_eq_some_iff {transcoder : Transcoder} {type : WireType} {typed : TypedTranscoder type} :
    transcoder.typed? type = some typed ↔ transcoder = ⟨type, typed⟩ := by
  obtain ⟨other, inner⟩ := transcoder
  rw [typed?]
  constructor
  · intro found
    split at found
    next same =>
      cases same
      cases found
      rfl
    · cases found
  · intro same
    cases same
    exact dif_pos rfl

namespace TranscodingRule

/-- The value of an object, if the transcoder of the rule is for its type and decodes it. -/
def decode? (rule : TranscodingRule) (type : WireType) (facts : Facts) (object : type.Object) : Option Value :=
  (rule.transcoder.typed? type).bind fun transcoder =>
    match transcoder.decode facts object rule.properties with
    | .ok value => value
    | .error _ => none

theorem encode?_eq_some_iff {rule : TranscodingRule} {type : WireType} {facts : Facts} {attr : Attribute} {value : Value}
    {object : type.Object} :
    rule.encode? type facts attr value = some object ↔
      ∃ typed, rule.transcoder = ⟨type, typed⟩ ∧ typed.canEncode attr value = true ∧
        typed.encode facts attr rule.properties value = .ok object := by
  rw [encode?, Option.bind_eq_some_iff]
  refine exists_congr fun typed => and_congr Transcoder.typed?_eq_some_iff ?_
  cases typed.canEncode attr value <;> cases typed.encode facts attr rule.properties value <;> simp [Except.toOption]

theorem decode?_eq_some_iff {rule : TranscodingRule} {type : WireType} {facts : Facts} {object : type.Object}
    {value : Value} :
    rule.decode? type facts object = some value ↔
      ∃ typed, rule.transcoder = ⟨type, typed⟩ ∧ typed.decode facts object rule.properties = .ok (some value) := by
  rw [decode?, Option.bind_eq_some_iff]
  refine exists_congr fun typed => and_congr Transcoder.typed?_eq_some_iff ?_
  cases typed.decode facts object rule.properties <;> simp

/-- What the rule adds to the attributes that an object stands for. -/
def contribution? (rule : TranscodingRule) (type : WireType) (facts : Facts) (object : type.Object) : Option Attribute :=
  if rule.isActive facts then
    rule.attributeId?.bind fun id =>
      (rule.decode? type facts object).map fun value => { id, values := .ofList [value] }
  else none

end TranscodingRule

theorem foldlM_isOk {ε α β : Type} {step : β → α → Except ε β} {result : β → α → β} {items : List α}
    (each : ∀ item ∈ items, ∀ state, step state item = .ok (result state item)) (state : β) :
    items.foldlM step state = .ok (items.foldl result state) := by
  induction items generalizing state with
  | nil => rfl
  | cons item rest ih =>
    obtain ⟨here, later⟩ := List.forall_mem_cons.mp each
    rw [List.foldlM_cons, here, List.foldl_cons]
    exact ih later (result state item)

namespace Registry

theorem type_of_mem_decoders {registry : Registry} {type : WireType} {object : type.Object} {rule : TranscodingRule}
    (member : rule ∈ registry.decoders object) : rule.type = type := by
  rw [decoders] at member
  cases named : registry.canonicalName? object with
  | none =>
    rw [named] at member
    cases member
  | some name =>
    rw [named] at member
    have kept : rule ∈ ((registry.byName.get? name).getD []).filter (·.type == type) := member
    simpa using (List.mem_filter.mp kept).2

private theorem decodeBy_isOk {rule : TranscodingRule} {type : WireType} (same : rule.type = type) (facts : Facts)
    (object : type.Object) (decoded : List Attribute) :
    decodeBy facts object decoded rule =
      .ok (match rule.contribution? type facts object with
        | some attr => mergeAttribute attr decoded
        | none => decoded) := by
  rw [decodeBy, TranscodingRule.contribution?]
  cases rule.attributeId? with
  | none => cases rule.isActive facts <;> rfl
  | some id =>
    obtain ⟨transcoder, found, typed⟩ := rule.typed_of_type same id
    rw [TranscodingRule.decode?, found]
    simp only [typed, bind, Except.bind, Option.bind_some]
    cases rule.isActive facts with
    | false => rfl
    | true =>
      rcases transcoder.decode facts object rule.properties with error | (_ | value) <;> rfl

theorem decode_eq (registry : Registry) (facts : Facts) {type : WireType} (object : type.Object) (strict : Bool) :
    registry.decode facts object strict =
      if (mergeAttributes ((registry.decoders object).filterMap (·.contribution? type facts object))).isEmpty && strict then
        .error (.decoding (.unmatched ((registry.canonicalName? object).getD "")))
      else .ok (mergeAttributes ((registry.decoders object).filterMap (·.contribution? type facts object))) := by
  have run : (registry.decoders object).foldlM (decodeBy facts object) [] =
      .ok (mergeAttributes ((registry.decoders object).filterMap (·.contribution? type facts object))) := by
    rw [mergeAttributes, List.foldl_filterMap]
    refine foldlM_isOk (fun rule member state => ?_) []
    rw [decodeBy_isOk (type_of_mem_decoders member)]
    cases rule.contribution? type facts object <;> rfl
  rw [decode, run]
  rfl

/-- What a rule makes of the values of an attribute. -/
def block (type : WireType) (facts : Facts) (attr : Attribute) (rule : TranscodingRule) : List type.Object :=
  attr.values.toList.filterMap (rule.encode? type facts attr)

theorem encodeFirstBy_eq {type : WireType} (facts : Facts) (attr : Attribute) {found : List TranscodingRule}
    (each : ∀ rule ∈ found, rule.type = type) :
    encodeFirstBy type facts attr found =
      .ok ((((found.filter (·.isActive facts)).map (block type facts attr)).find? (!·.isEmpty)).getD []) := by
  induction found with
  | nil => rfl
  | cons rule rest ih =>
    obtain ⟨here, later⟩ := List.forall_mem_cons.mp each
    rw [encodeFirstBy, encodeBy_isOk here, List.filter_cons]
    cases rule.isActive facts with
    | false => exact ih later
    | true =>
      rw [if_pos rfl, if_pos rfl, List.map_cons, List.find?_cons]
      change (if (block type facts attr rule).isEmpty = true then _ else _) = _
      cases empty : (block type facts attr rule).isEmpty with
      | true => exact ih later
      | false => rfl

theorem encodeFirst_of_encoders {registry : Registry} {rules : List TranscodingRule} {type : WireType} {attr : Attribute}
    (found : registry.encoders type attr =
      rules.filter fun rule => rule.attributeId? = some attr.id ∧ rule.type = type) (facts : Facts) :
    registry.encodeFirst type facts attr =
      .ok ((((applicable rules type facts attr).map (block type facts attr)).find? (!·.isEmpty)).getD []) := by
  rw [encodeFirst, encodeFirstBy_eq facts attr fun rule member => type_of_mem_encoders found member,
    active_encoders found]

theorem encodeFirst_of_build {types : TypeInfos} {rules : List TranscodingRule} {registry : Registry}
    (built : build types rules = .ok registry) (type : WireType) (facts : Facts) (attr : Attribute) :
    registry.encodeFirst type facts attr =
      .ok ((((activeEncoders rules type facts attr).map (block type facts attr)).find? (!·.isEmpty)).getD []) :=
  encodeFirst_of_encoders (encoders_of_build built type attr) facts

end Registry

end AttributeRelease
