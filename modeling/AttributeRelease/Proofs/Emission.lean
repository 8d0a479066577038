import AttributeRelease.Proofs.Grants
import AttributeRelease.Proofs.RegistryIndex
import AttributeRelease.Regex.Language
import AttributeRelease.Service.Basic

/-! Objects that are released encode values that were granted, and nothing else. -/

namespace AttributeRelease

namespace TranscodingRule

/-- The object for a value, if the transcoder of the rule is for the type and encodes the value. -/
def encode? (rule : TranscodingRule) (type : WireType) (facts : Facts) (attr : Attribute) (value : Value) :
    Option type.Object :=
  (rule.transcoder.typed? type).bind fun transcoder =>
    if transcoder.canEncode attr value then (transcoder.encode facts attr rule.properties value).toOption else none

theorem typed_of_type {rule : TranscodingRule} {type : WireType} (same : rule.type = type) (attributeId : String) :
    ∃ transcoder, rule.transcoder.typed? type = some transcoder ∧ rule.typed type attributeId = .ok transcoder := by
  have found : ∃ transcoder, rule.transcoder.typed? type = some transcoder :=
    ⟨same ▸ rule.transcoder.typed, dif_pos same⟩
  obtain ⟨transcoder, found⟩ := found
  exact ⟨transcoder, found, by rw [typed, found]⟩

end TranscodingRule

theorem mapM_isOk {ε α β : Type} {action : α → Except ε β} {result : α → β} {items : List α}
    (each : ∀ item ∈ items, action item = .ok (result item)) : items.mapM action = .ok (items.map result) := by
  induction items with
  | nil => rfl
  | cons item rest ih =>
    obtain ⟨here, later⟩ := List.forall_mem_cons.mp each
    rw [List.mapM_cons, here, ih later]
    rfl

theorem exists_of_mapM_isOk {ε α β : Type} {action : α → Except ε β} {items : List α} {results : List β}
    (done : items.mapM action = .ok results) : ∀ result ∈ results, ∃ item ∈ items, action item = .ok result := by
  induction items generalizing results with
  | nil =>
    cases done
    exact nofun
  | cons item rest ih =>
    rw [List.mapM_cons] at done
    obtain ⟨first, here, done⟩ := bind_eq_ok_iff.mp done
    obtain ⟨others, later, done⟩ := bind_eq_ok_iff.mp done
    cases done
    refine List.forall_mem_cons.mpr ⟨⟨item, List.mem_cons_self .., here⟩, fun result member => ?_⟩
    obtain ⟨item, inside, made⟩ := ih later result member
    exact ⟨item, List.mem_cons_of_mem _ inside, made⟩

namespace Registry

/-- The rules by which an attribute is encoded for a request, in the order in which they were
registered. -/
def activeEncoders (rules : List TranscodingRule) (type : WireType) (facts : Facts) (attr : Attribute) :
    List TranscodingRule :=
  (rulesOf rules).filter fun rule => rule.attributeId? = some attr.id ∧ rule.type = type ∧ rule.isActive facts

def objectsOf (rules : List TranscodingRule) (type : WireType) (facts : Facts) (attr : Attribute) : List type.Object :=
  (activeEncoders rules type facts attr).flatMap fun rule =>
    attr.values.toList.filterMap (rule.encode? type facts attr)

theorem encodeBy_isOk {rule : TranscodingRule} {type : WireType} (same : rule.type = type) (facts : Facts)
    (attr : Attribute) :
    encodeBy type facts attr rule =
      .ok (if rule.isActive facts then attr.values.toList.filterMap (rule.encode? type facts attr) else []) := by
  obtain ⟨transcoder, found, typed⟩ := rule.typed_of_type same attr.id
  have encodes : rule.encode? type facts attr = fun value =>
      if transcoder.canEncode attr value then (transcoder.encode facts attr rule.properties value).toOption else none := by
    funext value
    rw [TranscodingRule.encode?, found, Option.bind_some]
  rw [encodeBy, typed, encodes]
  rfl

private theorem flatten_map_if {α β : Type} (items : List α) (keep : α → Bool) (results : α → List β) :
    (items.map fun item => if keep item then results item else []).flatten = (items.filter keep).flatMap results := by
  induction items with
  | nil => rfl
  | cons item rest ih =>
    rw [List.map_cons, List.flatten_cons, ih, List.filter_cons]
    cases keep item <;> simp

def applicable (rules : List TranscodingRule) (type : WireType) (facts : Facts) (attr : Attribute) :
    List TranscodingRule :=
  rules.filter fun rule => rule.attributeId? = some attr.id ∧ rule.type = type ∧ rule.isActive facts

section
variable {registry : Registry} {rules : List TranscodingRule} {type : WireType} {attr : Attribute}
  (found : registry.encoders type attr =
    rules.filter fun rule => rule.attributeId? = some attr.id ∧ rule.type = type)
include found

theorem type_of_mem_encoders {rule : TranscodingRule} (member : rule ∈ registry.encoders type attr) :
    rule.type = type := by
  rw [found, List.mem_filter, decide_eq_true_eq] at member
  exact member.2.2

theorem active_encoders (facts : Facts) :
    (registry.encoders type attr).filter (·.isActive facts) = applicable rules type facts attr := by
  rw [found, List.filter_filter, applicable]
  refine List.filter_congr fun rule _ => ?_
  cases rule.isActive facts <;> simp

theorem encodeAll_of_encoders (facts : Facts) :
    registry.encodeAll type facts attr =
      .ok ((applicable rules type facts attr).flatMap fun rule =>
        attr.values.toList.filterMap (rule.encode? type facts attr)) := by
  rw [encodeAll, mapM_isOk fun rule member => encodeBy_isOk (type_of_mem_encoders found member) facts attr]
  refine congrArg Except.ok ?_
  rw [flatten_map_if, active_encoders found]

end

theorem encodeAll_of_build {types : TypeInfos} {rules : List TranscodingRule} {registry : Registry}
    (built : build types rules = .ok registry) (type : WireType) (facts : Facts) (attr : Attribute) :
    registry.encodeAll type facts attr = .ok (objectsOf rules type facts attr) :=
  encodeAll_of_encoders (encoders_of_build built type attr) facts

end Registry

namespace Generation

theorem encodeAttributes_of_build {types : TypeInfos} {rules : List TranscodingRule} {registry : Registry}
    (built : Registry.build types rules = .ok registry) (type : WireType) (facts : Facts) (attributes : List Attribute) :
    encodeAttributes registry type facts attributes =
      .ok (attributes.flatMap (Registry.objectsOf rules type facts)) := by
  rw [encodeAttributes, mapM_isOk fun attr _ => Registry.encodeAll_of_build built type facts attr]
  rfl

section

variable [PatternLanguage]

/-- What a generation releases is what its engine releases, encoded attribute by attribute. So every
object stands for a value that is permitted and not denied, and values that are withheld leave no
trace. -/
theorem release_encodes_granted (generation : Generation) (valid : generation.engine.validate = .ok ())
    {types : TypeInfos} {rules : List TranscodingRule} (built : Registry.build types rules = .ok generation.registry)
    (type : WireType) (context : FilterContext) :
    ((generation.release type context).1 =
      match (generation.engine.filter context).1 with
      | .error cause => .error (.filter cause)
      | .ok released => .ok (released.flatMap (Registry.objectsOf rules type context.request.facts))) ∧
    (∀ objects, (generation.release type context).1 = .ok objects → ∀ object ∈ objects,
      ∃ attr ∈ context.request.attributes, ∃ kept ∈ generation.engine.granted context.request, kept.id = attr.id ∧
        ∃ value ∈ attr.values, generation.engine.Grants context.request attr value ∧
          ∃ rule ∈ rules, rule.attributeId? = some attr.id ∧ rule.isActive context.request.facts ∧
            rule.encode? type context.request.facts kept value = some object) ∧
    ∀ other : FilterContext, other.request.facts = context.request.facts →
      (generation.engine.filter other).1 = (generation.engine.filter context).1 →
        (generation.release type other).1 = (generation.release type context).1 := by
  have encoded (context : FilterContext) : (generation.release type context).1 =
      match (generation.engine.filter context).1 with
      | .error cause => .error (.filter cause)
      | .ok released => .ok (released.flatMap (Registry.objectsOf rules type context.request.facts)) := by
    have sameRequest := generation.engine.filter_request context
    rw [release]
    generalize generation.engine.filter context = filtered at sameRequest ⊢
    obtain ⟨result, after⟩ := filtered
    cases result with
    | error cause => rfl
    | ok released =>
      replace sameRequest : after.request = context.request := sameRequest
      simp only [encodeAttributes_of_build built, sameRequest]
  refine ⟨encoded context, ?_, ?_⟩
  · intro objects released object member
    rcases Engine.filter_cases (Engine.validate_isOk_iff.mp valid).1 context with ⟨_, error, failed⟩ | ⟨_, filtered⟩
    · rw [encoded, failed] at released
      cases released
    · rw [encoded, filtered] at released
      cases released
      obtain ⟨kept, granted, emitted⟩ := List.mem_flatMap.mp member
      obtain ⟨rule, active, encodes⟩ := List.mem_flatMap.mp emitted
      obtain ⟨value, present, encodes⟩ := List.mem_filterMap.mp encodes
      obtain ⟨attr, attrMember, made⟩ := List.mem_filterMap.mp granted
      obtain ⟨rfl, _⟩ := Attribute.only?_eq_some_iff.mp made
      obtain ⟨inside, isGranted⟩ := ValueSet.mem_filter.mp present
      obtain ⟨registered, applies⟩ := List.mem_filter.mp active
      obtain ⟨sameId, _, isActive⟩ := of_decide_eq_true applies
      exact ⟨attr, attrMember, _, granted, rfl, value, inside, of_decide_eq_true isGranted, rule,
        (Registry.rulesOf_sublist rules).subset registered, sameId, isActive, encodes⟩
  · intro other facts same
    rw [encoded, encoded, facts, same]

end

attribute [local instance] Regex.language

/-- Addresses as claims of two names. The second rule is there twice. -/
def mailRules : List TranscodingRule :=
  let asClaim (name : String) : TranscodingRule :=
    { properties := .ofList [(Properties.attributeId, .string "mail"), (Properties.name, .string name)]
      transcoder := ⟨.claim, Claim.stringTranscoder⟩ }
  [asClaim "email", asClaim "address", asClaim "address"]

/-- The address at home is not released, and what is released is a claim once for each rule. -/
theorem release_encodes_granted_mail :
    ∃ registry, Registry.build [TypeInfo.claims] mailRules = .ok registry ∧ Engine.contested.validate = .ok () ∧
      (release ⟨1, .contested, registry⟩ .claim { request := Engine.unknownRequester }).1 =
        .ok [Claim.ofText "email" "work", Claim.ofText "address" "work"] := by
  have built : Registry.build [TypeInfo.claims] mailRules = .ok _ := rfl
  have filtered : (Engine.contested.filter { request := Engine.unknownRequester }).1 =
      .ok [{ id := "mail", values := .ofList [.string "work"] }] := rfl
  obtain ⟨released, _⟩ := release_encodes_granted ⟨1, .contested, _⟩ rfl built .claim
    { request := Engine.unknownRequester }
  refine ⟨_, built, rfl, released.trans ?_⟩
  rw [filtered]
  rfl

end Generation

end AttributeRelease
