import AttributeRelease.Proofs.Exchange
import AttributeRelease.Proofs.Merging
import AttributeRelease.Proofs.RegistryViews

/-! An object stands for the values that the rules for it decode, gathered by the ids of the rules. A rule that does not
apply, does not understand the object or fails on it might as well not be there. -/

namespace AttributeRelease

namespace TranscodingRule

section
variable {type : WireType} {facts : Facts} {object : type.Object}

def decodes (rule : TranscodingRule) (type : WireType) (facts : Facts) (object : type.Object) : Bool :=
  rule.isActive facts && (rule.decode? type facts object).isSome

theorem contribution?_of_idle {rule : TranscodingRule} (idle : rule.decodes type facts object = false) :
    rule.contribution? type facts object = none := by
  rw [contribution?]
  split
  next active =>
    have nothing : rule.decode? type facts object = none := by simpa [decodes, active] using idle
    rw [nothing]
    cases rule.attributeId? <;> rfl
  next => rfl

theorem contribution?_of_decodes {rule : TranscodingRule} (decodes : rule.decodes type facts object = true) :
    ∃ value, rule.decode? type facts object = some value ∧
      rule.contribution? type facts object = rule.attributeId?.map fun id => { id, values := .ofList [value] } := by
  obtain ⟨active, found⟩ := (Bool.and_eq_true _ _).mp decodes
  obtain ⟨value, found⟩ := Option.isSome_iff_exists.mp found
  refine ⟨value, found, ?_⟩
  rw [contribution?, if_pos active, found]
  cases rule.attributeId? <;> rfl

theorem contributions_eq (found : List TranscodingRule) :
    found.filterMap (·.contribution? type facts object) =
      (found.filter (·.decodes type facts object)).filterMap (·.contribution? type facts object) := by
  rw [List.filterMap_filter]
  refine congrArg (List.filterMap · found) (funext fun rule => ?_)
  cases decodes : rule.decodes type facts object with
  | false => exact contribution?_of_idle decodes
  | true => rfl

variable {productive : List TranscodingRule} (decode : ∀ rule ∈ productive, rule.decodes type facts object = true)
include decode

theorem ids_contributions :
    (productive.filterMap (·.contribution? type facts object)).map Attribute.id =
      productive.filterMap TranscodingRule.attributeId? := by
  rw [List.map_filterMap]
  refine List.filterMap_congr fun rule member => ?_
  obtain ⟨value, _, gives⟩ := contribution?_of_decodes (decode rule member)
  rw [gives, Option.map_map]
  exact Option.map_id'

theorem valuesOf_contributions (id : String) :
    valuesOf (productive.filterMap (·.contribution? type facts object)) id =
      (productive.filter (·.attributeId? = some id)).filterMap (·.decode? type facts object) := by
  induction productive with
  | nil => rfl
  | cons rule rest ih =>
    obtain ⟨here, later⟩ := List.forall_mem_cons.mp decode
    obtain ⟨value, found, gives⟩ := contribution?_of_decodes here
    replace ih := ih later
    rw [List.filterMap_cons, gives]
    cases given : rule.attributeId? with
    | none =>
      rw [List.filter_cons_of_neg (by simp [given])]
      exact ih
    | some other =>
      by_cases same : other = id
      · rw [List.filter_cons_of_pos (by simp [given, same]), List.filterMap_cons, found]
        exact (valuesOf_cons_of_eq same _).trans (congrArg (value :: ·) ih)
      · rw [List.filter_cons_of_neg (by simp [given, same])]
        exact (valuesOf_cons_of_ne same _).trans ih

theorem contributions_eq_nil_iff (named : ∀ rule ∈ productive, ∃ id, rule.attributeId? = some id) :
    productive.filterMap (·.contribution? type facts object) = [] ↔ productive = [] := by
  rw [← List.map_eq_nil_iff (f := Attribute.id), ids_contributions decode, List.filterMap_eq_nil_iff,
    List.eq_nil_iff_forall_not_mem]
  refine forall₂_congr fun rule member => ?_
  obtain ⟨id, given⟩ := named rule member
  simp [given]

/-- An attribute that contributions are merged to has the values of the rules for it, and is called nothing but its
id. -/
theorem of_mem_contributions {attr : Attribute}
    (member : attr ∈ mergeAttributes (productive.filterMap (·.contribution? type facts object))) :
    attr.displayNames = ∅ ∧ attr.displayDescriptions = ∅ ∧ attr.values.toList =
      ((productive.filter (·.attributeId? = some attr.id)).filterMap (·.decode? type facts object)).eraseDups := by
  obtain ⟨first, found, made⟩ := eq_of_mem_mergeAttributes member
  obtain ⟨rule, inside, contributed⟩ := List.mem_filterMap.mp (List.mem_of_find?_eq_some found)
  obtain ⟨value, _, gives⟩ := contribution?_of_decodes (decode rule inside)
  obtain ⟨id, _, rfl⟩ := Option.map_eq_some_iff.mp (gives.symm.trans contributed)
  have values := congrArg (·.values.toList) made
  rw [ValueSet.toList_ofList, valuesOf_contributions decode] at values
  exact ⟨congrArg Attribute.displayNames made, congrArg Attribute.displayDescriptions made, values⟩

end

end TranscodingRule

namespace Registry

section
variable {types : TypeInfos} {rules : List TranscodingRule} {registry : Registry}
  (built : build types rules = .ok registry)
include built

theorem attributeId?_of_decoders {type : WireType} {object : type.Object} {rule : TranscodingRule}
    (found : rule ∈ registry.decoders object) :
    ∃ id, rule.attributeId? = some id ∧ Attribute.named id = .ok { id } := by
  obtain ⟨checks, rfl⟩ := build_isOk_iff.mp built
  have registered := (rulesOf_sublist rules).subset (mem_of_mem_decoders rfl found)
  obtain ⟨checked, _⟩ := checkRule_isOk_iff.mp (checks rule registered)
  obtain ⟨id, given⟩ := Option.isSome_iff_exists.mp checked
  have filled := (Option.filter_eq_some_iff.mp given).2
  refine ⟨id, given, ?_⟩
  rw [Attribute.named, if_neg (by simpa using filled)]

/-- A registry of some of the rules of another one finds those of them that the other one finds. -/
theorem decoders_of_fewer (keep : TranscodingRule → Bool) :
    ∃ fewer, build types ((rulesOf rules).filter keep) = .ok fewer ∧ fewer.types = registry.types ∧
      ∀ {type : WireType} (object : type.Object), fewer.decoders object = (registry.decoders object).filter keep := by
  obtain ⟨checked, rfl⟩ := build_isOk_iff.mp built
  have distinct : rulesOf ((rulesOf rules).filter keep) = (rulesOf rules).filter keep :=
    rulesOf_of_pairwise ((rulesOf_pairwise rules).sublist List.filter_sublist)
  have stillChecked : ∀ rule ∈ (rulesOf rules).filter keep, checkRule types rule = .ok () := fun rule member =>
    checked rule ((rulesOf_sublist rules).subset (List.mem_of_mem_filter member))
  refine ⟨_, build_isOk_iff.mpr ⟨stillChecked, rfl⟩, rfl, fun object => ?_⟩
  rw [decoders_of_index rfl, decoders_of_index rfl, distinct, canonicalName?, canonicalName?]
  cases types.canonicalName? object with
  | none => rfl
  | some name => exact List.filter_comm ..

end

/-- Decoding gives one attribute for each id among the rules that decode the object, in their order. It has the values
that rules of this id decode, each once, and nothing else. Without such a rule strict decoding fails, and lenient
decoding never does. Any of the other rules can be left out of the registry. -/
theorem decode_gathers {types : TypeInfos} {rules : List TranscodingRule} {registry : Registry}
    (built : build types rules = .ok registry) (facts : Facts) {type : WireType} (object : type.Object) :
    let productive := (registry.decoders object).filter (·.decodes type facts object)
    ∃ answer : List Attribute,
      registry.decode facts object false = .ok answer ∧
      registry.decode facts object true =
        (if productive = [] then .error (.decoding (.unmatched ((registry.canonicalName? object).getD "")))
        else .ok answer) ∧
      answer.map Attribute.id = (productive.filterMap TranscodingRule.attributeId?).eraseDups ∧
      (∀ attr ∈ answer, attr.displayNames = ∅ ∧ attr.displayDescriptions = ∅ ∧ attr.values.toList =
        ((productive.filter (·.attributeId? = some attr.id)).filterMap (·.decode? type facts object)).eraseDups) ∧
      (∀ rule ∈ productive, ∃ id, rule.attributeId? = some id ∧ Attribute.named id = .ok { id }) ∧
      ∀ keep : TranscodingRule → Bool, (∀ rule ∈ productive, keep rule = true) →
        ∃ fewer, build types ((rulesOf rules).filter keep) = .ok fewer ∧
          ∀ strict, fewer.decode facts object strict = registry.decode facts object strict := by
  intro productive
  have decode : ∀ rule ∈ productive, rule.decodes type facts object = true :=
    fun rule member => (List.mem_filter.mp member).2
  have named : ∀ rule ∈ productive, ∃ id, rule.attributeId? = some id ∧ Attribute.named id = .ok { id } :=
    fun rule member => attributeId?_of_decoders built (List.mem_of_mem_filter member)
  have contributions : (registry.decoders object).filterMap (·.contribution? type facts object) =
      productive.filterMap (·.contribution? type facts object) := TranscodingRule.contributions_eq _
  have nothing := TranscodingRule.contributions_eq_nil_iff decode fun rule member =>
    (named rule member).imp fun _ => And.left
  refine ⟨mergeAttributes (productive.filterMap (·.contribution? type facts object)), ?lenient, ?strict, ?ids,
    fun attr => TranscodingRule.of_mem_contributions decode, named, ?fewer⟩
  case lenient =>
    rw [decode_eq, contributions, Bool.and_false]
    rfl
  case strict =>
    rw [decode_eq, contributions]
    simp only [Bool.and_true, List.isEmpty_iff, mergeAttributes_eq_nil_iff, nothing]
  case ids => rw [ids_mergeAttributes, TranscodingRule.ids_contributions decode]
  case fewer =>
    intro keep kept
    obtain ⟨fewer, rebuilt, sameTypes, found⟩ := decoders_of_fewer built keep
    have sameName : fewer.canonicalName? object = registry.canonicalName? object := by
      rw [canonicalName?, canonicalName?, sameTypes]
    have sameRules : ((registry.decoders object).filter keep).filter (·.decodes type facts object) = productive := by
      rw [List.filter_comm]
      exact List.filter_eq_self.mpr kept
    refine ⟨fewer, rebuilt, fun strict => ?_⟩
    rw [decode_eq, decode_eq, found, TranscodingRule.contributions_eq, sameRules, contributions, sameName]

/-- Six rules for one claim. The fifth cannot read it as bytes, and the last one is for principals. -/
private def deskRules : List TranscodingRule :=
  let reads (attributeId : String) (transcoder : TypedTranscoder .claim) : TranscodingRule :=
    { properties := .ofList [(Properties.attributeId, .string attributeId), (Properties.name, .string "contact")]
      transcoder := ⟨.claim, transcoder⟩ }
  let anonymous : ActivationCondition := ⟨"anonymous", fun facts => facts.principal.isNone⟩
  let signedIn : ActivationCondition := ⟨"signed in", fun facts => facts.principal.isSome⟩
  [reads "mail" Claim.stringTranscoder, reads "phone" Claim.stringTranscoder, reads "mail" Claim.scopedTranscoder,
    { reads "mail" Claim.stringTranscoder with condition := some anonymous }, reads "photo" Claim.binaryTranscoder,
    { reads "guest" Claim.stringTranscoder with condition := some signedIn }]

/-- The first and the fourth rule decode the same value. A registry of the first four rules gives the same answer. -/
theorem decode_gathers_desk :
    let facts : Facts := { requestTime := .epoch }
    let claim := Claim.ofText "contact" "front@desk"
    let answer : List Attribute := [
      { id := "mail", values := .ofList [.string "front@desk", .scoped "front" "desk"] },
      { id := "phone", values := .ofList [.string "front@desk"] }]
    ∃ registry fewer, build [TypeInfo.claims] deskRules = .ok registry ∧
      build [TypeInfo.claims] (deskRules.take 4) = .ok fewer ∧ registry.ruleCount = 6 ∧
      (∀ strict, @decode registry facts .claim claim strict = .ok answer) ∧
      (∀ strict, @decode fewer facts .claim claim strict = .ok answer) ∧
      @decode registry facts .claim (Claim.ofText "visit" "today") true = .error (.decoding (.unmatched "visit")) := by
  intro facts claim answer
  obtain ⟨registry, built, count, decoded, nobody, name⟩ : ∃ registry, build [TypeInfo.claims] deskRules = .ok registry ∧
      registry.ruleCount = 6 ∧ (∀ strict, @decode registry facts .claim claim strict = .ok answer) ∧
      @decoders registry .claim (Claim.ofText "visit" "today") = [] ∧
      @canonicalName? registry .claim (Claim.ofText "visit" "today") = some "visit" :=
    ⟨_, rfl, rfl, fun strict => by cases strict <;> rfl, rfl, rfl⟩
  obtain ⟨_, _, _, _, _, _, removal⟩ := @decode_gathers _ _ _ built facts .claim claim
  obtain ⟨fewer, rebuilt, same⟩ := removal (·.decodes .claim facts claim) fun _ member => (List.mem_filter.mp member).2
  obtain ⟨_, _, unmatched, _⟩ := @decode_gathers _ _ _ built facts .claim (Claim.ofText "visit" "today")
  rw [nobody, name] at unmatched
  exact ⟨registry, fewer, built, rebuilt, count, decoded, fun strict => (same strict).trans (decoded strict), unmatched⟩

end Registry

end AttributeRelease
