import AttributeRelease.Proofs.Validity
import AttributeRelease.Transcoding.Registry

/-! The indexes of a registry hold its rules in their order: what is found under a key are the rules
with that key. -/

namespace AttributeRelease

namespace Registry

/-- The rules of a registry without later copies of earlier ones. -/
def rulesOf (rules : List TranscodingRule) : List TranscodingRule := rules.eraseDupsBy TranscodingRule.same

theorem distinctRules_eq (rules : List TranscodingRule) : distinctRules [] rules = rulesOf rules := by
  have run (kept : List TranscodingRule) :
      distinctRules kept rules = List.eraseDupsBy.loop TranscodingRule.same rules kept := by
    induction rules generalizing kept with
    | nil => rfl
    | cons rule rest ih =>
      rw [distinctRules, List.eraseDupsBy.loop]
      cases kept.any rule.same with
      | true => exact ih kept
      | false => exact ih (rule :: kept)
  exact run []

private theorem getD_addRule (index : Dictionary (List TranscodingRule)) (key : Option String) (rule : TranscodingRule)
    (name : String) :
    ((addRule index key rule).get? name).getD [] =
      (index.get? name).getD [] ++ if key = some name then [rule] else [] := by
  cases key with
  | none => simp [addRule]
  | some key =>
    rw [addRule, Dictionary.get?_insert]
    by_cases same : name = key
    · simp [same]
    · simp [same, Ne.symm same]

theorem getD_indexBy (key : TranscodingRule → Option String) (rules : List TranscodingRule) (name : String) :
    ((indexBy key rules).get? name).getD [] = rules.filter fun rule => key rule = some name := by
  have run (index : Dictionary (List TranscodingRule)) :
      ((rules.foldl (fun index rule => addRule index (key rule) rule) index).get? name).getD [] =
        (index.get? name).getD [] ++ rules.filter fun rule => key rule = some name := by
    induction rules generalizing index with
    | nil => simp
    | cons rule rest ih =>
      rw [List.foldl_cons, ih, getD_addRule, List.filter_cons, List.append_assoc]
      by_cases same : key rule = some name <;> simp [same]
  exact run ∅

theorem build_isOk_iff {types : TypeInfos} {rules : List TranscodingRule} {registry : Registry} :
    build types rules = .ok registry ↔ (∀ rule ∈ rules, checkRule types rule = .ok ()) ∧
      registry = {
        types
        byAttribute := indexBy TranscodingRule.attributeId? (rulesOf rules)
        byName := indexBy TranscodingRule.encodedName? (rulesOf rules)
        ruleCount := (rulesOf rules).length } := by
  rw [← forM_isOk_iff, build, distinctRules_eq]
  cases rules.forM (checkRule types) with
  | error error => simp [bind, Except.bind]
  | ok done => simp [bind, Except.bind, pure, Except.pure, eq_comm]

theorem checkRule_isOk_iff {types : TypeInfos} {rule : TranscodingRule} :
    checkRule types rule = .ok () ↔ rule.attributeId?.isSome = true ∧ types.isRegistered rule.type = true := by
  rw [checkRule]
  cases rule.attributeId? with
  | none => simp
  | some attributeId => cases types.isRegistered rule.type <;> simp

theorem rulesOf_sublist (rules : List TranscodingRule) : (rulesOf rules).Sublist rules := by
  have run (kept : List TranscodingRule) : (distinctRules kept rules).Sublist (kept.reverse ++ rules) := by
    induction rules generalizing kept with
    | nil => simp [distinctRules]
    | cons rule rest ih =>
      rw [distinctRules]
      split
      · exact (ih kept).trans ((List.sublist_cons_self rule rest).append_left kept.reverse)
      · simpa using ih (rule :: kept)
  exact distinctRules_eq rules ▸ run []

theorem encoders_of_index {registry : Registry} {rules : List TranscodingRule}
    (indexed : registry.byAttribute = indexBy TranscodingRule.attributeId? rules)
    (registered : ∀ rule ∈ rules, registry.isRegistered rule.type = true) (type : WireType) (attr : Attribute) :
    registry.encoders type attr = rules.filter fun rule => rule.attributeId? = some attr.id ∧ rule.type = type := by
  have unfolded : registry.encoders type attr =
      if registry.isRegistered type then ((registry.byAttribute.get? attr.id).getD []).filter (·.type == type) else [] :=
    rfl
  rw [unfolded]
  split
  next known =>
    rw [indexed, getD_indexBy, List.filter_filter]
    refine List.filter_congr fun rule _ => ?_
    rw [Bool.decide_and, Bool.and_comm]
    rfl
  next unknown =>
    refine (List.filter_eq_nil_iff.mpr fun rule member => ?_).symm
    rw [decide_eq_true_eq]
    rintro ⟨_, rfl⟩
    exact unknown (registered rule member)

/-- The rules that encode an attribute are those registered for its id and the type. -/
theorem encoders_of_build {types : TypeInfos} {rules : List TranscodingRule} {registry : Registry}
    (built : build types rules = .ok registry) (type : WireType) (attr : Attribute) :
    registry.encoders type attr =
      (rulesOf rules).filter fun rule => rule.attributeId? = some attr.id ∧ rule.type = type := by
  obtain ⟨checked, rfl⟩ := build_isOk_iff.mp built
  refine encoders_of_index rfl (fun rule member => ?_) type attr
  exact (checkRule_isOk_iff.mp (checked rule ((rulesOf_sublist rules).subset member))).2

theorem decoders_of_index {registry : Registry} {rules : List TranscodingRule}
    (indexed : registry.byName = indexBy TranscodingRule.encodedName? rules) {type : WireType} (object : type.Object) :
    registry.decoders object =
      match registry.canonicalName? object with
      | none => []
      | some name => rules.filter fun rule => rule.encodedName? = some name ∧ rule.type = type := by
  have unfolded : registry.decoders object =
      match registry.canonicalName? object with
      | none => []
      | some name => ((registry.byName.get? name).getD []).filter (·.type == type) := rfl
  rw [unfolded, indexed]
  cases registry.canonicalName? object with
  | none => rfl
  | some name =>
    simp only [getD_indexBy, List.filter_filter, Bool.decide_and, Bool.and_comm]
    rfl

theorem mem_of_mem_decoders {registry : Registry} {rules : List TranscodingRule}
    (indexed : registry.byName = indexBy TranscodingRule.encodedName? rules) {type : WireType} {object : type.Object}
    {rule : TranscodingRule} (found : rule ∈ registry.decoders object) : rule ∈ rules := by
  rw [decoders_of_index indexed] at found
  split at found
  · cases found
  · exact (List.mem_filter.mp found).1

end Registry

end AttributeRelease
