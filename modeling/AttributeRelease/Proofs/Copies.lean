import AttributeRelease.Proofs.Exchange
import AttributeRelease.Proofs.RegistryViews

/-! A registry keeps each rule once. Nothing that is found by it shows that, as long as copies of a rule do
the same: the first rule that gives anything is no later copy, and what is merged a second time is there already. -/

namespace AttributeRelease

theorem Attribute.insertAll_eq_self_iff {attr : Attribute} {values : List Value} :
    attr.insertAll values = attr ↔ ∀ value ∈ values, value ∈ attr.values := by
  rw [← ValueSet.insertAll_eq_self_iff]
  exact ⟨congrArg Attribute.values, fun same => congrArg ({ attr with values := · }) same⟩

@[simp] theorem Attribute.insertAll_id (attr : Attribute) (values : List Value) : (attr.insertAll values).id = attr.id := rfl

theorem mergeAttribute_again (attr : Attribute) (merged : List Attribute) :
    mergeAttribute attr (mergeAttribute attr merged) = mergeAttribute attr merged := by
  induction merged with
  | nil =>
    rw [mergeAttribute, mergeAttribute, if_pos rfl, Attribute.insertAll_eq_self_iff.mpr fun _ member => member]
  | cons known rest ih =>
    rw [mergeAttribute]
    split
    next here =>
      have there : ∀ value ∈ attr.values.toList, value ∈ (known.insertAll attr.values.toList).values :=
        fun value member => ValueSet.mem_insertAll.mpr (.inr member)
      rw [mergeAttribute, Attribute.insertAll_id, if_pos here, Attribute.insertAll_eq_self_iff.mpr there]
    next elsewhere => rw [mergeAttribute, if_neg elsewhere, ih]

theorem mergeAttribute_settled {attr : Attribute} {merged : List Attribute} (settled : mergeAttribute attr merged = merged)
    (other : Attribute) : mergeAttribute attr (mergeAttribute other merged) = mergeAttribute other merged := by
  induction merged with
  | nil => cases settled
  | cons known rest ih =>
    rw [mergeAttribute] at settled
    by_cases here : known.id = attr.id
    · rw [if_pos here] at settled
      have present := Attribute.insertAll_eq_self_iff.mp (List.head_eq_of_cons_eq settled)
      rw [mergeAttribute]
      split
      next both =>
        have still : ∀ value ∈ attr.values.toList, value ∈ (known.insertAll other.values.toList).values :=
          fun value member => ValueSet.mem_insertAll.mpr (.inl (present value member))
        rw [mergeAttribute, Attribute.insertAll_id, if_pos here, Attribute.insertAll_eq_self_iff.mpr still]
      next elsewhere => rw [mergeAttribute, if_pos here, Attribute.insertAll_eq_self_iff.mpr present]
    · rw [if_neg here] at settled
      have later := List.tail_eq_of_cons_eq settled
      rw [mergeAttribute]
      split
      next there => rw [mergeAttribute, Attribute.insertAll_id, if_neg here, later]
      next elsewhere => rw [mergeAttribute, if_neg here, ih later]

namespace TranscodingRule

/-- Rules that do the same in every exchange. -/
structure Alike (left right : TranscodingRule) : Prop where
  type : left.type = right.type
  attributeId? : left.attributeId? = right.attributeId?
  encodedName? : left.encodedName? = right.encodedName?
  isActive : ∀ facts, left.isActive facts = right.isActive facts
  encode? : ∀ type facts attr value, left.encode? type facts attr value = right.encode? type facts attr value
  decode? : ∀ type facts object, left.decode? type facts object = right.decode? type facts object

/-- Copies of a rule do what the rule does. -/
def CopiesAgree (rules : List TranscodingRule) : Prop :=
  ∀ rule ∈ rules, ∀ copy ∈ rules, copy.same rule = true → copy.Alike rule

theorem CopiesAgree.filter {rules : List TranscodingRule} (agree : CopiesAgree rules) (keep : TranscodingRule → Bool) :
    CopiesAgree (rules.filter keep) := by
  intro rule member copy copyMember
  exact agree rule (List.mem_of_mem_filter member) copy (List.mem_of_mem_filter copyMember)

theorem Alike.contribution? {left right : TranscodingRule} (alike : left.Alike right) (type : WireType) (facts : Facts)
    (object : type.Object) : left.contribution? type facts object = right.contribution? type facts object := by
  rw [TranscodingRule.contribution?, TranscodingRule.contribution?, alike.isActive, alike.attributeId?, alike.decode?]

end TranscodingRule

namespace Registry

open TranscodingRule (CopiesAgree)

theorem rulesOf_filter {rules : List TranscodingRule} {keep : TranscodingRule → Bool}
    (together : ∀ rule ∈ rules, ∀ copy ∈ rules, copy.same rule = true → keep copy = keep rule) :
    rulesOf (rules.filter keep) = (rulesOf rules).filter keep := by
  match rules with
  | [] => rfl
  | rule :: rest =>
    have later : ∀ other ∈ rest.filter fun other => other.same rule = false,
        ∀ copy ∈ rest.filter fun other => other.same rule = false, copy.same other = true → keep copy = keep other :=
      fun other member copy copyMember =>
        together other (List.mem_cons_of_mem _ (List.mem_of_mem_filter member)) copy
          (List.mem_cons_of_mem _ (List.mem_of_mem_filter copyMember))
    rw [rulesOf_cons, List.filter_cons, List.filter_cons, ← rulesOf_filter later, List.filter_comm]
    cases kept : keep rule with
    | true => exact rulesOf_cons ..
    | false =>
      -- No copy of the rule passes, so there is none to drop.
      refine congrArg rulesOf (List.filter_eq_self.mpr fun other member => ?_).symm
      obtain ⟨inside, passes⟩ := List.mem_filter.mp member
      rw [decide_eq_true_eq, Bool.eq_false_iff]
      intro copy
      have dropped := together rule (List.mem_cons_self ..) other (List.mem_cons_of_mem _ inside) copy
      exact Bool.false_ne_true (kept.symm.trans (dropped.symm.trans passes))
termination_by rules.length
decreasing_by exact Nat.lt_succ_of_le (List.length_filter_le ..)

/-- A fold in which a rule that has been met has no more to say, and neither has a copy of it. -/
structure Absorbs {σ : Type} (rules : List TranscodingRule) (step : σ → TranscodingRule → σ)
    (Met : TranscodingRule → σ → Prop) : Prop where
  met : ∀ state rule, Met rule (step state rule)
  stays : ∀ state rule other, Met rule state → Met rule (step state other)
  absorbed : ∀ state, ∀ rule ∈ rules, ∀ copy ∈ rules, copy.same rule = true → Met rule state → step state copy = state

section
variable {σ : Type} {all : List TranscodingRule} {step : σ → TranscodingRule → σ} {Met : TranscodingRule → σ → Prop}
  (absorbs : Absorbs all step Met)
include absorbs

private theorem foldl_filter_copies {rule : TranscodingRule} (known : rule ∈ all) {rest : List TranscodingRule}
    (inside : rest ⊆ all) {state : σ} (met : Met rule state) :
    (rest.filter fun other => other.same rule = false).foldl step state = rest.foldl step state := by
  induction rest generalizing state with
  | nil => rfl
  | cons other rest ih =>
    obtain ⟨here, later⟩ := List.cons_subset.mp inside
    rw [List.filter_cons, List.foldl_cons]
    cases copy : other.same rule with
    | true =>
      rw [absorbs.absorbed state rule known other here copy met]
      exact ih later met
    | false => exact ih later (absorbs.stays state rule other met)

theorem foldl_rulesOf {rules : List TranscodingRule} (inside : rules ⊆ all) (state : σ) :
    (rulesOf rules).foldl step state = rules.foldl step state := by
  match rules with
  | [] => rfl
  | rule :: rest =>
    obtain ⟨here, later⟩ := List.cons_subset.mp inside
    have fewer : (rest.filter fun other => other.same rule = false) ⊆ all :=
      fun other member => later (List.mem_of_mem_filter member)
    rw [rulesOf_cons, List.foldl_cons, foldl_rulesOf fewer, List.foldl_cons]
    exact foldl_filter_copies absorbs here later (absorbs.met state rule)
termination_by rules.length
decreasing_by exact Nat.lt_succ_of_le (List.length_filter_le ..)

end

private theorem foldl_first {α β : Type} (result : α → β) (accept : β → Bool) (items : List α) (found : Option β) :
    items.foldl (fun found item => found.or ((some (result item)).filter accept)) found =
      found.or ((items.map result).find? accept) := by
  induction items generalizing found with
  | nil => rw [List.map_nil, List.find?_nil, Option.or_none, List.foldl_nil]
  | cons item rest ih =>
    rw [List.foldl_cons, ih, List.map_cons, List.find?_cons, Option.or_assoc]
    cases accepted : accept (result item) <;> simp [Option.filter, accepted]

theorem find?_rulesOf {β : Type} {rules : List TranscodingRule} {result : TranscodingRule → β}
    (same : ∀ rule ∈ rules, ∀ copy ∈ rules, copy.same rule = true → result copy = result rule) (accept : β → Bool) :
    ((rulesOf rules).map result).find? accept = (rules.map result).find? accept := by
  have absorbs : Absorbs rules (fun found rule => found.or ((some (result rule)).filter accept))
      fun rule found => found = none → accept (result rule) = false := by
    refine ⟨fun state rule => ?_, fun state rule other met => ?_, fun state rule member copy copyMember copied met => ?_⟩
    · cases state <;> simp [Option.filter]
    · cases state with
      | none => exact fun _ => met rfl
      | some found => simp
    · cases state with
      | none => simp [Option.filter, same rule member copy copyMember copied, met rfl]
      | some found => rfl
  have dropped := foldl_rulesOf absorbs (fun _ member => member) none
  rwa [foldl_first, foldl_first, Option.none_or, Option.none_or] at dropped

private theorem foldl_merged {α : Type} (contribution? : α → Option Attribute) (items : List α) :
    items.foldl (fun merged item => (contribution? item).elim merged (mergeAttribute · merged)) [] =
      mergeAttributes (items.filterMap contribution?) := by
  rw [mergeAttributes, List.foldl_filterMap]
  refine congrArg (List.foldl · [] items) (funext₂ fun merged item => ?_)
  cases contribution? item <;> rfl

theorem mergeAttributes_rulesOf {rules : List TranscodingRule} {contribution? : TranscodingRule → Option Attribute}
    (same : ∀ rule ∈ rules, ∀ copy ∈ rules, copy.same rule = true → contribution? copy = contribution? rule) :
    mergeAttributes ((rulesOf rules).filterMap contribution?) = mergeAttributes (rules.filterMap contribution?) := by
  have absorbs : Absorbs rules (fun merged rule => (contribution? rule).elim merged (mergeAttribute · merged))
      fun rule merged => ∀ attr, contribution? rule = some attr → mergeAttribute attr merged = merged := by
    refine ⟨fun merged rule attr gives => ?_, fun merged rule other met attr gives => ?_,
      fun merged rule member copy copyMember copied met => ?_⟩
    · rw [gives]
      exact mergeAttribute_again attr merged
    · cases contribution? other with
      | none => exact met attr gives
      | some added => exact mergeAttribute_settled (met attr gives) added
    · rw [same rule member copy copyMember copied]
      cases gives : contribution? rule with
      | none => rfl
      | some attr => exact met attr gives
  rw [← foldl_merged, ← foldl_merged]
  exact foldl_rulesOf absorbs (fun _ member => member) []

theorem mem_flatMap_rulesOf {β : Type} {rules : List TranscodingRule} {results : TranscodingRule → List β}
    (same : ∀ rule ∈ rules, ∀ copy ∈ rules, copy.same rule = true → results copy = results rule) (result : β) :
    result ∈ (rulesOf rules).flatMap results ↔ result ∈ rules.flatMap results := by
  constructor
  · intro given
    obtain ⟨rule, kept, gives⟩ := List.mem_flatMap.mp given
    exact List.mem_flatMap.mpr ⟨rule, (rulesOf_sublist rules).subset kept, gives⟩
  · intro given
    obtain ⟨rule, member, gives⟩ := List.mem_flatMap.mp given
    obtain ⟨kept, found, copy⟩ := exists_same_of_mem member
    rw [same kept ((rulesOf_sublist rules).subset found) rule member copy] at gives
    exact List.mem_flatMap.mpr ⟨kept, found, gives⟩

/-- A registry in which every copy of a rule is kept. -/
def withCopies (types : TypeInfos) (rules : List TranscodingRule) : Registry where
  types
  byAttribute := indexBy TranscodingRule.attributeId? rules
  byName := indexBy TranscodingRule.encodedName? rules
  ruleCount := rules.length

section
variable {types : TypeInfos} {rules : List TranscodingRule} {registry : Registry}

theorem encoders_withCopies (built : build types rules = .ok registry) (type : WireType) (attr : Attribute) :
    (withCopies types rules).encoders type attr =
      rules.filter fun rule => rule.attributeId? = some attr.id ∧ rule.type = type := by
  have registered : ∀ rule ∈ rules, (withCopies types rules).isRegistered rule.type = true :=
    fun rule member => (checkRule_isOk_iff.mp ((build_isOk_iff.mp built).1 rule member)).2
  exact encoders_of_index rfl registered type attr

variable (agree : CopiesAgree rules)
include agree

theorem activeEncoders_eq (type : WireType) (facts : Facts) (attr : Attribute) :
    activeEncoders rules type facts attr = rulesOf (applicable rules type facts attr) := by
  refine (rulesOf_filter fun rule member copy copyMember copied => ?_).symm
  have alike := agree rule member copy copyMember copied
  rw [alike.attributeId?, alike.type, alike.isActive]

theorem block_agree (type : WireType) (facts : Facts) (attr : Attribute) :
    ∀ rule ∈ applicable rules type facts attr, ∀ copy ∈ applicable rules type facts attr, copy.same rule = true →
      block type facts attr copy = block type facts attr rule := by
  intro rule member copy copyMember copied
  have alike := agree.filter _ rule member copy copyMember copied
  rw [block, block, funext (alike.encode? type facts attr)]

theorem encodeFirst_withCopies (built : build types rules = .ok registry) (type : WireType) (facts : Facts)
    (attr : Attribute) :
    registry.encodeFirst type facts attr = (withCopies types rules).encodeFirst type facts attr := by
  rw [encodeFirst_of_build built, encodeFirst_of_encoders (encoders_withCopies built type attr), activeEncoders_eq agree,
    find?_rulesOf (block_agree agree type facts attr)]

theorem decoders_eq (built : build types rules = .ok registry) {type : WireType} (object : type.Object) :
    registry.decoders object = rulesOf ((withCopies types rules).decoders object) := by
  obtain ⟨_, rfl⟩ := build_isOk_iff.mp built
  rw [decoders_of_index rfl, decoders_of_index rfl, withCopies, canonicalName?, canonicalName?]
  cases types.canonicalName? object with
  | none => rfl
  | some name =>
    refine (rulesOf_filter fun rule member copy copyMember copied => ?_).symm
    have alike := agree rule member copy copyMember copied
    rw [alike.encodedName?, alike.type]

theorem contribution?_agree (types : TypeInfos) {type : WireType} (facts : Facts) (object : type.Object) :
    ∀ rule ∈ (withCopies types rules).decoders object, ∀ copy ∈ (withCopies types rules).decoders object,
      copy.same rule = true → copy.contribution? type facts object = rule.contribution? type facts object := by
  have inside : ∀ rule ∈ (withCopies types rules).decoders object, rule ∈ rules := fun _ => mem_of_mem_decoders rfl
  intro rule found copy copyFound copied
  exact (agree rule (inside rule found) copy (inside copy copyFound) copied).contribution? type facts object

theorem decode_withCopies (built : build types rules = .ok registry) (facts : Facts) {type : WireType}
    (object : type.Object) (strict : Bool) :
    registry.decode facts object strict = (withCopies types rules).decode facts object strict := by
  have named : registry.canonicalName? object = (withCopies types rules).canonicalName? object := by
    obtain ⟨_, rfl⟩ := build_isOk_iff.mp built
    rfl
  rw [decode_eq, decode_eq, decoders_eq agree built, mergeAttributes_rulesOf (contribution?_agree agree types facts object),
    named]

end

end Registry

end AttributeRelease
