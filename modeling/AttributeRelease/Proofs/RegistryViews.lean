import AttributeRelease.Proofs.RegistryIndex
import AttributeRelease.Transcoding.Claims

/-! What a registry holds, said of the types and rules that it was built from. Both of its indexes show
one list, the rules without later copies of earlier ones. -/

namespace AttributeRelease

namespace TypeInfo

/-- The last registration of a type counts. -/
def lastOf? (infos : List TypeInfo) (type : WireType) : Option TypeInfo := infos.reverse.find? (·.type == type)

/-- The name that the registration of its type gives an object. An empty name is none. -/
def nameOf? (infos : List TypeInfo) {type : WireType} (object : type.Object) : Option String :=
  (lastOf? infos type).bind (·.canonicalName? object)

theorem canonicalName?_of_ne {info : TypeInfo} {type : WireType} (different : info.type ≠ type) (object : type.Object) :
    info.canonicalName? object = none := dif_neg (Ne.symm different)

theorem lastOf?_cons (info : TypeInfo) (rest : List TypeInfo) (type : WireType) :
    lastOf? (info :: rest) type = (lastOf? rest type).or (if info.type == type then some info else none) := by
  rw [lastOf?, lastOf?, List.reverse_cons, List.find?_append, List.find?_cons, List.find?_nil]
  cases info.type == type <;> rfl

theorem lastOf?_isSome_iff {infos : List TypeInfo} {type : WireType} :
    (lastOf? infos type).isSome = true ↔ ∃ info ∈ infos, info.type = type := by
  simp [lastOf?]

end TypeInfo

namespace TypeInfos

theorem isRegistered_register (types : TypeInfos) (info : TypeInfo) (type : WireType) :
    (types.register info).isRegistered type = (info.type == type || types.isRegistered type) := by
  have kept : (types.filter (·.type != info.type)).any (·.type == type) = true →
      types.any (·.type == type) = true := by
    simp only [List.any_eq_true, List.mem_filter]
    exact fun ⟨other, ⟨member, _⟩, found⟩ => ⟨other, member, found⟩
  rw [isRegistered, isRegistered, register, List.any_cons, Bool.eq_iff_iff, Bool.or_eq_true, Bool.or_eq_true]
  refine ⟨Or.imp_right kept, ?_⟩
  rintro (here | later)
  · exact Or.inl here
  · obtain ⟨other, member, found⟩ := List.any_eq_true.mp later
    by_cases same : other.type = info.type
    · exact Or.inl (by simpa [same] using found)
    · exact Or.inr (List.any_eq_true.mpr ⟨other, List.mem_filter.mpr ⟨member, by simpa using same⟩, found⟩)

private theorem canonicalName?_filter_ne (types : TypeInfos) (first : WireType) {type : WireType} (object : type.Object) :
    canonicalName? (types.filter (·.type != first)) object = if first = type then none else canonicalName? types object := by
  induction types with
  | nil => simp [canonicalName?]
  | cons info rest ih =>
    rw [canonicalName?] at ih ⊢
    by_cases same : info.type = first
    · rw [List.filter_cons_of_neg (by simp [same]), ih]
      by_cases found : first = type
      · rw [if_pos found, if_pos found]
      · have nameless := TypeInfo.canonicalName?_of_ne (same ▸ found) object
        rw [if_neg found, if_neg found, canonicalName?, canonicalName?, List.findSome?_cons, nameless]
    · rw [List.filter_cons_of_pos (by simpa using same), List.findSome?_cons, ih]
      by_cases found : first = type
      · rw [if_pos found, if_pos found, TypeInfo.canonicalName?_of_ne (found ▸ same)]
      · rw [if_neg found, if_neg found, canonicalName?, canonicalName?, List.findSome?_cons]

theorem canonicalName?_register (types : TypeInfos) (info : TypeInfo) {type : WireType} (object : type.Object) :
    (types.register info).canonicalName? object =
      if info.type = type then info.canonicalName? object else types.canonicalName? object := by
  -- Whatever was registered for the type before has no part in the name.
  have others := canonicalName?_filter_ne types info.type object
  rw [canonicalName?] at others ⊢
  rw [register, List.findSome?_cons, others]
  by_cases same : info.type = type
  · rw [if_pos same, if_pos same]
    cases info.canonicalName? object <;> rfl
  · rw [if_neg same, if_neg same, TypeInfo.canonicalName?_of_ne same]

theorem isRegistered_foldl (infos : List TypeInfo) (type : WireType) :
    isRegistered (infos.foldl register []) type = (TypeInfo.lastOf? infos type).isSome := by
  have run (types : TypeInfos) : isRegistered (infos.foldl register types) type =
      ((TypeInfo.lastOf? infos type).isSome || types.isRegistered type) := by
    induction infos generalizing types with
    | nil => rfl
    | cons info rest ih =>
      rw [List.foldl_cons, ih, isRegistered_register, TypeInfo.lastOf?_cons, Option.isSome_or, Bool.or_assoc]
      cases info.type == type <;> rfl
  rw [run, isRegistered, List.any_nil, Bool.or_false]

theorem canonicalName?_foldl (infos : List TypeInfo) {type : WireType} (object : type.Object) :
    canonicalName? (infos.foldl register []) object = TypeInfo.nameOf? infos object := by
  have run (types : TypeInfos) : canonicalName? (infos.foldl register types) object =
      match TypeInfo.lastOf? infos type with
      | some info => info.canonicalName? object
      | none => types.canonicalName? object := by
    induction infos generalizing types with
    | nil => rfl
    | cons info rest ih =>
      rw [List.foldl_cons, ih, canonicalName?_register, TypeInfo.lastOf?_cons]
      cases TypeInfo.lastOf? rest type with
      | some later => rfl
      | none => by_cases same : info.type = type <;> simp [same]
  rw [run, TypeInfo.nameOf?]
  cases TypeInfo.lastOf? infos type <;> rfl

end TypeInfos

theorem Transcoder.same_comm (left right : Transcoder) : left.same right = right.same left := by
  rw [same, same, BEq.comm (a := left.type), BEq.comm (a := left.typed.name)]

namespace TranscodingRule

theorem same_refl (rule : TranscodingRule) : rule.same rule = true := by
  simp [same, Transcoder.same]

theorem same_comm (left right : TranscodingRule) : left.same right = right.same left := by
  rw [same, same, left.transcoder.same_comm, BEq.comm (a := left.properties),
    BEq.comm (a := left.condition.map ActivationCondition.id)]

end TranscodingRule

namespace Registry

theorem rulesOf_cons (rule : TranscodingRule) (rest : List TranscodingRule) :
    rulesOf (rule :: rest) = rule :: rulesOf (rest.filter fun other => other.same rule = false) :=
  List.eraseDupsBy_cons

theorem rulesOf_pairwise (rules : List TranscodingRule) :
    (rulesOf rules).Pairwise fun earlier later => later.same earlier = false := by
  -- By length, since the copies of the first rule are dropped before the rest is looked at.
  match rules with
  | [] => exact List.Pairwise.nil
  | rule :: rest =>
    rw [rulesOf_cons]
    refine List.pairwise_cons.mpr ⟨fun later member => ?_, rulesOf_pairwise _⟩
    exact of_decide_eq_true (List.mem_filter.mp ((rulesOf_sublist _).subset member)).2
termination_by rules.length
decreasing_by exact Nat.lt_succ_of_le (List.length_filter_le ..)

theorem rulesOf_of_pairwise {rules : List TranscodingRule}
    (distinct : rules.Pairwise fun earlier later => later.same earlier = false) : rulesOf rules = rules := by
  induction rules with
  | nil => rfl
  | cons rule rest ih =>
    obtain ⟨apart, distinct⟩ := List.pairwise_cons.mp distinct
    have kept : (rest.filter fun other => other.same rule = false) = rest :=
      List.filter_eq_self.mpr fun other member => decide_eq_true (apart other member)
    rw [rulesOf_cons, kept, ih distinct]

theorem exists_same_of_mem {rules : List TranscodingRule} {rule : TranscodingRule} (member : rule ∈ rules) :
    ∃ kept ∈ rulesOf rules, rule.same kept = true := by
  match rules with
  | first :: rest =>
    rw [rulesOf_cons]
    by_cases copy : rule.same first = true
    · exact ⟨first, List.mem_cons_self .., copy⟩
    · have later : rule ∈ rest := by
        rcases List.mem_cons.mp member with rfl | later
        · exact absurd rule.same_refl copy
        · exact later
      have inside : rule ∈ rest.filter fun other => other.same first = false :=
        List.mem_filter.mpr ⟨later, by simpa using copy⟩
      obtain ⟨kept, found, same⟩ := exists_same_of_mem inside
      exact ⟨kept, List.mem_cons_of_mem _ found, same⟩
termination_by rules.length
decreasing_by exact Nat.lt_succ_of_le (List.length_filter_le ..)

private theorem filter_same {rules : List TranscodingRule} {rule : TranscodingRule}
    (distinct : rules.Pairwise fun earlier later => later.same earlier = false) (member : rule ∈ rules) :
    rules.filter rule.same = [rule] := by
  induction rules with
  | nil => cases member
  | cons first rest ih =>
    obtain ⟨apart, distinct⟩ := List.pairwise_cons.mp distinct
    rcases List.mem_cons.mp member with rfl | later
    · have others : rest.filter rule.same = [] := by
        refine List.filter_eq_nil_iff.mpr fun other inside => ?_
        rw [rule.same_comm, apart other inside]
        exact Bool.false_ne_true
      rw [List.filter_cons_of_pos rule.same_refl, others]
    · rw [List.filter_cons_of_neg (by simp [apart rule later]), ih distinct later]

theorem filter_rulesOf_same {rules : List TranscodingRule} {rule : TranscodingRule} (member : rule ∈ rulesOf rules)
    {keep : TranscodingRule → Bool} (kept : keep rule = true) :
    ((rulesOf rules).filter keep).filter rule.same = [rule] := by
  refine filter_same ?_ (List.mem_filter.mpr ⟨member, kept⟩)
  exact (rulesOf_pairwise rules).sublist List.filter_sublist

/-- Why a rule cannot be registered. -/
def refusal? (infos : List TypeInfo) (rule : TranscodingRule) : Option ConfigError :=
  if rule.attributeId? = none then some (.missing (.attributeIdOfTranscoding rule.properties.text))
  else if TypeInfo.lastOf? infos rule.type = none then some (.unregisteredType rule.type.name)
  else none

theorem attributeId?_isSome_iff {rule : TranscodingRule} :
    rule.attributeId?.isSome = true ↔
      ∃ id, rule.properties.get? Properties.attributeId = some (.string id) ∧ Text.isBlank id = false := by
  rw [TranscodingRule.attributeId?, Properties.string?]
  rcases rule.properties.get? Properties.attributeId with _ | (_ | _ | id | _) <;>
    simp [Property.string?, Option.filter]

theorem refusal?_eq_none_iff {infos : List TypeInfo} {rule : TranscodingRule} :
    refusal? infos rule = none ↔
      (∃ id, rule.properties.get? Properties.attributeId = some (.string id) ∧ Text.isBlank id = false) ∧
        ∃ info ∈ infos, info.type = rule.type := by
  rw [refusal?, ← TypeInfo.lastOf?_isSome_iff, ← attributeId?_isSome_iff]
  cases rule.attributeId? with
  | none => simp
  | some id => cases TypeInfo.lastOf? infos rule.type <;> simp

theorem checkRule_eq (infos : List TypeInfo) (rule : TranscodingRule) :
    checkRule (infos.foldl TypeInfos.register []) rule = (refusal? infos rule).elim (.ok ()) .error := by
  rw [checkRule, refusal?, TypeInfos.isRegistered_foldl]
  cases rule.attributeId? with
  | none => rfl
  | some id => cases TypeInfo.lastOf? infos rule.type <;> rfl

theorem forM_eq_findSome? {ε α : Type} {check : α → Except ε Unit} {refusal? : α → Option ε}
    (each : ∀ item, check item = (refusal? item).elim (.ok ()) .error) (items : List α) :
    items.forM check = (items.findSome? refusal?).elim (.ok ()) .error := by
  induction items with
  | nil => rfl
  | cons item rest ih =>
    have unfolded : (item :: rest).forM check = (check item >>= fun _ => rest.forM check) := rfl
    rw [unfolded, each, List.findSome?_cons]
    cases refusal? item with
    | none => exact ih
    | some error => rfl

theorem build_eq (infos : List TypeInfo) (rules : List TranscodingRule) :
    build (infos.foldl TypeInfos.register []) rules =
      (rules.findSome? (refusal? infos)).elim
        (.ok {
          types := infos.foldl TypeInfos.register []
          byAttribute := indexBy TranscodingRule.attributeId? (rulesOf rules)
          byName := indexBy TranscodingRule.encodedName? (rulesOf rules)
          ruleCount := (rulesOf rules).length })
        .error := by
  rw [build, forM_eq_findSome? (checkRule_eq infos), distinctRules_eq]
  cases rules.findSome? (refusal? infos) <;> rfl

/-- Both indexes show one list of rules, in its order, and nothing else. -/
structure Shows (infos : List TypeInfo) (rules : List TranscodingRule) (registry : Registry) : Prop where
  encoders : ∀ type attr, (∃ info ∈ infos, info.type = type) → registry.encoders type attr =
    rules.filter fun rule => rule.attributeId? = some attr.id ∧ rule.type = type
  decoders : ∀ {type : WireType} (object : type.Object) name, TypeInfo.nameOf? infos object = some name →
    registry.decoders object = rules.filter fun rule => rule.encodedName? = some name ∧ rule.type = type
  unregistered : ∀ type, (∀ info ∈ infos, info.type ≠ type) →
    (∀ attr, registry.encoders type attr = []) ∧ ∀ object : type.Object, registry.decoders object = []
  nameless : ∀ {type : WireType} (object : type.Object), TypeInfo.nameOf? infos object = none →
    registry.decoders object = []
  count : registry.ruleCount = rules.length

/-- No equal rule is found beside a rule, whether by its attribute or by its objects. -/
structure FindsOnce (infos : List TypeInfo) (registry : Registry) (rule : TranscodingRule) : Prop where
  encoding : ∀ attr, rule.attributeId? = some attr.id → (registry.encoders rule.type attr).filter rule.same = [rule]
  decoding : ∀ (object : rule.type.Object) name, rule.encodedName? = some name →
    TypeInfo.nameOf? infos object = some name → (registry.decoders object).filter rule.same = [rule]

section
variable {infos : List TypeInfo} {rules : List TranscodingRule} {registry : Registry}

theorem decoders_of_build (built : build (infos.foldl TypeInfos.register []) rules = .ok registry) {type : WireType}
    (object : type.Object) :
    registry.decoders object =
      match TypeInfo.nameOf? infos object with
      | none => []
      | some name => (rulesOf rules).filter fun rule => rule.encodedName? = some name ∧ rule.type = type := by
  have indexed : registry.byName = indexBy TranscodingRule.encodedName? (rulesOf rules) := by
    rw [(build_isOk_iff.mp built).2]
  have named : registry.canonicalName? object = TypeInfo.nameOf? infos object := by
    rw [(build_isOk_iff.mp built).2, canonicalName?, TypeInfos.canonicalName?_foldl]
  have shown := decoders_of_index indexed object
  rw [named] at shown
  exact shown

theorem shows_of_build (built : build (infos.foldl TypeInfos.register []) rules = .ok registry) :
    registry.Shows infos (rulesOf rules) := by
  have unknown (type : WireType) (absent : ∀ info ∈ infos, info.type ≠ type) : TypeInfo.lastOf? infos type = none := by
    rw [← Option.not_isSome_iff_eq_none, TypeInfo.lastOf?_isSome_iff]
    exact fun ⟨info, member, same⟩ => absent info member same
  refine ⟨fun type attr _ => encoders_of_build built type attr, ?_, ?_, ?_, ?_⟩
  · intro type object name named
    rw [decoders_of_build built, named]
  · intro type absent
    constructor
    · intro attr
      obtain ⟨checked, _⟩ := build_isOk_iff.mp built
      rw [encoders_of_build built, List.filter_eq_nil_iff]
      intro rule member applies
      have registered := (checkRule_isOk_iff.mp (checked rule ((rulesOf_sublist rules).subset member))).2
      rw [TypeInfos.isRegistered_foldl, (of_decide_eq_true applies).2, unknown type absent] at registered
      cases registered
    · intro object
      rw [decoders_of_build built, TypeInfo.nameOf?, unknown type absent]
      rfl
  · intro type object nameless
    rw [decoders_of_build built, nameless]
  · obtain ⟨_, rfl⟩ := build_isOk_iff.mp built
    rfl

theorem findsOnce_of_build (built : build (infos.foldl TypeInfos.register []) rules = .ok registry)
    {rule : TranscodingRule} (member : rule ∈ rulesOf rules) : registry.FindsOnce infos rule := by
  constructor
  · intro attr found
    rw [encoders_of_build built]
    exact filter_rulesOf_same member (by simp [found])
  · intro object name found named
    rw [decoders_of_build built, named]
    exact filter_rulesOf_same member (by simp [found])

end

/-- A registry is built if every rule has an id and a known type, and the first rule that has not is
reported. Its two indexes are views of the distinct rules, in which each of them is found once. -/
theorem build_shows_distinct_rules (infos : List TypeInfo) (rules : List TranscodingRule) :
    ((∃ registry, build (infos.foldl TypeInfos.register []) rules = .ok registry) ↔
      ∀ rule ∈ rules,
        (∃ id, rule.properties.get? Properties.attributeId = some (.string id) ∧ Text.isBlank id = false) ∧
          ∃ info ∈ infos, info.type = rule.type) ∧
    (∀ error, build (infos.foldl TypeInfos.register []) rules = .error error ↔
      rules.findSome? (refusal? infos) = some error) ∧
    ∀ registry, build (infos.foldl TypeInfos.register []) rules = .ok registry →
      registry.Shows infos (rulesOf rules) ∧ (∀ rule ∈ rulesOf rules, registry.FindsOnce infos rule) ∧
        ∀ rule ∈ rules, ∃ kept ∈ rulesOf rules, rule.same kept = true := by
  refine ⟨?_, ?_, ?_⟩
  · simp only [← refusal?_eq_none_iff, ← List.findSome?_eq_none_iff, build_eq]
    cases rules.findSome? (refusal? infos) <;> simp
  · intro error
    rw [build_eq]
    cases rules.findSome? (refusal? infos) <;> simp
  · intro registry built
    exact ⟨shows_of_build built, fun rule => findsOnce_of_build built, fun rule => exists_same_of_mem⟩

def contactRules : List TranscodingRule :=
  let asClaim (name : String) : TranscodingRule :=
    { properties := .ofList [(Properties.attributeId, .string "mail"), (Properties.name, .string name)]
      transcoder := ⟨.claim, Claim.stringTranscoder⟩ }
  [asClaim "email", asClaim "", asClaim "email"]

/-- The copy is gone, and the rule without a name decodes nothing. -/
theorem build_shows_distinct_rules_contacts :
    ∃ registry, build ([TypeInfo.claims].foldl TypeInfos.register []) contactRules = .ok registry ∧
      registry.encoders .claim { id := "mail" } = contactRules.take 2 ∧
      @decoders registry .claim (Claim.ofText "email" "a@b.org") = contactRules.take 1 ∧
      registry.ruleCount = 2 := by
  have built : build ([TypeInfo.claims].foldl TypeInfos.register []) contactRules = .ok _ := rfl
  obtain ⟨shows, _, _⟩ := (build_shows_distinct_rules [TypeInfo.claims] contactRules).2.2 _ built
  have named : @TypeInfo.nameOf? [TypeInfo.claims] .claim (Claim.ofText "email" "a@b.org") = some "email" :=
    rfl
  refine ⟨_, built, ?_, ?_, shows.count⟩
  · rw [shows.encoders .claim { id := "mail" } ⟨_, List.mem_cons_self .., rfl⟩]
    rfl
  · rw [shows.decoders _ _ named]
    rfl

end Registry

end AttributeRelease
