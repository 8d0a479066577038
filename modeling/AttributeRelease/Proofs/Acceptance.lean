import AttributeRelease.Expression.Language
import AttributeRelease.Proofs.Descriptions
import AttributeRelease.Regex.Language

/-! Which descriptions of policies are accepted, and how the others are refused. -/

namespace AttributeRelease

def AttributeRuleDefinition.idIn (policyId : String) (index : Nat) (definition : AttributeRuleDefinition) : String :=
  definition.id.getD s!"{policyId}/rules[{index}]"

/-- What keeps a rule from being initialised, in the order in which that is checked. -/
def AttributeRuleDefinition.causes (builder : Builder) (policyId : String) (index : Nat)
    (definition : AttributeRuleDefinition) : List ConfigError :=
  (if Text.isBlank definition.attributeId then [.missing (.attributeIdOfRule (definition.idIn policyId index))] else []) ++
    definition.matcher.clauses.filterMap (Clause.fault? builder)

namespace PolicyDefinition

def ruleIds (definition : PolicyDefinition) : List String :=
  definition.rules.zipIdx.map fun (rule, index) => rule.idIn definition.id index

def activationClauses (definition : PolicyDefinition) : List Clause :=
  definition.activation.clauses (some s!"{definition.id}/activation")

/-- The clauses of the activation rule, and then those of the matchers of all rules. -/
def clauses (definition : PolicyDefinition) : List Clause :=
  definition.activationClauses ++ definition.rules.flatMap (·.matcher.clauses)

/-- What keeps a policy from being initialised, in the order in which that is checked. -/
def causes (builder : Builder) (definition : PolicyDefinition) : List ConfigError :=
  (if Text.isBlank definition.id then [.missing .policyId] else []) ++
    ((Policy.firstRepeated? [] definition.ruleIds).map (.duplicateRule · definition.id)).toList ++
    definition.activationClauses.filterMap (Clause.fault? builder) ++
    definition.rules.zipIdx.flatMap fun (rule, index) => rule.causes builder definition.id index

/-- A policy that can be initialised once it is built. -/
structure InOrder (builder : Builder) (definition : PolicyDefinition) : Prop where
  id : Text.isBlank definition.id = false
  ruleIds : definition.ruleIds.Nodup
  attributeIds : ∀ rule ∈ definition.rules, Text.isBlank rule.attributeId = false
  scripts : ∀ component expression, .script component expression ∈ definition.clauses →
    ∀ evaluator, builder.evaluator? = some evaluator → evaluator.check expression = .ok ()
  compositions : ∀ component, .composition component 0 ∉ definition.clauses

end PolicyDefinition

variable {builder : Builder}

theorem Clause.fault?_eq_none_iff {clauses : List Clause} :
    clauses.filterMap (Clause.fault? builder) = [] ↔
      (∀ component expression, .script component expression ∈ clauses →
        ∀ evaluator, builder.evaluator? = some evaluator → evaluator.check expression = .ok ()) ∧
      ∀ component, .composition component 0 ∉ clauses := by
  have ofScript (component expression : String) : fault? builder (.script component expression) = none ↔
      ∀ evaluator, builder.evaluator? = some evaluator → evaluator.check expression = .ok () := by
    rw [fault?]
    cases builder.evaluator? with
    | none => simp
    | some evaluator => cases found : evaluator.check expression <;> simp [found]
  have ofComposition (component : String) (size : Nat) :
      fault? builder (.composition component size) = none ↔ size ≠ 0 := by
    simp [fault?]
  rw [List.filterMap_eq_nil_iff]
  constructor
  · intro all
    exact ⟨fun component expression member => (ofScript component expression).mp (all _ member),
      fun component member => (ofComposition component 0).mp (all _ member) rfl⟩
  · rintro ⟨scripts, compositions⟩ clause member
    cases clause with
    | pattern source => rfl
    | script component expression => exact (ofScript component expression).mpr (scripts component expression member)
    | composition component size =>
      refine (ofComposition component size).mpr ?_
      rintro rfl
      exact compositions component member

theorem AttributeRuleDefinition.causes_eq_nil_iff {policyId : String} {index : Nat}
    {definition : AttributeRuleDefinition} : definition.causes builder policyId index = [] ↔
      Text.isBlank definition.attributeId = false ∧ definition.matcher.clauses.filterMap (Clause.fault? builder) = [] := by
  rw [causes, List.append_eq_nil_iff]
  exact and_congr_left fun _ => by cases Text.isBlank definition.attributeId <;> simp

theorem PolicyDefinition.causes_eq_nil_iff {definition : PolicyDefinition} :
    definition.causes builder = [] ↔ definition.InOrder builder := by
  have rules : (definition.rules.zipIdx.flatMap fun (rule, index) => rule.causes builder definition.id index) = [] ↔
      (∀ rule ∈ definition.rules, Text.isBlank rule.attributeId = false) ∧
        definition.rules.flatMap (fun rule => rule.matcher.clauses.filterMap (Clause.fault? builder)) = [] := by
    have each : (∀ place ∈ definition.rules.zipIdx, place.1.causes builder definition.id place.2 = []) ↔
        ∀ rule ∈ definition.rules, Text.isBlank rule.attributeId = false ∧
          rule.matcher.clauses.filterMap (Clause.fault? builder) = [] := by
      simp only [AttributeRuleDefinition.causes_eq_nil_iff]
      have places := List.zipIdx_map_fst 0 definition.rules
      constructor
      · intro all rule member
        obtain ⟨place, inside, rfl⟩ := List.mem_map.mp (places ▸ member)
        exact all place inside
      · intro all place inside
        exact all place.1 (places ▸ List.mem_map_of_mem inside)
    rw [List.flatMap_eq_nil_iff, List.flatMap_eq_nil_iff]
    refine each.trans ⟨fun all => ⟨fun rule member => (all rule member).1, fun rule member => (all rule member).2⟩, ?_⟩
    exact fun both rule member => ⟨both.1 rule member, both.2 rule member⟩
  have faults : definition.clauses.filterMap (Clause.fault? builder) = [] ↔
      definition.activationClauses.filterMap (Clause.fault? builder) = [] ∧
        definition.rules.flatMap (fun rule => rule.matcher.clauses.filterMap (Clause.fault? builder)) = [] := by
    rw [clauses, List.filterMap_append, List.append_eq_nil_iff, List.filterMap_flatMap]
  have named : (if Text.isBlank definition.id then [ConfigError.missing .policyId] else []) = [] ↔
      Text.isBlank definition.id = false := by
    cases Text.isBlank definition.id <;> simp
  have distinct : ((Policy.firstRepeated? [] definition.ruleIds).map (ConfigError.duplicateRule · definition.id)).toList = [] ↔
      definition.ruleIds.Nodup := by
    rw [← Policy.firstRepeated?_eq_none_iff]
    cases Policy.firstRepeated? [] definition.ruleIds <;> simp
  rw [causes, List.append_eq_nil_iff, List.append_eq_nil_iff, List.append_eq_nil_iff, named, distinct, rules]
  constructor
  · rintro ⟨⟨⟨id, ruleIds⟩, activation⟩, attributeIds, matchers⟩
    obtain ⟨scripts, compositions⟩ := Clause.fault?_eq_none_iff.mp (faults.mpr ⟨activation, matchers⟩)
    exact ⟨id, ruleIds, attributeIds, scripts, compositions⟩
  · rintro ⟨id, ruleIds, attributeIds, scripts, compositions⟩
    obtain ⟨activation, matchers⟩ := faults.mp (Clause.fault?_eq_none_iff.mpr ⟨scripts, compositions⟩)
    exact ⟨⟨⟨id, ruleIds⟩, activation⟩, attributeIds, matchers⟩

theorem PolicyDefinition.head?_causes (definition : PolicyDefinition) :
    (definition.causes builder).head? =
      (if Text.isBlank definition.id then some (ConfigError.missing .policyId) else none).or
        (((Policy.firstRepeated? [] definition.ruleIds).map (ConfigError.duplicateRule · definition.id)).or
          ((definition.activationClauses.findSome? (Clause.fault? builder)).or
            (definition.rules.zipIdx.findSome? fun (rule, index) => (rule.causes builder definition.id index).head?))) := by
  have blank : (if Text.isBlank definition.id then [ConfigError.missing .policyId] else []).head? =
      if Text.isBlank definition.id then some (ConfigError.missing .policyId) else none := by
    split <;> rfl
  rw [causes, List.head?_append, List.head?_append, List.head?_append, blank, Option.head?_toList, List.head?_filterMap,
    List.head?_flatMap, Option.or_assoc, Option.or_assoc]

theorem Yields.of_attempt {α : Type} {good : α → Prop} {attempt : Attempt α}
    (done : attempt.error? = none → good attempt.left) : Yields good attempt.error? attempt.finished := by
  obtain ⟨left, error?⟩ := attempt
  cases error? with
  | none => exact ⟨left, rfl, done rfl⟩
  | some error => exact rfl

section

variable [PatternLanguage]

namespace Builder

structure Accepts (builder : Builder) (definitions : List PolicyDefinition) : Prop where
  patterns : ∀ definition ∈ definitions, ∀ source, .pattern source ∈ definition.clauses →
    ∃ accepts, PatternLanguage.compile source = .ok accepts
  scripts : ∀ definition ∈ definitions, ∀ component expression, .script component expression ∈ definition.clauses →
    ∃ evaluator, builder.evaluator? = some evaluator ∧ evaluator.check expression = .ok ()
  compositions : ∀ definition ∈ definitions, ∀ component, .composition component 0 ∉ definition.clauses
  policyIds : ∀ definition ∈ definitions, Text.isBlank definition.id = false
  distinctPolicies : (definitions.map PolicyDefinition.id).Nodup
  attributeIds : ∀ definition ∈ definitions, ∀ rule ∈ definition.rules, Text.isBlank rule.attributeId = false
  distinctRules : ∀ definition ∈ definitions, definition.ruleIds.Nodup

/-- The policies that cannot be initialised, each with its first cause. -/
def faulty (builder : Builder) (definitions : List PolicyDefinition) : List (String × ConfigError) :=
  definitions.filterMap fun definition => (definition.causes builder).head?.map (definition.id, ·)

/-- Why descriptions are refused: the first clause that cannot be built, or else a repeated policy id, or
else all that cannot be initialised. -/
def refusal? (builder : Builder) (engineId : String) (definitions : List PolicyDefinition) : Option ConfigError :=
  ((definitions.flatMap PolicyDefinition.clauses).findSome? (Clause.refusal? builder)).or
    (((Policy.firstRepeated? [] (definitions.map PolicyDefinition.id)).map (.duplicatePolicy · engineId)).or
      (if (builder.faulty definitions).isEmpty then none else some (.invalidPolicies (builder.faulty definitions))))

end Builder

theorem Clause.refusal?_eq_none_iff {clauses : List Clause} :
    clauses.findSome? (Clause.refusal? builder) = none ↔
      (∀ source, .pattern source ∈ clauses → ∃ accepts, PatternLanguage.compile source = .ok accepts) ∧
      ∀ component expression, .script component expression ∈ clauses → builder.evaluator?.isSome = true := by
  rw [List.findSome?_eq_none_iff]
  constructor
  · intro all
    refine ⟨fun source member => ?_, fun component expression member => ?_⟩
    · have clear := all _ member
      rw [refusal?] at clear
      split at clear
      next accepts compiled => exact ⟨accepts, compiled⟩
      next => cases clear
    · simpa [refusal?, Option.isSome_iff_ne_none] using all _ member
  · rintro ⟨patterns, scripts⟩ clause member
    cases clause with
    | pattern source =>
      obtain ⟨accepts, compiled⟩ := patterns source member
      rw [refusal?, compiled]
    | script component expression => simp [refusal?, scripts component expression member]
    | composition component size => rfl

theorem Builder.refusal?_eq_none_iff (engineId : String) {definitions : List PolicyDefinition} :
    builder.refusal? engineId definitions = none ↔ builder.Accepts definitions := by
  have faulty : builder.faulty definitions = [] ↔ ∀ definition ∈ definitions, definition.InOrder builder := by
    rw [Builder.faulty, List.filterMap_eq_nil_iff]
    refine forall₂_congr fun definition _ => ?_
    rw [Option.map_eq_none_iff, List.head?_eq_none_iff, PolicyDefinition.causes_eq_nil_iff]
  have distinct : (Policy.firstRepeated? [] (definitions.map PolicyDefinition.id)).map
      (ConfigError.duplicatePolicy · engineId) = none ↔ (definitions.map PolicyDefinition.id).Nodup := by
    rw [Option.map_eq_none_iff, Policy.firstRepeated?_eq_none_iff]
  have inOrder : (if (builder.faulty definitions).isEmpty then none
      else some (ConfigError.invalidPolicies (builder.faulty definitions))) = none ↔
        ∀ definition ∈ definitions, definition.InOrder builder := by
    rw [← faulty]
    cases builder.faulty definitions <;> simp
  rw [Builder.refusal?, Option.or_eq_none_iff, Option.or_eq_none_iff, Clause.refusal?_eq_none_iff, distinct, inOrder]
  constructor
  · rintro ⟨⟨patterns, evaluators⟩, distinctPolicies, ready⟩
    have present {definition : PolicyDefinition} (member : definition ∈ definitions) {clause : Clause}
        (inside : clause ∈ definition.clauses) : clause ∈ definitions.flatMap PolicyDefinition.clauses :=
      List.mem_flatMap.mpr ⟨definition, member, inside⟩
    refine ⟨fun definition member source inside => patterns source (present member inside), ?scripts,
      fun definition member => (ready definition member).compositions, fun definition member => (ready definition member).id,
      distinctPolicies, fun definition member => (ready definition member).attributeIds,
      fun definition member => (ready definition member).ruleIds⟩
    intro definition member component expression inside
    obtain ⟨evaluator, given⟩ := Option.isSome_iff_exists.mp (evaluators component expression (present member inside))
    exact ⟨evaluator, given, (ready definition member).scripts component expression inside evaluator given⟩
  · intro accepts
    refine ⟨⟨fun source member => ?_, fun component expression member => ?_⟩, accepts.distinctPolicies,
      fun definition member => ?_⟩
    · obtain ⟨definition, within, inside⟩ := List.mem_flatMap.mp member
      exact accepts.patterns definition within source inside
    · obtain ⟨definition, within, inside⟩ := List.mem_flatMap.mp member
      obtain ⟨evaluator, given, _⟩ := accepts.scripts definition within component expression inside
      exact Option.isSome_iff_exists.mpr ⟨evaluator, given⟩
    · refine ⟨accepts.policyIds definition member, accepts.distinctRules definition member,
        accepts.attributeIds definition member, ?_, accepts.compositions definition member⟩
      intro component expression inside evaluator given
      obtain ⟨other, same, passes⟩ := accepts.scripts definition member component expression inside
      cases given.symm.trans same
      exact passes

variable {definitions : List PolicyDefinition}

/-- A rule as it is described, wherever it stands in a policy. -/
structure AttributeRuleDefinition.Describes (definition : AttributeRuleDefinition) (builder : Builder)
    (rule : AttributeRule) : Prop where
  reached : rule.Reached
  id : ∀ policyId index, rule.givenId.getD s!"{policyId}/rules[{index}]" = definition.idIn policyId index
  faults : ∀ policyId index, ({ rule with givenId := some (definition.idIn policyId index) } : AttributeRule).initialise.error? =
    (definition.causes builder policyId index).head?

private theorem attributeRule_yields (definition : AttributeRuleDefinition) :
    Yields (definition.Describes builder) (definition.matcher.clauses.findSome? (Clause.refusal? builder))
      (builder.attributeRule definition) := by
  refine (build_yields.2 definition.matcher).wrap fun matcher describes => ?_
  have binding : AttributeRule.Reached { attributeId := definition.attributeId, effect := definition.effect, matcher } :=
    .binding definition.attributeId definition.effect describes.reached
  refine ⟨?_, fun policyId index => rfl, fun policyId index => ?_⟩
  · cases given : definition.id with
    | none => exact binding
    | some id => exact binding.withId id
  · rw [AttributeRule.error?_initialise, AttributeRuleDefinition.causes, List.head?_append, List.head?_filterMap,
      describes.faults]
    split <;> rfl

/-- The rules of a policy as they are described, from some place in it onwards. -/
structure AttributeRuleDefinition.DescribeAll (builder : Builder) (definitions : List AttributeRuleDefinition)
    (rules : List AttributeRule) : Prop where
  reached : ∀ rule ∈ rules, rule.Reached
  ids : ∀ policyId start, (Policy.nameRules policyId start rules).map AttributeRule.id =
    (definitions.zipIdx start).map fun (rule, index) => rule.idIn policyId index
  faults : ∀ policyId start, (Policy.nameRules policyId start rules).findSome? (·.initialise.error?) =
    (definitions.zipIdx start).findSome? fun (rule, index) => (rule.causes builder policyId index).head?

private theorem attributeRules_yield (definitions : List AttributeRuleDefinition) :
    Yields (AttributeRuleDefinition.DescribeAll builder definitions)
      ((definitions.flatMap (·.matcher.clauses)).findSome? (Clause.refusal? builder))
      (definitions.mapM builder.attributeRule) := by
  rw [findSome?_flatMap]
  refine Yields.mapM (AttributeRuleDefinition.DescribeAll builder) ⟨nofun, fun _ _ => rfl, fun _ _ => rfl⟩ ?_
    fun definition _ => attributeRule_yields definition
  intro definition rest rule rules describes later
  refine ⟨List.forall_mem_cons.mpr ⟨describes.reached, later.reached⟩, fun policyId start => ?_, fun policyId start => ?_⟩
  · rw [Policy.nameRules, describes.id policyId start, List.map_cons, later.ids policyId (start + 1)]
    rfl
  · rw [Policy.nameRules, describes.id policyId start, List.findSome?_cons, describes.faults policyId start,
      later.faults policyId (start + 1), List.zipIdx_cons, List.findSome?_cons]

structure PolicyDefinition.Describes (definition : PolicyDefinition) (builder : Builder) (policy : Policy) : Prop where
  reached : policy.Reached false
  id : policy.id = definition.id
  faults : policy.initialise.error? = (definition.causes builder).head?

private theorem policy_yields (definition : PolicyDefinition) :
    Yields (definition.Describes builder) (definition.clauses.findSome? (Clause.refusal? builder))
      (builder.policy definition) := by
  rw [PolicyDefinition.clauses, List.findSome?_append, PolicyDefinition.activationClauses, Clause.refusal?_clauses]
  refine (build_yields.1 definition.activation).bind fun activation describes => ?_
  refine (attributeRules_yield definition.rules).wrap fun rules all => ?_
  refine ⟨.withRules (.named definition.id (describes.reached.withId _)) all.reached nofun, rfl, ?_⟩
  have ids : (Policy.nameRules definition.id 0 rules).map AttributeRule.id = definition.ruleIds := all.ids definition.id 0
  have activationFaults : (activation.withId s!"{definition.id}/activation").initialise.error? =
    definition.activationClauses.findSome? (Clause.fault? builder) := describes.faults (some _)
  rw [Policy.error?_initialise rfl, PolicyDefinition.head?_causes, ← ids, ← activationFaults, ← all.faults definition.id 0]
  rfl

structure PolicyDefinition.DescribeAll (builder : Builder) (definitions : List PolicyDefinition)
    (policies : List Policy) : Prop where
  reached : ∀ policy ∈ policies, policy.Reached false
  ids : policies.map Policy.id = definitions.map PolicyDefinition.id
  faulty : (policies.filterMap fun policy => policy.initialise.error?.map (policy.id, ·)) = builder.faulty definitions

private theorem policies_yield (definitions : List PolicyDefinition) :
    Yields (PolicyDefinition.DescribeAll builder definitions)
      ((definitions.flatMap PolicyDefinition.clauses).findSome? (Clause.refusal? builder))
      (definitions.mapM builder.policy) := by
  rw [findSome?_flatMap]
  refine Yields.mapM (PolicyDefinition.DescribeAll builder) ⟨nofun, rfl, rfl⟩ ?_
    fun definition _ => policy_yields definition
  intro definition rest policy policies describes later
  refine ⟨List.forall_mem_cons.mpr ⟨describes.reached, later.reached⟩, ?_, ?_⟩
  · rw [List.map_cons, List.map_cons, describes.id, later.ids]
  · rw [List.filterMap_cons, later.faulty, describes.faults, describes.id, Builder.faulty, Builder.faulty,
      List.filterMap_cons]

namespace Builder

private theorem engine_yields (builder : Builder) (engineId : String) (definitions : List PolicyDefinition) :
    Yields Engine.Checked (builder.refusal? engineId definitions) (builder.engine engineId definitions) := by
  refine (policies_yield definitions).bind fun policies all => ?_
  have reached : (Engine.named engineId policies).Reached false := .named engineId all.reached
  have faults : (Engine.named engineId policies).initialise.error? =
      ((Policy.firstRepeated? [] (policies.map Policy.id)).map (ConfigError.duplicatePolicy · engineId)).or
        (let refused := policies.filterMap fun policy => policy.initialise.error?.map (policy.id, ·)
          if refused.isEmpty then none else some (.invalidPolicies refused)) := Engine.error?_initialise rfl
  -- Of the policies that were built, only what the definitions say of them is left here.
  rw [all.ids, all.faulty] at faults
  rw [← faults]
  exact .of_attempt (Engine.initialise_ensures reached.sound).finished

theorem engine_checked {engineId : String} {definitions : List PolicyDefinition} {engine : Engine}
    (built : builder.engine engineId definitions = .ok engine) : engine.Checked := by
  have yields := engine_yields builder engineId definitions
  rw [built] at yields
  cases refused : builder.refusal? engineId definitions with
  | some error =>
    rw [refused] at yields
    cases yields
  | none =>
    rw [refused] at yields
    obtain ⟨_, same, checked⟩ := yields
    cases same
    exact checked

theorem engine_eq_error_iff {engineId : String} {definitions : List PolicyDefinition} {error : ConfigError} :
    builder.engine engineId definitions = .error error ↔ builder.refusal? engineId definitions = some error := by
  have yields := engine_yields builder engineId definitions
  cases refused : builder.refusal? engineId definitions with
  | some other =>
    rw [refused] at yields
    rw [show builder.engine engineId definitions = .error other from yields, Except.error.injEq, Option.some.injEq]
  | none =>
    rw [refused] at yields
    obtain ⟨engine, built, _⟩ := yields
    rw [built]
    exact ⟨nofun, nofun⟩

/-- Definitions are accepted exactly if all that stands in them, at whatever depth, is in order, and then
the engine is ready for use. If not, then the first clause that cannot be built is the reason, or else a
repeated policy id, or else every policy that is not in order, each with the first thing wrong with it. -/
theorem engine_accepts_or_refuses (builder : Builder) (engineId : String) (definitions : List PolicyDefinition) :
    ((∃ engine, builder.engine engineId definitions = .ok engine) ↔ builder.Accepts definitions) ∧
      (∀ engine, builder.engine engineId definitions = .ok engine →
        engine.component.isInitialised = true ∧ engine.validate = .ok ()) ∧
      (∀ error, builder.engine engineId definitions = .error error ↔
        builder.refusal? engineId definitions = some error) ∧
      (∀ definition : PolicyDefinition, definition.causes builder = [] ↔ definition.InOrder builder) ∧
      ∀ ids id, Policy.firstRepeated? [] ids = some id ↔
        ∃ before after, ids = before ++ id :: after ∧ before.Nodup ∧ id ∈ before := by
  refine ⟨?accepted, fun engine built => ?ready, fun error => engine_eq_error_iff,
    fun definition => PolicyDefinition.causes_eq_nil_iff, fun ids id => Policy.firstRepeated?_eq_some_iff⟩
  case accepted =>
    rw [← refusal?_eq_none_iff engineId]
    cases built : builder.engine engineId definitions with
    | error error => simp [engine_eq_error_iff.mp built]
    | ok engine =>
      refine iff_of_true ⟨engine, rfl⟩ (Option.eq_none_iff_forall_ne_some.mpr fun error refused => ?_)
      exact nomatch built.symm.trans (engine_eq_error_iff.mpr refused)
  case ready =>
    have valid := (engine_checked built).valid
    exact ⟨Component.isInitialised_iff.mpr (Engine.validate_isOk_iff.mp valid).1, valid⟩

end Builder

end

attribute [local instance] Regex.language Script.Expr.language

namespace Builder

/-- Whoever asks over a secure connection gets the addresses of members, but only for one person. -/
private def directory : PolicyDefinition where
  id := "directory"
  activation := .and [.condition (.requesterPattern "^https:"),
    .not (.attributeMatches "status" (.condition (.value { value := "locked" })))]
  rules := [{ attributeId := "mail", matcher := .or [.condition (.scopePattern "[.]org$"),
    .fromRule (.script "principal == \"jdoe\"" none)] }]

private def everyone : PolicyDefinition := { id := "everyone", activation := .any }

private def empty : PolicyDefinition := { id := "empty", activation := .and [] }

/-- Where several policies are out of order, what cannot be built counts before a repeated id, and that
before an empty composition. -/
theorem engine_accepts_or_refuses_home :
    (∃ home, engine (.ofSettings {}) "home" [directory, everyone] = .ok home ∧ home.validate = .ok ()) ∧
      engine {} "home" [everyone, empty, empty, directory] = .error (.missing .evaluator) ∧
      engine {} "home" [everyone, empty, empty] = .error (.duplicatePolicy "empty" "home") ∧
      engine {} "home" [everyone, empty] = .error (.invalidPolicies [("empty", .emptyComposition "empty/activation")]) := by
  obtain ⟨accepted, ready, _, _⟩ := engine_accepts_or_refuses (.ofSettings {}) "home" [directory, everyone]
  obtain ⟨home, built⟩ := accepted.mpr ((refusal?_eq_none_iff "home").mp (by with_unfolding_all rfl))
  have refused (definitions : List PolicyDefinition) := (engine_accepts_or_refuses {} "home" definitions).2.2.1
  exact ⟨⟨home, built, (ready home built).2⟩,
    (refused [everyone, empty, empty, directory] _).mpr (by with_unfolding_all rfl),
    (refused [everyone, empty, empty] _).mpr rfl, (refused [everyone, empty] _).mpr rfl⟩

end Builder

end AttributeRelease
