import AttributeRelease.Engine.Part
import AttributeRelease.Proofs.Initialisation
import AttributeRelease.Regex.Language

/-! Initialising again what has just been initialised gives the same result and changes nothing more. That is so
as well if the first time it stopped half-way: what was initialised by then is passed over, and it stops at the same
place. -/

namespace AttributeRelease

/-- A node is initialised again as before, provided that this is so for its parts: either it was initialised and is
left alone, or it still has its own component. -/
theorem Component.node_again {α β : Type} {component : Component} {parts : Attempt α} (build : Component → α → β)
    {initialise : β → Attempt β}
    (alone : ∀ after : Component, after.isInitialised = true →
      initialise (build after parts.left) = .ok (build after parts.left))
    (again : initialise (build component parts.left) =
      parts.andThen (build component) fun parts => component.attempt (build · parts)) :
    initialise (parts.andThen (build component) fun parts => component.attempt (build · parts)).left =
      parts.andThen (build component) fun parts => component.attempt (build · parts) := by
  obtain ⟨left, error?⟩ := parts
  obtain ⟨id, phase⟩ := component
  cases error? with
  | some error => exact again
  | none =>
    cases phase with
    | destroyed => exact again
    | uninitialised | initialised => exact alone ⟨id, .initialised⟩ rfl

theorem Component.node_started {α β : Type} {component : Component} {parts : Attempt α} (build : Component → α → β)
    (finished : (parts.andThen (build component) fun parts => component.attempt (build · parts)).error? = none) :
    ∃ after : Component, after.isInitialised = true ∧
      (parts.andThen (build component) fun parts => component.attempt (build · parts)).left = build after parts.left := by
  obtain ⟨left, error?⟩ := parts
  obtain ⟨id, phase⟩ := component
  cases error? with
  | some error => cases finished
  | none =>
    cases phase with
    | destroyed => cases finished
    | uninitialised | initialised => exact ⟨⟨id, .initialised⟩, rfl, rfl⟩

theorem Component.leaf_again {α : Type} {component : Component} {checked : Except ConfigError Unit}
    {build : Component → α} {initialise : α → Attempt α}
    (alone : ∀ after : Component, after.isInitialised = true → initialise (build after) = .ok (build after))
    (again : initialise (build component) = component.attemptChecked checked build) :
    initialise (component.attemptChecked checked build).left = component.attemptChecked checked build := by
  cases checked with
  | error error => exact again
  | ok checked =>
    obtain ⟨id, phase⟩ := component
    cases phase with
    | destroyed => exact again
    | uninitialised | initialised => exact alone ⟨id, .initialised⟩ rfl

section

variable [PatternLanguage]

theorem Rule.initialise_of_initialised {rule : Rule} (initialised : rule.component.isInitialised = true) :
    rule.initialise = .ok rule := by
  cases rule with
  | atom | and | or | not | attributeMatches =>
    rw [initialise]
    exact if_pos initialised

theorem Matcher.initialise_of_initialised {matcher : Matcher} (initialised : matcher.component.isInitialised = true) :
    matcher.initialise = .ok matcher := by
  cases matcher with
  | atom | fromRule | and | or | not =>
    rw [initialise]
    exact if_pos initialised

theorem initialise_again :
    (∀ rule : Rule, rule.initialise.left.initialise = rule.initialise) ∧
    ∀ matcher : Matcher, matcher.initialise.left.initialise = matcher.initialise := by
  refine tree_induction _ _ ?ruleAtom ?ruleAnd ?ruleOr ?ruleNot ?attributeMatches ?matcherAtom ?fromRule ?matcherAnd
    ?matcherOr ?matcherNot
  case ruleAtom =>
    intro component leaf
    rw [Rule.initialise]
    split
    next initialised => exact Rule.initialise_of_initialised initialised
    next idle =>
      refine component.leaf_again (fun _ initialised => Rule.initialise_of_initialised initialised) ?_
      rw [Rule.initialise, if_neg idle]
  case matcherAtom =>
    intro component leaf
    rw [Matcher.initialise]
    split
    next initialised => exact Matcher.initialise_of_initialised initialised
    next idle =>
      refine component.leaf_again (fun _ initialised => Matcher.initialise_of_initialised initialised) ?_
      rw [Matcher.initialise, if_neg idle]
  case ruleAnd | ruleOr =>
    intro component children ih
    rw [Rule.initialise]
    split
    next initialised => exact Rule.initialise_of_initialised initialised
    next idle =>
      split
      next empty =>
        rw [Attempt.fail, Rule.initialise, if_neg idle, if_pos empty]
        rfl
      next nonempty =>
        refine component.node_again _ (fun _ initialised => Rule.initialise_of_initialised initialised) ?_
        rw [Rule.initialise, if_neg idle, initialiseRules_eq, Attempt.isEmpty_left_each, if_neg nonempty,
          initialiseRules_eq, Attempt.each_again ih]
  case matcherAnd | matcherOr =>
    intro component children ih
    rw [Matcher.initialise]
    split
    next initialised => exact Matcher.initialise_of_initialised initialised
    next idle =>
      split
      next empty =>
        rw [Attempt.fail, Matcher.initialise, if_neg idle, if_pos empty]
        rfl
      next nonempty =>
        refine component.node_again _ (fun _ initialised => Matcher.initialise_of_initialised initialised) ?_
        rw [Matcher.initialise, if_neg idle, initialiseMatchers_eq, Attempt.isEmpty_left_each, if_neg nonempty,
          initialiseMatchers_eq, Attempt.each_again ih]
  case ruleNot =>
    intro component child ih
    rw [Rule.initialise]
    split
    next initialised => exact Rule.initialise_of_initialised initialised
    next idle =>
      refine component.node_again _ (fun _ initialised => Rule.initialise_of_initialised initialised) ?_
      rw [Rule.initialise, if_neg idle, ih]
  case attributeMatches =>
    intro component attributeId matcher ih
    rw [Rule.initialise]
    split
    next initialised => exact Rule.initialise_of_initialised initialised
    next idle =>
      refine component.node_again (Rule.attributeMatches · attributeId ·)
        (fun _ initialised => Rule.initialise_of_initialised initialised) ?_
      rw [Rule.initialise, if_neg idle, ih]
  case fromRule | matcherNot =>
    intro component part ih
    rw [Matcher.initialise]
    split
    next initialised => exact Matcher.initialise_of_initialised initialised
    next idle =>
      refine component.node_again _ (fun _ initialised => Matcher.initialise_of_initialised initialised) ?_
      rw [Matcher.initialise, if_neg idle, ih]

theorem AttributeRule.initialise_again (rule : AttributeRule) : rule.initialise.left.initialise = rule.initialise := by
  by_cases blank : Text.isBlank rule.attributeId = true
  · have stopped : rule.initialise = .fail rule (.missing (.attributeIdOfRule rule.id)) := if_pos blank
    rw [stopped]
    exact stopped
  · have run (matcher : Matcher) : initialise { rule with matcher } =
        matcher.initialise.andThen ({ rule with matcher := · }) fun matcher => .ok { rule with matcher } := if_neg blank
    have first : rule.initialise = _ := run rule.matcher
    have again := run rule.matcher.initialise.left
    rw [AttributeRelease.initialise_again.2 rule.matcher] at again
    rw [first]
    generalize rule.matcher.initialise = attempt at again ⊢
    obtain ⟨left, error?⟩ := attempt
    cases error? <;> exact again

theorem AttributeRule.givenId_initialise (rule : AttributeRule) : rule.initialise.left.givenId = rule.givenId := by
  rw [initialise]
  split
  · rfl
  · generalize rule.matcher.initialise = attempt
    obtain ⟨matcher, error?⟩ := attempt
    cases error? <;> rfl

namespace Policy

/-- No rule is without an id. -/
def Named (rules : List AttributeRule) : Prop := ∀ given ∈ rules.map AttributeRule.givenId, given ≠ none

theorem named_nameRules (policyId : String) (index : Nat) (rules : List AttributeRule) :
    Named (nameRules policyId index rules) := by
  induction rules generalizing index with
  | nil => exact nofun
  | cons rule rest ih => exact List.forall_mem_cons.mpr ⟨nofun, ih (index + 1)⟩

theorem Named.nameRules {rules : List AttributeRule} (named : Named rules) (policyId : String) (index : Nat) :
    nameRules policyId index rules = rules := by
  induction rules generalizing index with
  | nil => rfl
  | cons rule rest ih =>
    obtain ⟨here, later⟩ := List.forall_mem_cons.mp named
    obtain ⟨id, given⟩ := Option.ne_none_iff_exists'.mp here
    rw [Policy.nameRules, ih later, given, Option.getD_some, ← given]

def ofParts (component : Component) (parts : Rule × List AttributeRule) : Policy :=
  { component, activation := parts.1, rules := parts.2 }

def initialiseParts (activation : Rule) (rules : List AttributeRule) : Attempt (Rule × List AttributeRule) :=
  activation.initialise.andThen (·, rules) fun activation =>
    (Attempt.each AttributeRule.initialise rules).map (activation, ·)

theorem initialiseParts_again (activation : Rule) (rules : List AttributeRule) :
    initialiseParts (initialiseParts activation rules).left.1 (initialiseParts activation rules).left.2 =
      initialiseParts activation rules := by
  have first := AttributeRelease.initialise_again.1 activation
  have others := Attempt.each_again fun rule (_ : rule ∈ rules) => rule.initialise_again
  have run : initialiseParts activation rules = activation.initialise.andThen (·, rules) _ := rfl
  rw [run]
  generalize activation.initialise = attempt at first ⊢
  obtain ⟨left, error?⟩ := attempt
  replace first : left.initialise = ⟨left, error?⟩ := first
  cases error? with
  | some error =>
    change initialiseParts left rules = _
    rw [initialiseParts, first]
  | none =>
    change initialiseParts left (Attempt.each AttributeRule.initialise rules).left = _
    rw [initialiseParts, first, Attempt.andThen, others]
    rfl

theorem map_left_initialiseParts {α : Type} {key : AttributeRule → α}
    (same : ∀ rule, key rule.initialise.left = key rule)
    (activation : Rule) (rules : List AttributeRule) :
    (initialiseParts activation rules).left.2.map key = rules.map key := by
  rw [initialiseParts]
  generalize activation.initialise = attempt
  obtain ⟨left, error?⟩ := attempt
  cases error? with
  | some error => rfl
  | none => exact Attempt.map_left_each fun rule _ => same rule

section
variable {component : Component} (idle : component.isInitialised = false)
include idle

theorem initialise_of_blank (blank : Text.isBlank component.id = true) (activation : Rule) (rules : List AttributeRule) :
    initialise { component, activation, rules } = .fail { component, activation, rules } (.missing .policyId) := by
  rw [initialise, if_neg (Bool.eq_false_iff.mp idle)]
  exact if_pos blank

/-- Rules are named, and their ids compared, before any part is initialised. -/
theorem initialise_of_filled (filled : Text.isBlank component.id = false) (activation : Rule) (rules : List AttributeRule) :
    initialise { component, activation, rules } =
      match firstRepeated? [] ((nameRules component.id 0 rules).map AttributeRule.id) with
      | some ruleId =>
        .fail { component, activation, rules := nameRules component.id 0 rules } (.duplicateRule ruleId component.id)
      | none => (initialiseParts activation (nameRules component.id 0 rules)).andThen (ofParts component)
          fun parts => component.attempt (ofParts · parts) := by
  have notBlank : ¬ Text.isBlank (id { component, activation, rules }) = true := Bool.eq_false_iff.mp filled
  rw [initialise, if_neg (Bool.eq_false_iff.mp idle), if_neg notBlank]
  dsimp only [id]
  cases firstRepeated? [] ((nameRules component.id 0 rules).map AttributeRule.id) with
  | some ruleId => rfl
  | none =>
    simp only [initialiseAttributeRules_eq, initialiseParts]
    obtain ⟨activation, error?⟩ := activation.initialise
    cases error? with
    | some error => rfl
    | none =>
      obtain ⟨rules, error?⟩ := Attempt.each AttributeRule.initialise (nameRules component.id 0 rules)
      cases error? <;> rfl

end

theorem id_initialise (policy : Policy) : policy.initialise.left.id = policy.id := by
  obtain ⟨component, activation, rules⟩ := policy
  cases idle : component.isInitialised with
  | true =>
    rw [@initialise_of_initialised _ ⟨component, activation, rules⟩ idle]
    rfl
  | false =>
  cases filled : Text.isBlank component.id with
  | true =>
    rw [initialise_of_blank idle filled]
    rfl
  | false =>
  rw [initialise_of_filled idle filled]
  split
  · rfl
  · obtain ⟨after, left, same, _⟩ :=
      component.node_keeps (initialiseParts activation (nameRules component.id 0 rules)) ofParts
    exact (congrArg id left).trans same

theorem isInitialised_of_finished {policy : Policy} (finished : policy.initialise.error? = none) :
    policy.initialise.left.component.isInitialised = true := by
  obtain ⟨component, activation, rules⟩ := policy
  cases idle : component.isInitialised with
  | true =>
    rw [@initialise_of_initialised _ ⟨component, activation, rules⟩ idle]
    exact idle
  | false =>
  cases filled : Text.isBlank component.id with
  | true =>
    rw [initialise_of_blank idle filled] at finished
    cases finished
  | false =>
  rw [initialise_of_filled idle filled] at finished ⊢
  cases repeated : firstRepeated? [] ((nameRules component.id 0 rules).map AttributeRule.id) with
  | some ruleId =>
    rw [repeated] at finished
    cases finished
  | none =>
    rw [repeated] at finished
    obtain ⟨after, started, left⟩ := Component.node_started ofParts finished
    exact (congrArg (·.component.isInitialised) left).trans started

theorem initialise_again (policy : Policy) : policy.initialise.left.initialise = policy.initialise := by
  obtain ⟨component, activation, rules⟩ := policy
  cases idle : component.isInitialised with
  | true =>
    have initialised := @initialise_of_initialised _ ⟨component, activation, rules⟩ idle
    rw [initialised]
    exact initialised
  | false =>
  cases filled : Text.isBlank component.id with
  | true =>
    have stopped := initialise_of_blank idle filled activation rules
    rw [stopped]
    exact stopped
  | false =>
  -- What is left has named rules with the same ids, so they pass or fail the comparison as before.
  have again := initialise_of_filled idle filled
  have named := named_nameRules component.id 0 rules
  rw [again activation rules]
  generalize nameRules component.id 0 rules = rules at named ⊢
  cases repeated : firstRepeated? [] (rules.map AttributeRule.id) with
  | some ruleId =>
    dsimp only [Attempt.fail]
    rw [again, named.nameRules, repeated]
    rfl
  | none =>
    have ids := map_left_initialiseParts AttributeRule.id_initialise activation rules
    have given := map_left_initialiseParts AttributeRule.givenId_initialise activation rules
    have stillNamed : Named (initialiseParts activation rules).left.2 := by rwa [Named, given]
    refine component.node_again ofParts (fun _ initialised => initialise_of_initialised initialised) ?_
    rw [ofParts, again, stillNamed.nameRules, ids, repeated, initialiseParts_again]

end Policy

namespace Engine

theorem initialise_of_initialised {engine : Engine} (initialised : engine.component.isInitialised = true) :
    engine.initialise = .ok engine := by
  rw [initialise, if_pos initialised]

/-- The policies that cannot be initialised, each with what it fails with. -/
def refusals (engine : Engine) : List (String × ConfigError) :=
  engine.policies.filterMap fun policy => policy.initialise.error?.map (policy.id, ·)

section
variable {engine : Engine} (idle : engine.component.isInitialised = false)
include idle

theorem initialise_of_repeated {policyId : String}
    (repeated : Policy.firstRepeated? [] (engine.policies.map Policy.id) = some policyId) :
    engine.initialise = .fail engine (.duplicatePolicy policyId engine.id) := by
  rw [initialise, if_neg (Bool.eq_false_iff.mp idle), repeated]

theorem initialise_of_distinct (distinct : Policy.firstRepeated? [] (engine.policies.map Policy.id) = none) :
    engine.initialise =
      if engine.refusals.isEmpty then
        engine.component.attempt ({ component := ·, policies := engine.policies.map (·.initialise.left) })
      else .fail { engine with policies := engine.policies.map (·.initialise.left) } (.invalidPolicies engine.refusals) := by
  rw [initialise, if_neg (Bool.eq_false_iff.mp idle), distinct, initialisePolicies_eq, refusals]

end

theorem map_id_initialise (policies : List Policy) :
    (policies.map (·.initialise.left)).map Policy.id = policies.map Policy.id := by
  rw [List.map_map]
  exact List.map_congr_left fun policy _ => policy.id_initialise

theorem refusals_initialised (component : Component) (policies : List Policy) :
    refusals { component, policies := policies.map (·.initialise.left) } = refusals { component, policies } := by
  rw [refusals, refusals, List.filterMap_map]
  refine congrArg (List.filterMap · policies) (funext fun policy => ?_)
  rw [Function.comp, policy.initialise_again, policy.id_initialise]

theorem initialise_again (engine : Engine) : engine.initialise.left.initialise = engine.initialise := by
  obtain ⟨component, policies⟩ := engine
  cases idle : component.isInitialised with
  | true =>
    have initialised := @initialise_of_initialised _ ⟨component, policies⟩ idle
    rw [initialised]
    exact initialised
  | false =>
  cases repeated : Policy.firstRepeated? [] (policies.map Policy.id) with
  | some policyId =>
    have stopped := @initialise_of_repeated _ ⟨component, policies⟩ idle policyId repeated
    rw [stopped]
    exact stopped
  | none =>
  have first := @initialise_of_distinct _ ⟨component, policies⟩ idle repeated
  have again := @initialise_of_distinct _ ⟨component, policies.map (·.initialise.left)⟩ idle
    (by rw [map_id_initialise, repeated])
  have settled : (policies.map (·.initialise.left)).map (·.initialise.left) = policies.map (·.initialise.left) := by
    rw [List.map_map]
    exact List.map_congr_left fun policy _ => congrArg Attempt.left policy.initialise_again
  rw [refusals_initialised, settled] at again
  rw [first]
  split at again
  next accepted =>
    rw [if_pos accepted]
    exact @Component.leaf_again _ component (.ok ()) ({ component := ·, policies := policies.map (·.initialise.left) })
      initialise (fun _ initialised => initialise_of_initialised initialised) again
  next refused =>
    rw [if_neg refused]
    exact again

end Engine

theorem Part.initialise_again (part : Part) : part.initialise.left.initialise = part.initialise := by
  cases part with
  | rule tree => exact congrArg (Attempt.map Part.rule) (AttributeRelease.initialise_again.1 tree)
  | matcher tree => exact congrArg (Attempt.map Part.matcher) (AttributeRelease.initialise_again.2 tree)
  | attributeRule binding => exact congrArg (Attempt.map Part.attributeRule) binding.initialise_again
  | policy group => exact congrArg (Attempt.map Part.policy) group.initialise_again
  | engine whole => exact congrArg (Attempt.map Part.engine) whole.initialise_again

/-- Initialising a part again right away has the result of the first time and leaves the part as that left it, also
if it stopped half-way. (What evaluators answer to a check depends on the expression alone.) An engine compares the ids
of its policies before it touches any of them. Then it initialises every one, whatever becomes of the others, and tells
which ones failed and why. The others are initialised, and have been checked unless they were initialised before. -/
theorem initialisation_settles :
    (∀ part : Part, part.initialise.left.initialise = part.initialise) ∧
    ∀ engine : Engine, engine.component.isInitialised = false →
      (¬ (engine.policies.map Policy.id).Nodup →
        ∃ before policy after, engine.policies = before ++ policy :: after ∧ (before.map Policy.id).Nodup ∧
          policy.id ∈ before.map Policy.id ∧
          engine.initialise = .fail engine (.duplicatePolicy policy.id engine.id)) ∧
      ((engine.policies.map Policy.id).Nodup →
        engine.initialise.left.policies = engine.policies.map (·.initialise.left) ∧
        (∀ policy ∈ engine.policies, policy.initialise.error? = none →
          policy.initialise.left.component.isInitialised = true) ∧
        (∀ policy ∈ engine.policies, policy.component.isInitialised = false → policy.activation.Sound →
          (∀ rule ∈ policy.rules, rule.matcher.Sound) → policy.initialise.error? = none →
            policy.initialise.left.Checked) ∧
        (engine.refusals ≠ [] → engine.initialise.error? = some (.invalidPolicies engine.refusals) ∧
          engine.initialise.left.component = engine.component) ∧
        (engine.refusals = [] → engine.initialise.error? =
          if engine.component.phase = .destroyed then some (.destroyed engine.id) else none)) := by
  refine ⟨Part.initialise_again, fun engine idle => ⟨fun repeated => ?repeated, fun distinct => ?distinct⟩⟩
  case repeated =>
    rw [← Policy.firstRepeated?_eq_none_iff, ← ne_eq, Option.ne_none_iff_exists'] at repeated
    obtain ⟨policyId, repeated⟩ := repeated
    obtain ⟨_, _, ids, apart, member⟩ := Policy.firstRepeated?_eq_some_iff.mp repeated
    obtain ⟨before, rest, split, rfl, others⟩ := List.map_eq_append_iff.mp ids
    obtain ⟨policy, after, rfl, rfl, _⟩ := List.map_eq_cons_iff.mp others
    exact ⟨before, policy, after, split, apart, member, Engine.initialise_of_repeated idle repeated⟩
  case distinct =>
    rw [Engine.initialise_of_distinct idle (Policy.firstRepeated?_eq_none_iff.mpr distinct)]
    refine ⟨?_, fun policy _ => Policy.isInitialised_of_finished, fun policy _ unused activation matchers => ?_,
      fun refused => ?_, fun accepted => ?_⟩
    · split
      · obtain ⟨_, left, _⟩ := engine.component.attempt_keeps _
        rw [left]
      · rfl
    · exact (Policy.initialise_ensures (.of_idle unused activation matchers)).finished
    · rw [if_neg (by rwa [List.isEmpty_iff])]
      exact ⟨rfl, rfl⟩
    · rw [if_pos (List.isEmpty_iff.mpr accepted), Engine.id]
      generalize engine.component = component
      obtain ⟨id, phase⟩ := component
      cases phase <;> rfl

end

attribute [local instance] Regex.language

/-- Of three policies, the second has a part without children behind one that is in order, and the third has a rule
without an attribute. -/
private def clinic : Engine :=
  let wards (id : String) (activation : Rule) (attributeId : String) : Policy :=
    .named id activation [{ attributeId, matcher := .ofCondition .any }]
  .named "clinic" [wards "open" .always "mail", wards "half" (.allOf [.always, .anyOf []]) "mail",
    wards "nameless" .always ""]

/-- The first policy is initialised, and a second run stops where the first one stopped. With each policy twice,
nothing is initialised. -/
theorem initialisation_settles_clinic :
    let twice : Engine := .named "twice" (clinic.policies ++ clinic.policies)
    (Part.engine clinic).initialise.left.initialise = (Part.engine clinic).initialise ∧
      clinic.initialise.error? = some (.invalidPolicies [("half", .emptyComposition "or"),
        ("nameless", .missing (.attributeIdOfRule "nameless/rules[0]"))]) ∧
      clinic.initialise.left.policies.map (·.component.phase) = [.initialised, .uninitialised, .uninitialised] ∧
      ∃ policy ∈ clinic.policies, twice.initialise = .fail twice (.duplicatePolicy policy.id "twice") := by
  intro twice
  obtain ⟨again, engines⟩ := initialisation_settles
  obtain ⟨left, _, _, refused, _⟩ := (engines clinic rfl).2 (by decide)
  have refusals : clinic.refusals = [("half", .emptyComposition "or"),
      ("nameless", .missing (.attributeIdOfRule "nameless/rules[0]"))] := rfl
  obtain ⟨before, policy, after, split, _, _, failed⟩ := (engines twice rfl).1 (by decide)
  have member : policy ∈ twice.policies := split ▸ List.mem_append_cons_self
  refine ⟨again _, ?_, ?_, policy, (List.mem_append.mp member).elim id id, failed⟩
  · rw [← refusals]
    exact (refused (by simp [refusals])).1
  · rw [left]
    rfl

end AttributeRelease
