import AttributeRelease.Proofs.Initialisation
import AttributeRelease.Regex.Language

/-! All that operations can make of rules, matchers, policies and engines, in whatever order they
are called. An initialised policy has been checked, as long as no rules were put into it later: the
operation that takes rules at the end does not look at the phase of life. -/

namespace AttributeRelease

theorem Component.idle_of_mutable {component : Component} (mutable : component.ensureMutable = .ok ()) :
    component.isInitialised = false :=
  idle_of_fresh ((ensureMutable_isOk_iff component).mp mutable)

section

variable [PatternLanguage]

mutual
/-- Rules that operations lead to. A clone is the same rule, so that cloning leads nowhere else. -/
inductive Rule.Reached : Rule → Prop where
  | leaf (leaf : RuleLeaf) : Rule.Reached (.ofLeaf leaf)
  | allOf {children : List Rule} (parts : ∀ child ∈ children, Rule.Reached child) : Rule.Reached (.allOf children)
  | anyOf {children : List Rule} (parts : ∀ child ∈ children, Rule.Reached child) : Rule.Reached (.anyOf children)
  | negation {child : Rule} (part : Rule.Reached child) : Rule.Reached (.negation child)
  | ofMatcher (attributeId : String) {matcher : Matcher} (part : Matcher.Reached matcher) :
      Rule.Reached (.ofMatcher attributeId matcher)
  | withId (id : String) {rule : Rule} (before : Rule.Reached rule) : Rule.Reached (rule.withId id)
  | addChild {rule child : Rule} (before : Rule.Reached rule) (part : Rule.Reached child) :
      Rule.Reached (rule.addChild child).left
  | initialise {rule : Rule} (before : Rule.Reached rule) : Rule.Reached rule.initialise.left
  | destroy {rule : Rule} (before : Rule.Reached rule) : Rule.Reached rule.destroy

inductive Matcher.Reached : Matcher → Prop where
  | leaf (leaf : MatcherLeaf) : Matcher.Reached (.ofLeaf leaf)
  | ofRule {rule : Rule} (part : Rule.Reached rule) : Matcher.Reached (.ofRule rule)
  | allOf {children : List Matcher} (parts : ∀ child ∈ children, Matcher.Reached child) :
      Matcher.Reached (.allOf children)
  | anyOf {children : List Matcher} (parts : ∀ child ∈ children, Matcher.Reached child) :
      Matcher.Reached (.anyOf children)
  | negation {child : Matcher} (part : Matcher.Reached child) : Matcher.Reached (.negation child)
  | withId (id : String) {matcher : Matcher} (before : Matcher.Reached matcher) : Matcher.Reached (matcher.withId id)
  | addChild {matcher child : Matcher} (before : Matcher.Reached matcher) (part : Matcher.Reached child) :
      Matcher.Reached (matcher.addChild child).left
  | initialise {matcher : Matcher} (before : Matcher.Reached matcher) : Matcher.Reached matcher.initialise.left
  | destroy {matcher : Matcher} (before : Matcher.Reached matcher) : Matcher.Reached matcher.destroy
end

inductive AttributeRule.Reached : AttributeRule → Prop where
  | binding (attributeId : String) (effect : Effect) {matcher : Matcher} (part : matcher.Reached) :
      Reached { attributeId, effect, matcher }
  | withId (id : String) {rule : AttributeRule} (before : rule.Reached) : Reached { rule with givenId := some id }
  | initialise {rule : AttributeRule} (before : rule.Reached) : Reached rule.initialise.left
  | destroy {rule : AttributeRule} (before : rule.Reached) : Reached rule.destroy

/-- Policies that operations lead to. Rules may be put into an initialised policy only if `late`
says so. -/
inductive Policy.Reached (late : Bool) : Policy → Prop where
  | named (id : String) {activation : Rule} (part : activation.Reached) : Reached late (.named id activation)
  | withRules {policy : Policy} {rules : List AttributeRule} (before : policy.Reached late)
      (parts : ∀ rule ∈ rules, rule.Reached) (allowed : policy.component.isInitialised = true → late = true) :
      Reached late (policy.withRules rules)
  | addRule {policy : Policy} {rule : AttributeRule} (before : policy.Reached late) (part : rule.Reached) :
      Reached late (policy.addRule rule).left
  | initialise {policy : Policy} (before : policy.Reached late) : Reached late policy.initialise.left
  | destroy {policy : Policy} (before : policy.Reached late) : Reached late policy.destroy

inductive Engine.Reached (late : Bool) : Engine → Prop where
  | named (id : String) {policies : List Policy} (parts : ∀ policy ∈ policies, policy.Reached late) :
      Reached late (.named id policies)
  | addPolicy {engine : Engine} {policy : Policy} (before : engine.Reached late) (part : policy.Reached late) :
      Reached late (engine.addPolicy policy).left
  | initialise {engine : Engine} (before : engine.Reached late) : Reached late engine.initialise.left
  | destroy {engine : Engine} (before : engine.Reached late) : Reached late engine.destroy

theorem destroyRules_eq (rules : List Rule) : destroyRules rules = rules.map Rule.destroy := by
  induction rules with
  | nil => rfl
  | cons rule rest ih => rw [destroyRules, ih, List.map_cons]

theorem destroyMatchers_eq (matchers : List Matcher) : destroyMatchers matchers = matchers.map Matcher.destroy := by
  induction matchers with
  | nil => rfl
  | cons matcher rest ih => rw [destroyMatchers, ih, List.map_cons]

theorem destroy_sound : (∀ rule : Rule, rule.destroy.Sound) ∧ ∀ matcher : Matcher, matcher.destroy.Sound := by
  have gone {component : Component} {fact : Prop} (initialised : component.destroy.isInitialised = true) : fact :=
    nomatch initialised
  refine tree_induction _ _ ?ruleAtom ?ruleAnd ?ruleOr ?ruleNot ?attributeMatches ?matcherAtom ?fromRule ?matcherAnd
    ?matcherOr ?matcherNot
  case ruleAtom | matcherAtom => exact fun _ _ => trivial
  case ruleAnd | ruleOr =>
    intro component children ih
    exact ⟨gone, soundRules_iff.mpr (destroyRules_eq children ▸ List.forall_mem_map.mpr ih)⟩
  case matcherAnd | matcherOr =>
    intro component children ih
    exact ⟨gone, soundMatchers_iff.mpr (destroyMatchers_eq children ▸ List.forall_mem_map.mpr ih)⟩
  case ruleNot | fromRule | matcherNot => exact fun _ _ ih => ⟨gone, ih⟩
  case attributeMatches => exact fun _ _ _ ih => ⟨gone, ih⟩

theorem Rule.withId_id (rule : Rule) : rule.withId rule.id = rule := by
  cases rule <;> rfl

theorem Matcher.withId_id (matcher : Matcher) : matcher.withId matcher.id = matcher := by
  cases matcher <;> rfl

theorem Rule.Sound.withId {rule : Rule} (sound : rule.Sound) (id : String) : (rule.withId id).Sound := by
  cases rule <;> exact sound

theorem Matcher.Sound.withId {matcher : Matcher} (sound : matcher.Sound) (id : String) : (matcher.withId id).Sound := by
  cases matcher <;> exact sound

theorem Rule.Sound.addChild {rule child : Rule} (sound : rule.Sound) (part : child.Sound) :
    (rule.addChild child).left.Sound := by
  have together {children : List Rule} (sounds : SoundRules children) : SoundRules (children ++ [child]) :=
    soundRules_iff.mpr (List.forall_mem_append.mpr ⟨soundRules_iff.mp sounds, List.forall_mem_singleton.mpr part⟩)
  unfold Rule.addChild
  cases mutable : rule.component.ensureMutable with
  | error error => exact sound
  | ok done =>
    have idle := Component.idle_of_mutable mutable
    cases rule with
    | and component children | or component children =>
      exact ⟨fun initialised => absurd initialised (Bool.eq_false_iff.mp idle), together sound.2⟩
    | atom | not | attributeMatches => exact sound

theorem Matcher.Sound.addChild {matcher child : Matcher} (sound : matcher.Sound) (part : child.Sound) :
    (matcher.addChild child).left.Sound := by
  have together {children : List Matcher} (sounds : SoundMatchers children) : SoundMatchers (children ++ [child]) :=
    soundMatchers_iff.mpr (List.forall_mem_append.mpr ⟨soundMatchers_iff.mp sounds, List.forall_mem_singleton.mpr part⟩)
  unfold Matcher.addChild
  cases mutable : matcher.component.ensureMutable with
  | error error => exact sound
  | ok done =>
    have idle := Component.idle_of_mutable mutable
    cases matcher with
    | and component children | or component children =>
      exact ⟨fun initialised => absurd initialised (Bool.eq_false_iff.mp idle), together sound.2⟩
    | atom | not | fromRule => exact sound

theorem Policy.addRule_cases (policy : Policy) (rule : AttributeRule) :
    (policy.component.ensureMutable = .ok () ∧ policy.addRule rule = .ok (policy.withRules [rule])) ∨
      ∃ error, policy.component.ensureMutable = .error error ∧ policy.addRule rule = .fail policy error := by
  rw [addRule]
  cases policy.component.ensureMutable with
  | error error => exact Or.inr ⟨error, rfl, rfl⟩
  | ok done => exact Or.inl ⟨rfl, rfl⟩

mutual
theorem Rule.Reached.sound {rule : Rule} (reached : rule.Reached) : rule.Sound :=
  match reached with
  | .leaf _ => trivial
  | .allOf parts | .anyOf parts => ⟨nofun, soundRules_iff.mpr fun child member => (parts child member).sound⟩
  | .negation part => ⟨nofun, part.sound⟩
  | .ofMatcher _ part => ⟨nofun, part.sound⟩
  | .withId id before => before.sound.withId id
  | .addChild before part => before.sound.addChild part.sound
  | .initialise before => (initialise_ensures.1 _ before.sound).left
  | .destroy _ => destroy_sound.1 _

theorem Matcher.Reached.sound {matcher : Matcher} (reached : matcher.Reached) : matcher.Sound :=
  match reached with
  | .leaf _ => trivial
  | .ofRule part => ⟨nofun, part.sound⟩
  | .allOf parts | .anyOf parts => ⟨nofun, soundMatchers_iff.mpr fun child member => (parts child member).sound⟩
  | .negation part => ⟨nofun, part.sound⟩
  | .withId id before => before.sound.withId id
  | .addChild before part => before.sound.addChild part.sound
  | .initialise before => (initialise_ensures.2 _ before.sound).left
  | .destroy _ => destroy_sound.2 _
end

theorem AttributeRule.Reached.sound {rule : AttributeRule} (reached : rule.Reached) : rule.matcher.Sound := by
  induction reached with
  | binding attributeId effect part => exact part.sound
  | withId id before ih => exact ih
  | initialise before ih => exact (AttributeRule.initialise_ensures ih).left
  | destroy before ih => exact destroy_sound.2 _

theorem Policy.destroy_sound (policy : Policy) : policy.destroy.Sound :=
  .of_idle rfl (AttributeRelease.destroy_sound.1 _)
    (List.forall_mem_map.mpr fun rule _ => AttributeRelease.destroy_sound.2 rule.matcher)

theorem Policy.Reached.trees {late : Bool} {policy : Policy} (reached : policy.Reached late) :
    policy.activation.Sound ∧ ∀ rule ∈ policy.rules, rule.matcher.Sound := by
  induction reached with
  | named id part => exact ⟨part.sound, nofun⟩
  | withRules before parts allowed ih =>
    exact ⟨ih.1, List.forall_mem_append.mpr ⟨ih.2, fun rule member => (parts rule member).sound⟩⟩
  | @addRule policy rule before part ih =>
    rcases policy.addRule_cases rule with ⟨_, added⟩ | ⟨_, _, refused⟩
    · rw [added]
      exact ⟨ih.1, List.forall_mem_append.mpr ⟨ih.2, List.forall_mem_singleton.mpr part.sound⟩⟩
    · rwa [refused]
  | @initialise policy before ih =>
    cases phase : policy.component.isInitialised with
    | true => rwa [initialise_of_initialised phase]
    | false =>
      have sound := (initialise_ensures (.of_idle phase ih.1 ih.2)).left
      exact ⟨sound.activation, sound.matchers⟩
  | @destroy policy before ih => exact ⟨policy.destroy_sound.activation, policy.destroy_sound.matchers⟩

/-- A policy that gets no rules after its initialisation has been checked once it is initialised. -/
theorem Policy.Reached.sound {policy : Policy} (reached : policy.Reached false) : policy.Sound := by
  refine ⟨reached.trees.1, reached.trees.2, ?_⟩
  induction reached with
  | named id part => exact nofun
  -- Rules that came late would not have been checked. This is the only place where that matters.
  | withRules before parts allowed ih => exact fun initialised => absurd (allowed initialised) Bool.false_ne_true
  | @addRule policy rule before part ih =>
    rcases policy.addRule_cases rule with ⟨mutable, added⟩ | ⟨_, _, refused⟩
    · rw [added]
      exact fun initialised => absurd initialised (Bool.eq_false_iff.mp (Component.idle_of_mutable mutable))
    · rwa [refused]
  | initialise before ih => exact (initialise_ensures ⟨before.trees.1, before.trees.2, ih⟩).left.checked
  | destroy before ih => exact nofun

theorem Engine.Reached.sound {engine : Engine} (reached : engine.Reached false) : engine.Sound := by
  induction reached with
  | named id parts => exact .of_idle rfl fun policy member => (parts policy member).sound
  | @addPolicy engine policy before part ih =>
    rw [Engine.addPolicy]
    cases mutable : engine.component.ensureMutable with
    | error error => exact ih
    | ok done =>
      have together := List.forall_mem_append.mpr ⟨ih.policies, List.forall_mem_singleton.mpr part.sound⟩
      exact .of_idle (Component.idle_of_mutable mutable) together
  | initialise before ih => exact (Engine.initialise_ensures ih).left
  | destroy before ih => exact .of_idle rfl (List.forall_mem_map.mpr fun policy _ => policy.destroy_sound)

/-- Rules that are put into a checked policy belong there if they pass the same checks. -/
theorem Policy.checked_withRules_iff {policy : Policy} (checked : policy.Checked) {rules : List AttributeRule} :
    (policy.withRules rules).Checked ↔
      (∀ rule ∈ rules, rule.validate = .ok () ∧ Text.isBlank rule.attributeId = false) ∧
        ((policy.rules ++ rules).map AttributeRule.id).Nodup := by
  obtain ⟨usable, activation, given⟩ := validate_isOk_iff.mp checked.valid
  constructor
  · rintro ⟨valid, attributeIds, ruleIds⟩
    obtain ⟨_, _, all⟩ := validate_isOk_iff.mp valid
    have added {rule : AttributeRule} (member : rule ∈ rules) : rule ∈ policy.rules ++ rules :=
      List.mem_append_right _ member
    exact ⟨fun rule member => ⟨all rule (added member), attributeIds rule (added member)⟩, ruleIds⟩
  · rintro ⟨ready, ruleIds⟩
    have valid := List.forall_mem_append.mpr ⟨given, fun rule member => (ready rule member).1⟩
    have attributeIds := List.forall_mem_append.mpr ⟨checked.attributeIds, fun rule member => (ready rule member).2⟩
    exact ⟨validate_isOk_iff.mpr ⟨usable, activation, valid⟩, attributeIds, ruleIds⟩

/-- Initialisation checks a policy, and an engine with all of its policies, provided that rules are
put into a policy only before it is initialised. `addRule` makes sure of that. `withRules` does not:
the rules that it puts into an initialised policy are never checked. -/
theorem initialised_are_checked (policy : Policy) (engine : Engine) :
    (policy.Reached false →
      (policy.component.isInitialised = true → policy.Checked) ∧
        ∀ after, policy.initialise.finished = .ok after → after.Checked) ∧
    (engine.Reached false →
      (engine.component.isInitialised = true → engine.Checked) ∧
        ∀ after, engine.initialise.finished = .ok after → after.Checked) ∧
    (policy.Reached true → policy.component.isInitialised = false →
      ∀ after, policy.initialise.finished = .ok after → after.Checked) ∧
    (policy.component.isInitialised = true →
      (∀ rule, policy.addRule rule = .fail policy (.immutable policy.id)) ∧
        ∀ rules, (policy.withRules rules).initialise.finished = .ok (policy.withRules rules) ∧
          (policy.Checked → ((policy.withRules rules).Checked ↔
            (∀ rule ∈ rules, rule.validate = .ok () ∧ Text.isBlank rule.attributeId = false) ∧
              ((policy.rules ++ rules).map AttributeRule.id).Nodup))) := by
  refine ⟨fun reached => ?policies, fun reached => ?engines, fun reached idle after finished => ?idle,
    fun initialised => ?late⟩
  case policies => exact ⟨reached.sound.checked, fun _ => (Policy.initialise_ensures reached.sound).of_finished⟩
  case engines => exact ⟨reached.sound.checked, fun _ => (Engine.initialise_ensures reached.sound).of_finished⟩
  case idle =>
    have sound : policy.Sound := .of_idle idle reached.trees.1 reached.trees.2
    exact (Policy.initialise_ensures sound).of_finished finished
  case late =>
    have phase : policy.component.phase = .initialised := eq_of_beq initialised
    refine ⟨fun rule => ?_, fun rules => ⟨?_, fun checked => Policy.checked_withRules_iff checked⟩⟩
    · rw [Policy.addRule, Component.ensureMutable, phase]
      rfl
    · have started : (policy.withRules rules).component.isInitialised = true := initialised
      rw [Policy.initialise_of_initialised started]
      rfl

end

attribute [local instance] Regex.language

private def staff : Policy := .named "staff" (.fixed .yes) [{ attributeId := "mail", matcher := .ofCondition .any }]

private theorem staff_reached (late : Bool) : staff.Reached late :=
  .withRules (.named "staff" (.leaf _)) (List.forall_mem_singleton.mpr (.binding "mail" .permit (.leaf _))) nofun

theorem initialised_are_checked_staff :
    staff.initialise.left.Checked ∧ (Engine.named "home" [staff]).initialise.left.Checked ∧
      staff.initialise.left.addRule { attributeId := "phone", matcher := .ofCondition .any } =
        .fail staff.initialise.left (.immutable "staff") := by
  have home : (Engine.named "home" [staff]).Reached false :=
    .named "home" (List.forall_mem_singleton.mpr (staff_reached false))
  obtain ⟨policies, engines, idle, _⟩ := initialised_are_checked staff (.named "home" [staff])
  obtain ⟨_, _, _, readOnly⟩ := initialised_are_checked staff.initialise.left (.named "home" [staff])
  exact ⟨idle (staff_reached true) rfl _ rfl, (engines home).2 _ rfl, (readOnly rfl).1 _⟩

private def grown : Policy :=
  staff.initialise.left.withRules [{ attributeId := "phone", matcher := .ofCondition .any }]

/-- Initialising the policy again succeeds and leaves the rule that came late as it is. -/
theorem late_rule_not_checked : grown.Reached true ∧ grown.initialise.finished = .ok grown ∧
    grown.validate = .error (.notInitialised "any") := by
  refine ⟨.withRules (.initialise (staff_reached true)) ?_ fun _ => rfl, rfl, rfl⟩
  exact List.forall_mem_singleton.mpr (.binding "phone" .permit (.leaf _))

end AttributeRelease
