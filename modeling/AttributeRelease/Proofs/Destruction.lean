import AttributeRelease.Engine.Part
import AttributeRelease.Proofs.Admission
import AttributeRelease.Proofs.FilterRun
import AttributeRelease.Proofs.Retries
import AttributeRelease.Regex.Language

/-! Destroying a part destroys everything in it, and no operation brings any of it back. The root of a destroyed tree
is reached last by an initialisation, after its parts; but these are destroyed as well, so that it stops at the first
leaf or empty composition and changes nothing. -/

namespace AttributeRelease

namespace Component

section
variable {component : Component} (destroyed : component.phase = .destroyed)
include destroyed

theorem idle_of_destroyed : component.isInitialised = false := by
  rw [isInitialised, destroyed]
  rfl

theorem ensureUsable_of_destroyed : component.ensureUsable = .error (.destroyed component.id) := by
  rw [ensureUsable, destroyed]

theorem attempt_of_destroyed {α : Type} (build : Component → α) :
    component.attempt build = .fail (build component) (.destroyed component.id) := by
  rw [attempt, initialise, destroyed]

theorem attemptChecked_of_destroyed {α : Type} (checked : Except ConfigError Unit) (build : Component → α) :
    ∃ error, component.attemptChecked checked build = .fail (build component) error := by
  cases checked with
  | error error => exact ⟨error, rfl⟩
  | ok checked => exact ⟨_, attempt_of_destroyed destroyed build⟩

theorem ensureMutable_of_destroyed : component.ensureMutable = .error (.destroyed component.id) := by
  rw [ensureMutable, destroyed]

end

theorem destroy_destroy (component : Component) : component.destroy.destroy = component.destroy := rfl

end Component

section

variable [PatternLanguage]

def Rule.Destroyed (rule : Rule) : Prop := ∀ node ∈ rule.nodes, node.component.phase = .destroyed

def Matcher.Destroyed (matcher : Matcher) : Prop := ∀ node ∈ matcher.nodes, node.component.phase = .destroyed

/-- A destroyed tree cannot be initialised, and the attempt leaves all of it as it is. -/
theorem initialise_of_destroyed :
    (∀ rule : Rule, rule.Destroyed → ∃ error, rule.initialise = .fail rule error) ∧
    ∀ matcher : Matcher, matcher.Destroyed → ∃ error, matcher.initialise = .fail matcher error := by
  have idle (component : Component) (destroyed : component.phase = .destroyed) : ¬ component.isInitialised = true :=
    Bool.eq_false_iff.mp (component.idle_of_destroyed destroyed)
  refine tree_induction _ _ ?ruleAtom ?ruleAnd ?ruleOr ?ruleNot ?attributeMatches ?matcherAtom ?fromRule ?matcherAnd
    ?matcherOr ?matcherNot
  case ruleAtom =>
    intro component leaf destroyed
    obtain ⟨root, _⟩ := List.forall_mem_cons.mp destroyed
    rw [Rule.initialise, if_neg (idle component root)]
    exact Component.attemptChecked_of_destroyed root ..
  case matcherAtom =>
    intro component leaf destroyed
    obtain ⟨root, _⟩ := List.forall_mem_cons.mp destroyed
    rw [Matcher.initialise, if_neg (idle component root)]
    exact Component.attemptChecked_of_destroyed root ..
  case ruleAnd | ruleOr =>
    intro component children ih destroyed
    obtain ⟨root, parts⟩ := List.forall_mem_cons.mp destroyed
    rw [Rule.initialise, if_neg (idle component root)]
    split
    next empty => exact ⟨_, rfl⟩
    next nonempty =>
      obtain ⟨error, failed⟩ := Attempt.each_of_failing (by simpa using nonempty) fun child member =>
        ih child member (forall_mem_nodesOfRules.mp parts child member)
      rw [initialiseRules_eq, failed]
      exact ⟨error, rfl⟩
  case matcherAnd | matcherOr =>
    intro component children ih destroyed
    obtain ⟨root, parts⟩ := List.forall_mem_cons.mp destroyed
    rw [Matcher.initialise, if_neg (idle component root)]
    split
    next empty => exact ⟨_, rfl⟩
    next nonempty =>
      obtain ⟨error, failed⟩ := Attempt.each_of_failing (by simpa using nonempty) fun child member =>
        ih child member (forall_mem_nodesOfMatchers.mp parts child member)
      rw [initialiseMatchers_eq, failed]
      exact ⟨error, rfl⟩
  case ruleNot =>
    intro component child ih destroyed
    obtain ⟨root, parts⟩ := List.forall_mem_cons.mp destroyed
    obtain ⟨error, failed⟩ := ih parts
    rw [Rule.initialise, if_neg (idle component root), failed]
    exact ⟨error, rfl⟩
  case attributeMatches =>
    intro component attributeId matcher ih destroyed
    obtain ⟨root, parts⟩ := List.forall_mem_cons.mp destroyed
    obtain ⟨error, failed⟩ := ih parts
    rw [Rule.initialise, if_neg (idle component root), failed]
    exact ⟨error, rfl⟩
  case fromRule | matcherNot =>
    intro component part ih destroyed
    obtain ⟨root, parts⟩ := List.forall_mem_cons.mp destroyed
    obtain ⟨error, failed⟩ := ih parts
    rw [Matcher.initialise, if_neg (idle component root), failed]
    exact ⟨error, rfl⟩

theorem destroy_destroy :
    (∀ rule : Rule, rule.destroy.destroy = rule.destroy) ∧
    ∀ matcher : Matcher, matcher.destroy.destroy = matcher.destroy := by
  refine tree_induction _ _ ?ruleAtom ?ruleAnd ?ruleOr ?ruleNot ?attributeMatches ?matcherAtom ?fromRule ?matcherAnd
    ?matcherOr ?matcherNot
  case ruleAtom | matcherAtom => exact fun _ _ => rfl
  case ruleAnd | ruleOr =>
    intro component children ih
    have parts : children.map (Rule.destroy ∘ Rule.destroy) = children.map Rule.destroy := List.map_congr_left ih
    rw [Rule.destroy, Rule.destroy, destroyRules_eq, destroyRules_eq, List.map_map, parts, Component.destroy_destroy]
  case matcherAnd | matcherOr =>
    intro component children ih
    have parts : children.map (Matcher.destroy ∘ Matcher.destroy) = children.map Matcher.destroy :=
      List.map_congr_left ih
    rw [Matcher.destroy, Matcher.destroy, destroyMatchers_eq, destroyMatchers_eq, List.map_map, parts,
      Component.destroy_destroy]
  case ruleNot =>
    intro component child ih
    rw [Rule.destroy, Rule.destroy, ih, Component.destroy_destroy]
  case attributeMatches =>
    intro component attributeId matcher ih
    rw [Rule.destroy, Rule.destroy, ih, Component.destroy_destroy]
  case fromRule | matcherNot =>
    intro component part ih
    rw [Matcher.destroy, Matcher.destroy, ih, Component.destroy_destroy]

namespace Node

def destroy : Node → Node
  | .rule tree => .rule tree.destroy
  | .matcher tree => .matcher tree.destroy

/-- Everything in a tree that is initialised and destroyed. -/
def components (node : Node) : List Component := node.nodes.map component

theorem destroy_destroy (node : Node) : node.destroy.destroy = node.destroy := by
  cases node with
  | rule tree => exact congrArg rule (AttributeRelease.destroy_destroy.1 tree)
  | matcher tree => exact congrArg matcher (AttributeRelease.destroy_destroy.2 tree)

theorem components_eq_cons (node : Node) : node.components = node.component :: node.components.tail := by
  cases node with
  | rule tree => cases tree <;> rfl
  | matcher tree => cases tree <;> rfl

theorem components_destroy (node : Node) : node.destroy.components = node.components.map Component.destroy := by
  cases node with
  | rule tree => exact AttributeRelease.components_destroy.1 tree
  | matcher tree => exact AttributeRelease.components_destroy.2 tree

theorem validate_iff_components (node : Node) :
    node.validate = .ok () ↔ ∀ component ∈ node.components, component.phase = .initialised := by
  rw [validate_iff, components, List.forall_mem_map]

end Node

namespace Rule

theorem components_withId (rule : Rule) (id : String) : (Node.rule (rule.withId id)).components =
    ⟨id, rule.component.phase⟩ :: (Node.rule rule).components.tail := by
  cases rule <;> rfl

theorem withId_withId (rule : Rule) (first second : String) : (rule.withId first).withId second = rule.withId second := by
  cases rule <;> rfl

theorem destroy_withId (rule : Rule) (id : String) : (rule.withId id).destroy = rule.destroy.withId id := by
  cases rule <;> rfl

theorem Destroyed.withId {rule : Rule} (destroyed : rule.Destroyed) (id : String) : (rule.withId id).Destroyed := by
  cases rule <;> exact List.forall_mem_cons.mpr (List.forall_mem_cons.mp destroyed)

theorem Destroyed.root {rule : Rule} (destroyed : rule.Destroyed) : rule.component.phase = .destroyed :=
  destroyed _ rule.mem_nodes

theorem destroyed_withId (rule : Rule) (id : String) : (rule.destroy.withId id).Destroyed :=
  Destroyed.withId (phase_destroy.1 rule) id

theorem addChild_of_destroyed {rule : Rule} (destroyed : rule.Destroyed) (child : Rule) :
    rule.addChild child = .fail rule (.destroyed rule.id) := by
  unfold addChild
  rw [Component.ensureMutable_of_destroyed destroyed.root]
  rfl

end Rule

namespace Matcher

theorem components_withId (matcher : Matcher) (id : String) : (Node.matcher (matcher.withId id)).components =
    ⟨id, matcher.component.phase⟩ :: (Node.matcher matcher).components.tail := by
  cases matcher <;> rfl

theorem withId_withId (matcher : Matcher) (first second : String) :
    (matcher.withId first).withId second = matcher.withId second := by
  cases matcher <;> rfl

theorem destroy_withId (matcher : Matcher) (id : String) : (matcher.withId id).destroy = matcher.destroy.withId id := by
  cases matcher <;> rfl

theorem Destroyed.withId {matcher : Matcher} (destroyed : matcher.Destroyed) (id : String) :
    (matcher.withId id).Destroyed := by
  cases matcher <;> exact List.forall_mem_cons.mpr (List.forall_mem_cons.mp destroyed)

theorem Destroyed.root {matcher : Matcher} (destroyed : matcher.Destroyed) : matcher.component.phase = .destroyed :=
  destroyed _ matcher.mem_nodes

theorem destroyed_withId (matcher : Matcher) (id : String) : (matcher.destroy.withId id).Destroyed :=
  Destroyed.withId (phase_destroy.2 matcher) id

theorem addChild_of_destroyed {matcher : Matcher} (destroyed : matcher.Destroyed) (child : Matcher) :
    matcher.addChild child = .fail matcher (.destroyed matcher.id) := by
  unfold addChild
  rw [Component.ensureMutable_of_destroyed destroyed.root]
  rfl

end Matcher

namespace Policy

def trees (policy : Policy) : List Node := .rule policy.activation :: policy.rules.map fun rule => .matcher rule.matcher

/-- All of a policy except for the names of its rules and what they are for. -/
def body (policy : Policy) : Component × List Node := (policy.component, policy.trees)

theorem components_eq (policy : Policy) :
    policy.components = policy.component :: policy.trees.flatMap Node.components := by
  rw [components, nodes, trees, List.map_append, List.map_flatMap, List.flatMap_cons, List.flatMap_map]
  rfl

theorem trees_destroy (policy : Policy) : policy.destroy.trees = policy.trees.map Node.destroy := by
  rw [destroy, trees, trees, List.map_cons, List.map_map, List.map_map]
  rfl

theorem components_destroy (policy : Policy) : policy.destroy.components = policy.components.map Component.destroy := by
  rw [components_eq, components_eq, trees_destroy, List.map_cons, List.flatMap_map, List.map_flatMap]
  have parts := List.map_congr_left fun tree (_ : tree ∈ policy.trees) => tree.components_destroy
  exact congrArg (fun components => policy.component.destroy :: components.flatten) parts

theorem body_eq_of_matchers {policy : Policy} {rules : List AttributeRule}
    (same : rules.map AttributeRule.matcher = policy.rules.map AttributeRule.matcher) :
    body { policy with rules } = policy.body := by
  have trees := congrArg (List.map Node.matcher) same
  rw [List.map_map, List.map_map] at trees
  exact congrArg (fun matchers => (policy.component, Node.rule policy.activation :: matchers)) trees

theorem trees_destroy_destroy (policy : Policy) : policy.destroy.destroy.trees = policy.destroy.trees := by
  rw [trees_destroy, trees_destroy, List.map_map]
  exact List.map_congr_left fun tree _ => tree.destroy_destroy

theorem body_destroy (policy : Policy) :
    policy.destroy.body = policy.body.map Component.destroy (List.map Node.destroy) :=
  congrArg (policy.component.destroy, ·) policy.trees_destroy

theorem body_destroy_destroy (policy : Policy) : policy.destroy.destroy.body = policy.destroy.body :=
  congrArg (policy.component.destroy, ·) policy.trees_destroy_destroy

/-- The policy and its activation rule are destroyed. Its rules need not be: some may have been added later. -/
structure Destroyed (policy : Policy) : Prop where
  component : policy.component.phase = .destroyed
  activation : policy.activation.Destroyed

theorem Destroyed.of_trees {policy after : Policy} (component : after.component = policy.destroy.component)
    (trees : policy.destroy.trees <+: after.trees) : after.Destroyed := by
  obtain ⟨activation, _⟩ := List.cons_prefix_cons.mp trees
  exact ⟨component ▸ rfl, Node.rule.inj activation ▸ phase_destroy.1 policy.activation⟩

theorem initialise_of_destroyed {policy : Policy} (destroyed : policy.Destroyed) :
    ∃ rules error, policy.initialise = .fail { policy with rules } error ∧
      rules.map AttributeRule.matcher = policy.rules.map AttributeRule.matcher := by
  obtain ⟨component, activation, rules⟩ := policy
  have idle := Component.idle_of_destroyed destroyed.component
  cases filled : Text.isBlank component.id with
  | true => exact ⟨rules, _, initialise_of_blank idle filled .., rfl⟩
  | false =>
    have names := matchers_nameRules component.id 0 rules
    rw [initialise_of_filled idle filled]
    split
    · exact ⟨_, _, rfl, names⟩
    · obtain ⟨error, failed⟩ := AttributeRelease.initialise_of_destroyed.1 activation destroyed.activation
      rw [initialiseParts, failed]
      exact ⟨_, error, rfl, names⟩

end Policy

namespace Engine

theorem components_destroy (engine : Engine) : engine.destroy.components = engine.components.map Component.destroy := by
  rw [components, components, List.map_cons, List.map_flatMap, destroy, List.flatMap_map]
  have parts := List.map_congr_left fun policy (_ : policy ∈ engine.policies) => policy.components_destroy
  exact congrArg (fun components => engine.component.destroy :: components.flatten) parts

theorem components_eq (engine : Engine) : engine.components =
    engine.component :: (engine.policies.map Policy.body).flatMap fun body => body.1 :: body.2.flatMap Node.components := by
  rw [components, List.flatMap_map]
  have parts := List.map_congr_left fun policy (_ : policy ∈ engine.policies) => policy.components_eq
  exact congrArg (fun components => engine.component :: components.flatten) parts

theorem bodies_destroy (engine : Engine) : engine.destroy.policies.map Policy.body =
    (engine.policies.map Policy.body).map (Prod.map Component.destroy (List.map Node.destroy)) := by
  rw [destroy, List.map_map, List.map_map]
  exact List.map_congr_left fun policy _ => policy.body_destroy

theorem bodies_destroy_destroy (engine : Engine) :
    engine.destroy.destroy.policies.map Policy.body = engine.destroy.policies.map Policy.body := by
  rw [destroy, destroy, List.map_map, List.map_map, List.map_map]
  exact List.map_congr_left fun policy _ => policy.body_destroy_destroy

theorem destroyed_of_bodies {engine after : Engine}
    (bodies : after.policies.map Policy.body = engine.destroy.policies.map Policy.body) :
    ∀ policy ∈ after.policies, policy.Destroyed := by
  intro policy member
  have present := List.mem_map_of_mem (f := Policy.body) member
  rw [bodies, destroy, List.map_map] at present
  obtain ⟨before, _, same⟩ := List.mem_map.mp present
  obtain ⟨component, trees⟩ := Prod.mk.inj same
  exact .of_trees component.symm (trees ▸ List.prefix_refl _)

theorem initialise_of_destroyed {engine : Engine} (destroyed : engine.component.phase = .destroyed)
    (policies : ∀ policy ∈ engine.policies, policy.Destroyed) :
    ∃ policies error, engine.initialise = .fail { engine with policies } error ∧
      policies.map Policy.body = engine.policies.map Policy.body := by
  have idle := Component.idle_of_destroyed destroyed
  have bodies : (engine.policies.map (·.initialise.left)).map Policy.body = engine.policies.map Policy.body := by
    rw [List.map_map]
    refine List.map_congr_left fun policy member => ?_
    obtain ⟨rules, error, failed, same⟩ := Policy.initialise_of_destroyed (policies policy member)
    exact (congrArg (·.left.body) failed).trans (Policy.body_eq_of_matchers same)
  cases repeated : Policy.firstRepeated? [] (engine.policies.map Policy.id) with
  | some policyId => exact ⟨engine.policies, _, initialise_of_repeated idle repeated, rfl⟩
  | none =>
    rw [initialise_of_distinct idle repeated]
    split
    · exact ⟨_, _, Component.attempt_of_destroyed destroyed _, bodies⟩
    · exact ⟨_, _, rfl, bodies⟩

end Engine

/-- What can be asked of a part. -/
inductive Operation where
  | initialise
  | destroy
  | clone
  | withId (id : String)
  | addChild (child : Node)
  | addRule (rule : AttributeRule)
  | withRules (rules : List AttributeRule)
  | addPolicy (policy : Policy)

namespace Part

/-- What an operation makes of a part. If parts of this kind do not have it, that is the part itself, and so it is for
a clone. -/
def undergo : Part → Operation → Part
  | part, .initialise => part.initialise.left
  | part, .destroy => part.destroy
  | part, .clone => part
  | part, .withId id => (part.withId? id).getD part
  | .rule tree, .addChild (.rule child) => .rule (tree.addChild child).left
  | .matcher tree, .addChild (.matcher child) => .matcher (tree.addChild child).left
  | .policy group, .addRule added => .policy (group.addRule added).left
  | .policy group, .withRules added => .policy (group.withRules added)
  | .engine whole, .addPolicy added => .engine (whole.addPolicy added).left
  | part, _ => part

def component : Part → Component
  | .rule tree => tree.component
  | .matcher tree => tree.component
  | .attributeRule binding => binding.matcher.component
  | .policy group => group.component
  | .engine whole => whole.component

/-- Everything in a part that is initialised and destroyed, its own component first. -/
def components : Part → List Component
  | .rule tree => (Node.rule tree).components
  | .matcher tree => (Node.matcher tree).components
  | .attributeRule binding => (Node.matcher binding.matcher).components
  | .policy group => group.components
  | .engine whole => whole.components

theorem components_eq_cons (part : Part) : part.components = part.component :: part.components.tail := by
  cases part with
  | rule tree => exact (Node.rule tree).components_eq_cons
  | matcher tree => exact (Node.matcher tree).components_eq_cons
  | attributeRule binding => exact (Node.matcher binding.matcher).components_eq_cons
  | policy group => rfl
  | engine whole => rfl

/-- A part that decides, selects and releases nothing, whatever it is asked. -/
def Useless : Part → Prop
  | .rule tree => ∀ request, tree.evaluate request = .undecided
  | .matcher tree => ∀ request attr, tree.select request attr = .error (.configuration (.destroyed tree.id))
  | .attributeRule binding => ∀ request, request.attribute? binding.attributeId ≠ none →
    binding.apply request = .error (.configuration (.destroyed binding.matcher.id))
  | .policy _ => True
  | .engine whole => ∀ context, whole.filter context = (.error (.configuration (.destroyed whole.id)), context)

/-- What may have become of a part that was destroyed: trees can have got another id, and policies other rules behind
their own. -/
inductive Remains : Part → Part → Prop where
  | rule (tree : Rule) (id : String) : Remains (.rule tree) (.rule (tree.destroy.withId id))
  | matcher (tree : Matcher) (id : String) : Remains (.matcher tree) (.matcher (tree.destroy.withId id))
  | attributeRule (binding : AttributeRule) (givenId : Option String) :
      Remains (.attributeRule binding) (.attributeRule { binding.destroy with givenId })
  | policy {group after : Policy} (component : after.component = group.destroy.component)
      (trees : group.destroy.trees <+: after.trees) : Remains (.policy group) (.policy after)
  | engine {whole after : Engine} (component : after.component = whole.destroy.component)
      (bodies : after.policies.map Policy.body = whole.destroy.policies.map Policy.body) :
      Remains (.engine whole) (.engine after)

theorem remains_destroy (part : Part) : part.Remains part.destroy := by
  cases part with
  | rule tree =>
    have remains := Remains.rule tree tree.destroy.id
    rwa [Rule.withId_id] at remains
  | matcher tree =>
    have remains := Remains.matcher tree tree.destroy.id
    rwa [Matcher.withId_id] at remains
  | attributeRule binding => exact .attributeRule binding binding.givenId
  | policy group => exact .policy rfl (List.prefix_refl _)
  | engine whole => exact .engine rfl rfl

theorem Remains.initialise {part after : Part} (remains : part.Remains after) :
    part.Remains after.initialise.left ∧ ∃ error, after.initialise.error? = some error := by
  cases remains with
  | rule tree id =>
    obtain ⟨error, failed⟩ := initialise_of_destroyed.1 _ (tree.destroyed_withId id)
    rw [Part.initialise, failed]
    exact ⟨.rule tree id, error, rfl⟩
  | matcher tree id =>
    obtain ⟨error, failed⟩ := initialise_of_destroyed.2 _ (tree.destroyed_withId id)
    rw [Part.initialise, failed]
    exact ⟨.matcher tree id, error, rfl⟩
  | attributeRule binding givenId =>
    have run : AttributeRule.initialise { binding.destroy with givenId } = if _ then _ else _ := rfl
    rw [Part.initialise, run]
    split
    next blank => exact ⟨.attributeRule binding givenId, _, rfl⟩
    next filled =>
      obtain ⟨error, failed⟩ := initialise_of_destroyed.2 _ (phase_destroy.2 binding.matcher)
      have stopped : (AttributeRule.matcher { binding.destroy with givenId }).initialise = _ := failed
      rw [stopped]
      exact ⟨.attributeRule binding givenId, error, rfl⟩
  | @policy group after component trees =>
    obtain ⟨rules, error, failed, same⟩ := Policy.initialise_of_destroyed (.of_trees component trees)
    have kept : Policy.trees { after with rules } = after.trees :=
      congrArg Prod.snd (Policy.body_eq_of_matchers same)
    rw [Part.initialise, failed]
    exact ⟨.policy component (kept ▸ trees), error, rfl⟩
  | @engine whole after component bodies =>
    obtain ⟨policies, error, failed, same⟩ :=
      Engine.initialise_of_destroyed (congrArg Component.phase component) (Engine.destroyed_of_bodies bodies)
    rw [Part.initialise, failed]
    exact ⟨.engine component (same.trans bodies), error, rfl⟩

theorem Remains.destroy {part after : Part} (remains : part.Remains after) : part.Remains after.destroy := by
  cases remains with
  | rule tree id =>
    rw [Part.destroy, Rule.destroy_withId, destroy_destroy.1]
    exact .rule tree id
  | matcher tree id =>
    rw [Part.destroy, Matcher.destroy_withId, destroy_destroy.2]
    exact .matcher tree id
  | attributeRule binding givenId =>
    rw [Part.destroy, AttributeRule.destroy, AttributeRule.destroy, destroy_destroy.2]
    exact .attributeRule binding givenId
  | @policy group after component trees =>
    have root : after.component.destroy = group.destroy.component.destroy := congrArg Component.destroy component
    refine .policy root ?_
    rw [← group.trees_destroy_destroy, Policy.trees_destroy, Policy.trees_destroy after]
    exact trees.map Node.destroy
  | @engine whole after component bodies =>
    have root : after.component.destroy = whole.destroy.component.destroy := congrArg Component.destroy component
    refine .engine root ?_
    rw [Engine.bodies_destroy, bodies, ← Engine.bodies_destroy, Engine.bodies_destroy_destroy]

/-- No operation brings anything back. -/
theorem Remains.undergo {part after : Part} (remains : part.Remains after) (operation : Operation) :
    part.Remains (after.undergo operation) := by
  have initialised := remains.initialise.1
  have destroyed := remains.destroy
  cases remains with
  | rule tree before =>
    cases operation with
    | initialise => exact initialised
    | destroy => exact destroyed
    | withId id =>
      change (Part.rule tree).Remains (.rule ((tree.destroy.withId before).withId id))
      rw [Rule.withId_withId]
      exact .rule tree id
    | addChild child =>
      cases child with
      | rule child =>
        have refused := Rule.addChild_of_destroyed (tree.destroyed_withId before) child
        rw [Part.undergo, refused]
        exact .rule tree before
      | matcher child => exact .rule tree before
    | clone | addRule | withRules | addPolicy => exact .rule tree before
  | matcher tree before =>
    cases operation with
    | initialise => exact initialised
    | destroy => exact destroyed
    | withId id =>
      change (Part.matcher tree).Remains (.matcher ((tree.destroy.withId before).withId id))
      rw [Matcher.withId_withId]
      exact .matcher tree id
    | addChild child =>
      cases child with
      | rule child => exact .matcher tree before
      | matcher child =>
        have refused := Matcher.addChild_of_destroyed (tree.destroyed_withId before) child
        rw [Part.undergo, refused]
        exact .matcher tree before
    | clone | addRule | withRules | addPolicy => exact .matcher tree before
  | attributeRule binding before =>
    cases operation with
    | initialise => exact initialised
    | destroy => exact destroyed
    | withId id => exact .attributeRule binding (some id)
    | addChild child => cases child <;> exact .attributeRule binding before
    | clone | addRule | withRules | addPolicy => exact .attributeRule binding before
  | @policy group after component trees =>
    cases operation with
    | initialise => exact initialised
    | destroy => exact destroyed
    | addRule added =>
      rw [Part.undergo, Policy.addRule, Component.ensureMutable_of_destroyed (congrArg Component.phase component)]
      exact .policy component trees
    | withRules added =>
      -- The one operation that is not refused: it leaves what was there before in its place.
      have longer : after.trees <+: (after.withRules added).trees := by
        rw [Policy.withRules, Policy.trees, Policy.trees, List.map_append]
        exact List.prefix_append _ _
      exact .policy component (trees.trans longer)
    | addChild child => cases child <;> exact .policy component trees
    | clone | withId | addPolicy => exact .policy component trees
  | @engine whole after component bodies =>
    cases operation with
    | initialise => exact initialised
    | destroy => exact destroyed
    | addPolicy added =>
      rw [Part.undergo, Engine.addPolicy, Component.ensureMutable_of_destroyed (congrArg Component.phase component)]
      exact .engine component bodies
    | addChild child => cases child <;> exact .engine component bodies
    | clone | withId | addRule | withRules => exact .engine component bodies

theorem remains_of_destroyed (part : Part) (operations : List Operation) :
    part.Remains (operations.foldl Part.undergo part.destroy) := by
  suffices run : ∀ after, part.Remains after → part.Remains (operations.foldl Part.undergo after) from
    run part.destroy part.remains_destroy
  induction operations with
  | nil => exact fun _ remains => remains
  | cons operation rest ih => exact fun after remains => ih (after.undergo operation) (remains.undergo operation)

theorem Remains.kindName {part after : Part} (remains : part.Remains after) : after.kindName = part.kindName := by
  cases remains <;> rfl

/-- What was in the part comes first, in its place and destroyed. Nothing else is there, except in a policy. -/
theorem Remains.components {part after : Part} (remains : part.Remains after) :
    ∃ id added, after.components = ⟨id, .destroyed⟩ :: part.components.tail.map Component.destroy ++ added ∧
      ((∀ group, part ≠ .policy group) → added = []) := by
  cases remains with
  | rule tree id =>
    refine ⟨id, [], ?_, fun _ => rfl⟩
    have gone := phase_destroy.1 tree _ tree.destroy.mem_nodes
    have parts : (Node.rule tree.destroy).components.tail =
        ((Part.rule tree).components.map Component.destroy).tail :=
      congrArg List.tail (Node.rule tree).components_destroy
    rw [List.append_nil, List.map_tail, ← gone, ← parts]
    exact Rule.components_withId _ id
  | matcher tree id =>
    refine ⟨id, [], ?_, fun _ => rfl⟩
    have gone := phase_destroy.2 tree _ tree.destroy.mem_nodes
    have parts : (Node.matcher tree.destroy).components.tail =
        ((Part.matcher tree).components.map Component.destroy).tail :=
      congrArg List.tail (Node.matcher tree).components_destroy
    rw [List.append_nil, List.map_tail, ← gone, ← parts]
    exact Matcher.components_withId _ id
  | attributeRule binding givenId =>
    refine ⟨binding.matcher.id, [], ?_, fun _ => rfl⟩
    have all := (Node.matcher binding.matcher).components_destroy
    rw [Node.components_eq_cons (.matcher binding.matcher)] at all
    rw [List.append_nil]
    exact all
  | @policy group after component trees =>
    obtain ⟨added, trees⟩ := trees
    have all := group.components_destroy
    rw [Policy.components_eq] at all
    refine ⟨group.component.id, added.flatMap Node.components, ?_, fun other => absurd rfl (other group)⟩
    rw [Part.components, Policy.components_eq, component, ← trees, List.flatMap_append, (List.cons.inj all).2]
    rfl
  | @engine whole after component bodies =>
    have all := whole.components_destroy
    rw [Engine.components_eq] at all
    refine ⟨whole.component.id, [], ?_, fun _ => rfl⟩
    rw [List.append_nil, Part.components, Engine.components_eq, component, bodies, (List.cons.inj all).2]
    rfl

theorem validate_iff_components (part : Part) :
    part.validate = .ok () ↔ ∀ component ∈ part.components, component.phase = .initialised := by
  cases part with
  | rule tree => exact (Node.rule tree).validate_iff_components
  | matcher tree => exact (Node.matcher tree).validate_iff_components
  | attributeRule binding => exact (Node.matcher binding.matcher).validate_iff_components
  | policy group => exact group.validate_iff_components
  | engine whole => exact whole.validate_iff_components

section
variable {part : Part} (destroyed : part.component.phase = .destroyed)
include destroyed

theorem validate_of_destroyed : ∃ error, part.validate = .error error := by
  cases checked : part.validate with
  | error error => exact ⟨error, rfl⟩
  | ok done =>
    have root : part.component ∈ part.components := part.components_eq_cons ▸ List.mem_cons_self
    have initialised := part.validate_iff_components.mp checked part.component root
    cases destroyed.symm.trans initialised

theorem useless_of_destroyed : part.Useless := by
  cases part with
  | rule tree => exact Rule.evaluate_of_idle (Component.idle_of_destroyed destroyed)
  | matcher tree => exact Matcher.select_of_unusable (Component.ensureUsable_of_destroyed destroyed)
  | attributeRule binding =>
    intro request present
    obtain ⟨attr, found⟩ := Option.ne_none_iff_exists'.mp present
    refine AttributeRule.apply_eq_error_iff.mpr ⟨attr, found, ?_⟩
    exact Matcher.select_of_unusable (Component.ensureUsable_of_destroyed destroyed) request attr
  | policy group => trivial
  | engine whole =>
    intro context
    have unusable : whole.component.ensureUsable = _ := Component.ensureUsable_of_destroyed destroyed
    rw [Engine.filter, Engine.run, unusable]
    rfl

end

end Part

/-- Whatever is done to a part after it was destroyed, it and all that was in it stay destroyed, in their places, and
only a policy takes anything new. The part can be neither initialised nor validated. A rule decides nothing, a matcher
selects nothing, an attribute rule fails on every request that has its attribute, and an engine fails and leaves the
context as it is. -/
theorem destruction_is_final (part : Part) (operations : List Operation) :
    let after := operations.foldl Part.undergo part.destroy
    after.kindName = part.kindName ∧
      (∃ id added, after.components = ⟨id, .destroyed⟩ :: part.components.tail.map Component.destroy ++ added ∧
        ((∀ group, part ≠ .policy group) → added = [])) ∧
      (∃ error, after.initialise.error? = some error) ∧ (∃ error, after.validate = .error error) ∧ after.Useless := by
  intro after
  have remains : part.Remains after := part.remains_of_destroyed operations
  obtain ⟨id, added, components, onlyPolicies⟩ := remains.components
  have destroyed : after.component.phase = .destroyed := by
    rw [after.components_eq_cons, List.cons_append] at components
    rw [(List.cons.inj components).1]
  exact ⟨remains.kindName, ⟨id, added, components, onlyPolicies⟩, remains.initialise.2,
    Part.validate_of_destroyed destroyed, Part.useless_of_destroyed destroyed⟩

end

attribute [local instance] Regex.language

/-- An initialised rule that is put into a destroyed policy stays initialised, and does not bring the others back. -/
example :
    let staff : Policy := .named "staff" .always [{ attributeId := "mail", matcher := .ofCondition .any }]
    let late : AttributeRule := { attributeId := "mail", matcher := (Matcher.ofCondition .any).initialise.left }
    let operations : List Operation := [.withRules [late], .initialise]
    (operations.foldl Part.undergo (Part.policy staff).destroy).components.map (·.phase) =
      [.destroyed, .destroyed, .destroyed, .initialised] := rfl

end AttributeRelease
