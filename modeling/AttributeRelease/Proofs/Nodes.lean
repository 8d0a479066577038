import AttributeRelease.Proofs.Trees
import AttributeRelease.Proofs.Validity

/-! The nodes of trees, the root first and its parts from left to right. Validation asks all of them, so a
component is valid if and only if nothing in it is still to be initialised or has been destroyed. -/

namespace AttributeRelease

variable [PatternLanguage]

/-- A node of a tree with all that is below it. -/
inductive Node where
  | rule (rule : Rule)
  | matcher (matcher : Matcher)

mutual
def Rule.nodes : Rule → List Node
  | .atom component leaf => [.rule (.atom component leaf)]
  | .and component children => .rule (.and component children) :: nodesOfRules children
  | .or component children => .rule (.or component children) :: nodesOfRules children
  | .not component child => .rule (.not component child) :: child.nodes
  | .attributeMatches component attributeId matcher =>
    .rule (.attributeMatches component attributeId matcher) :: matcher.nodes

def nodesOfRules : List Rule → List Node
  | [] => []
  | rule :: rest => rule.nodes ++ nodesOfRules rest

def Matcher.nodes : Matcher → List Node
  | .atom component leaf => [.matcher (.atom component leaf)]
  | .fromRule component rule => .matcher (.fromRule component rule) :: rule.nodes
  | .and component children => .matcher (.and component children) :: nodesOfMatchers children
  | .or component children => .matcher (.or component children) :: nodesOfMatchers children
  | .not component child => .matcher (.not component child) :: child.nodes

def nodesOfMatchers : List Matcher → List Node
  | [] => []
  | matcher :: rest => matcher.nodes ++ nodesOfMatchers rest
end

theorem nodesOfRules_eq (rules : List Rule) : nodesOfRules rules = rules.flatMap Rule.nodes := by
  induction rules with
  | nil => rfl
  | cons rule rest ih => rw [nodesOfRules, ih, List.flatMap_cons]

theorem nodesOfMatchers_eq (matchers : List Matcher) : nodesOfMatchers matchers = matchers.flatMap Matcher.nodes := by
  induction matchers with
  | nil => rfl
  | cons matcher rest ih => rw [nodesOfMatchers, ih, List.flatMap_cons]

theorem nodes_subset_nodesOfRules {rule : Rule} {rules : List Rule} (member : rule ∈ rules) :
    rule.nodes ⊆ nodesOfRules rules :=
  fun _ inside => nodesOfRules_eq rules ▸ List.mem_flatMap.mpr ⟨rule, member, inside⟩

theorem nodes_subset_nodesOfMatchers {matcher : Matcher} {matchers : List Matcher} (member : matcher ∈ matchers) :
    matcher.nodes ⊆ nodesOfMatchers matchers :=
  fun _ inside => nodesOfMatchers_eq matchers ▸ List.mem_flatMap.mpr ⟨matcher, member, inside⟩

theorem forall_mem_nodesOfRules {holds : Node → Prop} {rules : List Rule} :
    (∀ node ∈ nodesOfRules rules, holds node) ↔ ∀ rule ∈ rules, ∀ node ∈ rule.nodes, holds node := by
  rw [nodesOfRules_eq, List.forall_mem_flatMap]

theorem forall_mem_nodesOfMatchers {holds : Node → Prop} {matchers : List Matcher} :
    (∀ node ∈ nodesOfMatchers matchers, holds node) ↔ ∀ matcher ∈ matchers, ∀ node ∈ matcher.nodes, holds node := by
  rw [nodesOfMatchers_eq, List.forall_mem_flatMap]

namespace Node

def component : Node → Component
  | .rule tree => tree.component
  | .matcher tree => tree.component

def nodes : Node → List Node
  | .rule tree => tree.nodes
  | .matcher tree => tree.nodes

def validate : Node → Except ConfigError Unit
  | .rule tree => tree.validate
  | .matcher tree => tree.validate

end Node

theorem Rule.mem_nodes (rule : Rule) : .rule rule ∈ rule.nodes := by
  cases rule <;> exact List.mem_cons_self

theorem Matcher.mem_nodes (matcher : Matcher) : .matcher matcher ∈ matcher.nodes := by
  cases matcher <;> exact List.mem_cons_self

theorem nodes_subset :
    (∀ rule : Rule, ∀ node ∈ rule.nodes, node.nodes ⊆ rule.nodes) ∧
    ∀ matcher : Matcher, ∀ node ∈ matcher.nodes, node.nodes ⊆ matcher.nodes := by
  have deeper {root : Node} {below nodes : List Node} (inside : nodes ⊆ below) : nodes ⊆ root :: below :=
    List.subset_cons_of_subset root inside
  refine tree_induction _ _ ?ruleAtom ?ruleAnd ?ruleOr ?ruleNot ?attributeMatches ?matcherAtom ?fromRule ?matcherAnd
    ?matcherOr ?matcherNot
  case ruleAtom | matcherAtom =>
    exact fun _ _ => List.forall_mem_singleton.mpr (List.Subset.refl _)
  case ruleAnd | ruleOr =>
    intro component children ih
    refine List.forall_mem_cons.mpr ⟨List.Subset.refl _, forall_mem_nodesOfRules.mpr fun child member node below => ?_⟩
    exact deeper (List.Subset.trans (ih child member node below) (nodes_subset_nodesOfRules member))
  case matcherAnd | matcherOr =>
    intro component children ih
    refine List.forall_mem_cons.mpr ⟨List.Subset.refl _, forall_mem_nodesOfMatchers.mpr fun child member node below => ?_⟩
    exact deeper (List.Subset.trans (ih child member node below) (nodes_subset_nodesOfMatchers member))
  case ruleNot | fromRule | matcherNot =>
    exact fun _ _ ih => List.forall_mem_cons.mpr ⟨List.Subset.refl _, fun node below => deeper (ih node below)⟩
  case attributeMatches =>
    exact fun _ _ _ ih => List.forall_mem_cons.mpr ⟨List.Subset.refl _, fun node below => deeper (ih node below)⟩

/-- A tree is valid if all of its nodes are initialised, those of the trees of the other kind in it included. -/
theorem validate_iff_nodes :
    (∀ rule : Rule, rule.validate = .ok () ↔ ∀ node ∈ rule.nodes, node.component.phase = .initialised) ∧
    ∀ matcher : Matcher, matcher.validate = .ok () ↔ ∀ node ∈ matcher.nodes, node.component.phase = .initialised := by
  refine tree_induction _ _ ?ruleAtom ?ruleAnd ?ruleOr ?ruleNot ?attributeMatches ?matcherAtom ?fromRule ?matcherAnd
    ?matcherOr ?matcherNot
  case ruleAtom =>
    intro component leaf
    rw [Rule.validate, component.ensureUsable_isOk_iff, Rule.nodes, List.forall_mem_singleton]
    rfl
  case matcherAtom =>
    intro component leaf
    rw [Matcher.validate, component.ensureUsable_isOk_iff, Matcher.nodes, List.forall_mem_singleton]
    rfl
  case ruleAnd | ruleOr =>
    intro component children ih
    rw [Rule.validate, bind_isOk_iff, component.ensureUsable_isOk_iff, validateRules_isOk_iff, Rule.nodes,
      List.forall_mem_cons, forall_mem_nodesOfRules]
    exact and_congr Iff.rfl (forall₂_congr ih)
  case matcherAnd | matcherOr =>
    intro component children ih
    rw [Matcher.validate, bind_isOk_iff, component.ensureUsable_isOk_iff, validateMatchers_isOk_iff, Matcher.nodes,
      List.forall_mem_cons, forall_mem_nodesOfMatchers]
    exact and_congr Iff.rfl (forall₂_congr ih)
  case ruleNot =>
    intro component child ih
    rw [Rule.validate, bind_isOk_iff, component.ensureUsable_isOk_iff, ih, Rule.nodes, List.forall_mem_cons]
    rfl
  case attributeMatches =>
    intro component attributeId matcher ih
    rw [Rule.validate, bind_isOk_iff, component.ensureUsable_isOk_iff, ih, Rule.nodes, List.forall_mem_cons]
    rfl
  case fromRule | matcherNot =>
    intro component part ih
    rw [Matcher.validate, bind_isOk_iff, component.ensureUsable_isOk_iff, ih, Matcher.nodes, List.forall_mem_cons]
    rfl

theorem Node.validate_iff (node : Node) :
    node.validate = .ok () ↔ ∀ inner ∈ node.nodes, inner.component.phase = .initialised := by
  cases node with
  | rule rule => exact validate_iff_nodes.1 rule
  | matcher matcher => exact validate_iff_nodes.2 matcher

theorem Node.validate_of_mem {node inner : Node} (valid : node.validate = .ok ()) (inside : inner ∈ node.nodes) :
    inner.validate = .ok () := by
  have below : inner.nodes ⊆ node.nodes := by
    cases node with
    | rule rule => exact nodes_subset.1 rule inner inside
    | matcher matcher => exact nodes_subset.2 matcher inner inside
  exact inner.validate_iff.mpr fun deeper member => node.validate_iff.mp valid deeper (below member)

namespace Policy

def nodes (policy : Policy) : List Node :=
  policy.activation.nodes ++ policy.rules.flatMap fun rule => rule.matcher.nodes

/-- Everything in a policy that is initialised and destroyed. -/
def components (policy : Policy) : List Component := policy.component :: policy.nodes.map Node.component

theorem forall_mem_nodes {holds : Node → Prop} {policy : Policy} :
    (∀ node ∈ policy.nodes, holds node) ↔
      (∀ node ∈ policy.activation.nodes, holds node) ∧ ∀ rule ∈ policy.rules, ∀ node ∈ rule.matcher.nodes, holds node := by
  rw [nodes, List.forall_mem_append, List.forall_mem_flatMap]

theorem validate_iff_components (policy : Policy) :
    policy.validate = .ok () ↔ ∀ component ∈ policy.components, component.phase = .initialised := by
  rw [validate_isOk_iff, Component.ensureUsable_isOk_iff, components, List.forall_mem_cons, List.forall_mem_map,
    forall_mem_nodes, validate_iff_nodes.1]
  exact and_congr_right fun _ => and_congr_right fun _ => forall₂_congr fun rule _ => validate_iff_nodes.2 rule.matcher

end Policy

namespace Engine

def nodes (engine : Engine) : List Node := engine.policies.flatMap Policy.nodes

def components (engine : Engine) : List Component := engine.component :: engine.policies.flatMap Policy.components

theorem validate_iff_components (engine : Engine) :
    engine.validate = .ok () ↔ ∀ component ∈ engine.components, component.phase = .initialised := by
  rw [validate_isOk_iff, Component.ensureUsable_isOk_iff, components, List.forall_mem_cons, List.forall_mem_flatMap]
  exact and_congr_right fun _ => forall₂_congr fun policy _ => policy.validate_iff_components

end Engine

end AttributeRelease
