import AttributeRelease.Proofs.Assembly
import AttributeRelease.Proofs.Evaluation
import AttributeRelease.Proofs.Nodes
import AttributeRelease.Regex.Language

/-! Initialisation admits a composition only if it has children, and a script only if its evaluator accepts the
expression. No other operation makes a node initialised or takes a child away. So whatever operations lead to an
initialised tree, all of its nodes have been admitted, and an initialisation that fails leaves a tree that is of no
use. -/

namespace AttributeRelease

theorem accepted_of_check {script : Script} {component : String} (checked : script.check component = .ok ()) :
    script.evaluator.check script.expression = .ok () := by
  rw [Script.check] at checked
  split at checked
  next accepted => exact accepted
  next => cases checked

private theorem left_each {α : Type} {good : α → Prop} {change : α → Attempt α} {items : List α} (nonempty : items ≠ [])
    (untouched : ∀ item ∈ items, good item) (each : ∀ item ∈ items, good (change item).left) :
    (Attempt.each change items).left ≠ [] ∧ ∀ item ∈ (Attempt.each change items).left, good item := by
  constructor
  · intro empty
    have counted := Attempt.isEmpty_left_each change items
    rw [empty, eq_comm] at counted
    exact nonempty (List.isEmpty_iff.mp counted)
  · have ensures : (Attempt.each change items).Ensures (∀ item ∈ ·, good item) (∀ item ∈ ·, True) :=
      Attempt.each_ensures untouched fun item member => ⟨each item member, fun _ => trivial⟩
    exact ensures.left

private theorem root_kept {α : Type} (root : α → Component) {component : Component} {unchanged : α}
    {attempt : Attempt α} {error : ConfigError}
    (failed : (if component.isInitialised then .ok unchanged else attempt).error? = some error)
    (kept : attempt.error? = some error → root attempt.left = component) :
    root (if component.isInitialised then .ok unchanged else attempt).left = component ∧
      component.isInitialised = false := by
  split at failed
  next => cases failed
  next idle =>
    rw [if_neg idle]
    exact ⟨kept failed, eq_false_of_ne_true idle⟩

section

variable [PatternLanguage]

def RuleLeaf.Accepted : RuleLeaf → Prop
  | .ofScript script => script.evaluator.check script.expression = .ok ()
  | _ => True

def MatcherLeaf.Accepted : MatcherLeaf → Prop
  | .ofScript script => script.evaluator.check script.expression = .ok ()
  | _ => True

/-- What a node has to fulfil, apart from its parts. -/
def Node.Accepted : Node → Prop
  | .rule (.atom _ leaf) => leaf.Accepted
  | .rule (.and _ children) | .rule (.or _ children) => children ≠ []
  | .rule (.not _ _) | .rule (.attributeMatches _ _ _) => True
  | .matcher (.atom _ leaf) => leaf.Accepted
  | .matcher (.and _ children) | .matcher (.or _ children) => children ≠ []
  | .matcher (.not _ _) | .matcher (.fromRule _ _) => True

/-- Whatever is initialised fulfils it. -/
def Node.Admitted (node : Node) : Prop := node.component.isInitialised = true → node.Accepted

def Rule.Admitted (rule : Rule) : Prop := ∀ node ∈ rule.nodes, node.Admitted

def Matcher.Admitted (matcher : Matcher) : Prop := ∀ node ∈ matcher.nodes, node.Admitted

theorem RuleLeaf.accepted_of_check {leaf : RuleLeaf} {component : String} (checked : leaf.check component = .ok ()) :
    leaf.Accepted := by
  cases leaf with
  | ofScript script => exact AttributeRelease.accepted_of_check checked
  | fixed | ofCondition | ofPredicate => trivial

theorem MatcherLeaf.accepted_of_check {leaf : MatcherLeaf} {component : String}
    (checked : leaf.check component = .ok ()) : leaf.Accepted := by
  cases leaf with
  | ofScript script => exact AttributeRelease.accepted_of_check checked
  | ofCondition | ofPredicate => trivial

theorem initialise_admitted :
    (∀ rule : Rule, rule.Admitted → rule.initialise.left.Admitted) ∧
    ∀ matcher : Matcher, matcher.Admitted → matcher.initialise.left.Admitted := by
  refine tree_induction _ _ ?ruleAtom ?ruleAnd ?ruleOr ?ruleNot ?attributeMatches ?matcherAtom ?fromRule ?matcherAnd
    ?matcherOr ?matcherNot
  case ruleAtom =>
    intro component leaf admitted
    obtain ⟨after, left, _, _, started⟩ := component.attemptChecked_keeps (leaf.check component.id) (Rule.atom · leaf)
    rw [Rule.initialise]
    split
    · exact admitted
    · rw [left]
      rcases started with checked | rfl
      · exact List.forall_mem_singleton.mpr fun _ => leaf.accepted_of_check checked
      · exact admitted
  case matcherAtom =>
    intro component leaf admitted
    obtain ⟨after, left, _, _, started⟩ := component.attemptChecked_keeps (leaf.check component.id) (Matcher.atom · leaf)
    rw [Matcher.initialise]
    split
    · exact admitted
    · rw [left]
      rcases started with checked | rfl
      · exact List.forall_mem_singleton.mpr fun _ => leaf.accepted_of_check checked
      · exact admitted
  case ruleAnd | ruleOr =>
    intro component children ih admitted
    rw [Rule.initialise]
    split
    · exact admitted
    · split
      · exact admitted
      next nonempty =>
        have parts := forall_mem_nodesOfRules.mp (List.forall_mem_cons.mp admitted).2
        obtain ⟨some, after⟩ := left_each (by simpa using nonempty) parts fun child member =>
          ih child member (parts child member)
        rw [initialiseRules_eq]
        obtain ⟨root, left, _⟩ := component.node_keeps (Attempt.each Rule.initialise children) _
        rw [left]
        exact List.forall_mem_cons.mpr ⟨fun _ => some, forall_mem_nodesOfRules.mpr after⟩
  case matcherAnd | matcherOr =>
    intro component children ih admitted
    rw [Matcher.initialise]
    split
    · exact admitted
    · split
      · exact admitted
      next nonempty =>
        have parts := forall_mem_nodesOfMatchers.mp (List.forall_mem_cons.mp admitted).2
        obtain ⟨some, after⟩ := left_each (by simpa using nonempty) parts fun child member =>
          ih child member (parts child member)
        rw [initialiseMatchers_eq]
        obtain ⟨root, left, _⟩ := component.node_keeps (Attempt.each Matcher.initialise children) _
        rw [left]
        exact List.forall_mem_cons.mpr ⟨fun _ => some, forall_mem_nodesOfMatchers.mpr after⟩
  case ruleNot =>
    intro component child ih admitted
    obtain ⟨root, left, _⟩ := component.node_keeps child.initialise Rule.not
    rw [Rule.initialise]
    split
    · exact admitted
    · rw [left]
      exact List.forall_mem_cons.mpr ⟨fun _ => trivial, ih (List.forall_mem_cons.mp admitted).2⟩
  case attributeMatches =>
    intro component attributeId matcher ih admitted
    obtain ⟨root, left, _⟩ := component.node_keeps matcher.initialise (Rule.attributeMatches · attributeId ·)
    rw [Rule.initialise]
    split
    · exact admitted
    · rw [left]
      exact List.forall_mem_cons.mpr ⟨fun _ => trivial, ih (List.forall_mem_cons.mp admitted).2⟩
  case fromRule | matcherNot =>
    intro component part ih admitted
    rw [Matcher.initialise]
    split
    · exact admitted
    · obtain ⟨root, left, _⟩ := component.node_keeps part.initialise _
      rw [left]
      exact List.forall_mem_cons.mpr ⟨fun _ => trivial, ih (List.forall_mem_cons.mp admitted).2⟩

theorem components_destroy :
    (∀ rule : Rule, rule.destroy.nodes.map Node.component = (rule.nodes.map Node.component).map Component.destroy) ∧
    ∀ matcher : Matcher,
      matcher.destroy.nodes.map Node.component = (matcher.nodes.map Node.component).map Component.destroy := by
  have below {α : Type} {nodes : α → List Node} {destroy : α → α} {parts : List α}
      (each : ∀ part ∈ parts, (nodes (destroy part)).map Node.component =
        ((nodes part).map Node.component).map Component.destroy) :
      ((parts.map destroy).flatMap nodes).map Node.component =
        ((parts.flatMap nodes).map Node.component).map Component.destroy := by
    rw [List.flatMap_map, List.map_flatMap, List.map_flatMap, List.map_flatMap]
    exact congrArg List.flatten (List.map_congr_left each)
  refine tree_induction _ _ ?ruleAtom ?ruleAnd ?ruleOr ?ruleNot ?attributeMatches ?matcherAtom ?fromRule ?matcherAnd
    ?matcherOr ?matcherNot
  case ruleAtom | matcherAtom => exact fun _ _ => rfl
  case ruleAnd | ruleOr =>
    intro component children ih
    rw [Rule.destroy, Rule.nodes, Rule.nodes, destroyRules_eq, nodesOfRules_eq, nodesOfRules_eq]
    exact congrArg (component.destroy :: ·) (below ih)
  case matcherAnd | matcherOr =>
    intro component children ih
    rw [Matcher.destroy, Matcher.nodes, Matcher.nodes, destroyMatchers_eq, nodesOfMatchers_eq, nodesOfMatchers_eq]
    exact congrArg (component.destroy :: ·) (below ih)
  case ruleNot | fromRule | matcherNot => exact fun component _ ih => congrArg (component.destroy :: ·) ih
  case attributeMatches => exact fun component _ _ ih => congrArg (component.destroy :: ·) ih

theorem phase_destroy :
    (∀ rule : Rule, ∀ node ∈ rule.destroy.nodes, node.component.phase = .destroyed) ∧
    ∀ matcher : Matcher, ∀ node ∈ matcher.destroy.nodes, node.component.phase = .destroyed := by
  have gone {nodes : List Node} {components : List Component}
      (destroyed : nodes.map Node.component = components.map Component.destroy) :
      ∀ node ∈ nodes, node.component.phase = .destroyed := by
    intro node inside
    have member := List.mem_map_of_mem (f := Node.component) inside
    rw [destroyed] at member
    obtain ⟨before, _, same⟩ := List.mem_map.mp member
    exact same ▸ rfl
  exact ⟨fun rule => gone (components_destroy.1 rule), fun matcher => gone (components_destroy.2 matcher)⟩

theorem Node.admitted_of_destroyed {node : Node} (destroyed : node.component.phase = .destroyed) : node.Admitted := by
  intro initialised
  rw [Component.isInitialised, destroyed] at initialised
  cases initialised

theorem Rule.Admitted.withId {rule : Rule} (admitted : rule.Admitted) (id : String) : (rule.withId id).Admitted := by
  cases rule with
  | atom | and | or | not | attributeMatches =>
    obtain ⟨root, parts⟩ := List.forall_mem_cons.mp admitted
    exact List.forall_mem_cons.mpr ⟨root, parts⟩

theorem Matcher.Admitted.withId {matcher : Matcher} (admitted : matcher.Admitted) (id : String) :
    (matcher.withId id).Admitted := by
  cases matcher with
  | atom | fromRule | and | or | not =>
    obtain ⟨root, parts⟩ := List.forall_mem_cons.mp admitted
    exact List.forall_mem_cons.mpr ⟨root, parts⟩

theorem Rule.Admitted.addChild {rule child : Rule} (admitted : rule.Admitted) (part : child.Admitted) :
    (rule.addChild child).left.Admitted := by
  unfold Rule.addChild
  cases rule.component.ensureMutable with
  | error error => exact admitted
  | ok done =>
    cases rule with
    | and component children | or component children =>
      have parts := forall_mem_nodesOfRules.mp (List.forall_mem_cons.mp admitted).2
      refine List.forall_mem_cons.mpr ⟨fun _ => by simp [Node.Accepted], forall_mem_nodesOfRules.mpr ?_⟩
      exact List.forall_mem_append.mpr ⟨parts, List.forall_mem_singleton.mpr part⟩
    | atom | not | attributeMatches => exact admitted

theorem Matcher.Admitted.addChild {matcher child : Matcher} (admitted : matcher.Admitted) (part : child.Admitted) :
    (matcher.addChild child).left.Admitted := by
  unfold Matcher.addChild
  cases matcher.component.ensureMutable with
  | error error => exact admitted
  | ok done =>
    cases matcher with
    | and component children | or component children =>
      have parts := forall_mem_nodesOfMatchers.mp (List.forall_mem_cons.mp admitted).2
      refine List.forall_mem_cons.mpr ⟨fun _ => by simp [Node.Accepted], forall_mem_nodesOfMatchers.mpr ?_⟩
      exact List.forall_mem_append.mpr ⟨parts, List.forall_mem_singleton.mpr part⟩
    | atom | not | fromRule => exact admitted

private theorem admitted_new {root : Node} {parts : List Node} (fresh : root.component.isInitialised = false)
    (admitted : ∀ part ∈ parts, part.Admitted) : ∀ node ∈ root :: parts, node.Admitted :=
  List.forall_mem_cons.mpr ⟨fun initialised => absurd initialised (Bool.eq_false_iff.mp fresh), admitted⟩

mutual
theorem Rule.Reached.admitted {rule : Rule} (reached : rule.Reached) : rule.Admitted :=
  match reached with
  | .leaf _ => admitted_new rfl nofun
  | .allOf parts | .anyOf parts =>
    admitted_new rfl (forall_mem_nodesOfRules.mpr fun child member => (parts child member).admitted)
  | .negation part => admitted_new rfl part.admitted
  | .ofMatcher _ part => admitted_new rfl part.admitted
  | .withId id before => before.admitted.withId id
  | .addChild before part => before.admitted.addChild part.admitted
  | .initialise before => initialise_admitted.1 _ before.admitted
  | .destroy _ => fun node inside => Node.admitted_of_destroyed (phase_destroy.1 _ node inside)

theorem Matcher.Reached.admitted {matcher : Matcher} (reached : matcher.Reached) : matcher.Admitted :=
  match reached with
  | .leaf _ => admitted_new rfl nofun
  | .ofRule part => admitted_new rfl part.admitted
  | .allOf parts | .anyOf parts =>
    admitted_new rfl (forall_mem_nodesOfMatchers.mpr fun child member => (parts child member).admitted)
  | .negation part => admitted_new rfl part.admitted
  | .withId id before => before.admitted.withId id
  | .addChild before part => before.admitted.addChild part.admitted
  | .initialise before => initialise_admitted.2 _ before.admitted
  | .destroy _ => fun node inside => Node.admitted_of_destroyed (phase_destroy.2 _ node inside)
end

/-- A rule that cannot be initialised keeps its own component, whatever becomes of its parts. -/
theorem Rule.component_of_failed {rule : Rule} {error : ConfigError} (failed : rule.initialise.error? = some error) :
    rule.initialise.left.component = rule.component ∧ rule.component.isInitialised = false := by
  cases rule with
  | atom component leaf =>
    obtain ⟨after, left, _, same, _⟩ := component.attemptChecked_keeps (leaf.check component.id) (atom · leaf)
    rw [initialise] at failed ⊢
    exact root_kept Rule.component failed fun failed => (congrArg Rule.component left).trans (same _ failed)
  | and component children | or component children =>
    obtain ⟨after, left, _, same⟩ := component.node_keeps (initialiseRules children) _
    rw [initialise] at failed ⊢
    refine root_kept Rule.component failed fun failed => ?_
    split at failed
    next empty =>
      rw [if_pos empty]
      rfl
    next nonempty =>
      rw [if_neg nonempty]
      exact (congrArg Rule.component left).trans (same _ failed)
  | not component child =>
    obtain ⟨after, left, _, same⟩ := component.node_keeps child.initialise not
    rw [initialise] at failed ⊢
    exact root_kept Rule.component failed fun failed => (congrArg Rule.component left).trans (same _ failed)
  | attributeMatches component attributeId matcher =>
    obtain ⟨after, left, _, same⟩ := component.node_keeps matcher.initialise (attributeMatches · attributeId ·)
    rw [initialise] at failed ⊢
    exact root_kept Rule.component failed fun failed => (congrArg Rule.component left).trans (same _ failed)

theorem Matcher.component_of_failed {matcher : Matcher} {error : ConfigError}
    (failed : matcher.initialise.error? = some error) :
    matcher.initialise.left.component = matcher.component ∧ matcher.component.isInitialised = false := by
  cases matcher with
  | atom component leaf =>
    obtain ⟨after, left, _, same, _⟩ := component.attemptChecked_keeps (leaf.check component.id) (atom · leaf)
    rw [initialise] at failed ⊢
    exact root_kept Matcher.component failed fun failed => (congrArg Matcher.component left).trans (same _ failed)
  | and component children | or component children =>
    obtain ⟨after, left, _, same⟩ := component.node_keeps (initialiseMatchers children) _
    rw [initialise] at failed ⊢
    refine root_kept Matcher.component failed fun failed => ?_
    split at failed
    next empty =>
      rw [if_pos empty]
      rfl
    next nonempty =>
      rw [if_neg nonempty]
      exact (congrArg Matcher.component left).trans (same _ failed)
  | not component part | fromRule component part =>
    obtain ⟨after, left, _, same⟩ := component.node_keeps part.initialise _
    rw [initialise] at failed ⊢
    exact root_kept Matcher.component failed fun failed => (congrArg Matcher.component left).trans (same _ failed)

theorem Rule.addChild_of_initialised {rule : Rule} (initialised : rule.component.isInitialised = true) (child : Rule) :
    rule.addChild child = .fail rule (.immutable rule.id) := by
  unfold addChild
  rw [Component.ensureMutable, eq_of_beq initialised]
  rfl

theorem Matcher.addChild_of_initialised {matcher : Matcher} (initialised : matcher.component.isInitialised = true)
    (child : Matcher) : matcher.addChild child = .fail matcher (.immutable matcher.id) := by
  unfold addChild
  rw [Component.ensureMutable, eq_of_beq initialised]
  rfl

theorem Rule.Reached.ready {rule : Rule} (reached : rule.Reached) (initialised : rule.component.isInitialised = true) :
    rule.validate = .ok () ∧ ∀ node ∈ rule.nodes, node.component.phase = .initialised ∧ node.Accepted := by
  have valid := reached.sound.validate initialised
  refine ⟨valid, fun node inside => ?_⟩
  have phase := (validate_iff_nodes.1 rule).mp valid node inside
  exact ⟨phase, reached.admitted node inside (beq_iff_eq.mpr phase)⟩

theorem Matcher.Reached.ready {matcher : Matcher} (reached : matcher.Reached)
    (initialised : matcher.component.isInitialised = true) :
    matcher.validate = .ok () ∧ ∀ node ∈ matcher.nodes, node.component.phase = .initialised ∧ node.Accepted := by
  have valid := reached.sound.validate initialised
  refine ⟨valid, fun node inside => ?_⟩
  have phase := (validate_iff_nodes.2 matcher).mp valid node inside
  exact ⟨phase, reached.admitted node inside (beq_iff_eq.mpr phase)⟩

/-- Whatever operations have led to a tree, an initialised root tells that all of its nodes are initialised, that
compositions have children and scripts have been checked, and that it is valid and takes no more children. After an
initialisation that fails, the root is not initialised, so that a rule decides nothing and a matcher selects
nothing. -/
theorem reached_trees_are_admitted :
    (∀ rule : Rule, rule.Reached →
      (rule.component.isInitialised = true →
        (∀ node ∈ rule.nodes, node.component.phase = .initialised ∧ node.Accepted) ∧ rule.validate = .ok () ∧
          ∀ child, rule.addChild child = .fail rule (.immutable rule.id)) ∧
      ∀ error, rule.initialise.error? = some error → rule.initialise.left.component.isInitialised = false ∧
        ∀ request, rule.initialise.left.evaluate request = .undecided) ∧
    ∀ matcher : Matcher, matcher.Reached →
      (matcher.component.isInitialised = true →
        (∀ node ∈ matcher.nodes, node.component.phase = .initialised ∧ node.Accepted) ∧ matcher.validate = .ok () ∧
          ∀ child, matcher.addChild child = .fail matcher (.immutable matcher.id)) ∧
      ∀ error, matcher.initialise.error? = some error → matcher.initialise.left.component.isInitialised = false ∧
        ∃ cause, ∀ request attr, matcher.initialise.left.select request attr = .error (.configuration cause) := by
  constructor
  · refine fun rule reached => ⟨fun initialised => ?_, fun error failed => ?_⟩
    · obtain ⟨valid, ready⟩ := reached.ready initialised
      exact ⟨ready, valid, Rule.addChild_of_initialised initialised⟩
    · obtain ⟨kept, idle⟩ := Rule.component_of_failed failed
      rw [← kept] at idle
      exact ⟨idle, Rule.evaluate_of_idle idle⟩
  · refine fun matcher reached => ⟨fun initialised => ?_, fun error failed => ?_⟩
    · obtain ⟨valid, ready⟩ := reached.ready initialised
      exact ⟨ready, valid, Matcher.addChild_of_initialised initialised⟩
    · obtain ⟨kept, idle⟩ := Matcher.component_of_failed failed
      rw [← kept] at idle
      cases usable : matcher.initialise.left.component.ensureUsable with
      | ok _ => cases idle.symm.trans (Component.isInitialised_iff.mpr usable)
      | error cause => exact ⟨idle, cause, Matcher.select_of_unusable usable⟩

end

attribute [local instance] Regex.language

/-- An evaluator that knows a single expression. -/
private def greeter : Evaluator where
  check expression := if expression = "hello" then .ok () else .error (.compilation "not a greeting")
  evaluate _ _ := .ok (.bool true)

/-- A conjunction whose first part is initialised already. What is `last` comes at the end. -/
private def greeting (last : Rule) : Rule :=
  .allOf [Rule.always.initialise.left,
    .ofMatcher "mail" (.ofRule (.ofLeaf (.ofScript { expression := "hello", evaluator := greeter }))), last]

private theorem greeting_reached {last : Rule} (reached : last.Reached) : (greeting last).Reached := by
  refine .allOf ?_
  simp only [List.forall_mem_cons]
  exact ⟨.initialise (.withId "any" (.leaf _)), .ofMatcher "mail" (.ofRule (.leaf _)), reached, nofun⟩

/-- Initialisation gets to the end of the first conjunction. In the second one it stops at an empty disjunction,
after the other parts. -/
theorem reached_trees_are_admitted_greeting :
    let started := (greeting (.fixed .yes)).initialise.left
    let stopped := (greeting (.anyOf [])).initialise.left
    started.validate = .ok () ∧ (∀ node ∈ started.nodes, node.Accepted) ∧
      started.addChild .always = .fail started (.immutable "and") ∧
      (greeting (.anyOf [])).initialise.error? = some (.emptyComposition "or") ∧
      stopped.nodes.map (·.component.phase) = [.uninitialised, .initialised, .initialised, .initialised, .initialised,
        .uninitialised] ∧
      ∀ request, stopped.evaluate request = .undecided := by
  intro started stopped
  obtain ⟨rules, _⟩ := reached_trees_are_admitted
  obtain ⟨ready, _⟩ := rules started (.initialise (greeting_reached (.leaf _)))
  obtain ⟨nodes, valid, closed⟩ := ready rfl
  obtain ⟨_, failing⟩ := rules (greeting (.anyOf [])) (greeting_reached (.anyOf nofun))
  obtain ⟨_, undecided⟩ := failing _ rfl
  exact ⟨valid, fun node inside => (nodes node inside).2, closed _, rfl, rfl, undecided⟩

end AttributeRelease
