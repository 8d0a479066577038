import AttributeRelease.Proofs.Aborts
import AttributeRelease.Proofs.Attempts
import AttributeRelease.Proofs.Nodes

/-! A valid component is ready for use: wherever it asks a node for its phase of life, the node is usable.
So it says what it would say if no node were ever asked, and no request fails for want of initialisation. -/

namespace AttributeRelease

/-- A failure that has to do with a value of an attribute, and not with how the matcher was put together. -/
def FilterError.OfValue (attr : Attribute) (error : FilterError) : Prop :=
  ∃ matcher message, error = .predicate matcher attr.id message

theorem FilterError.OfValue.ne_configuration {attr : Attribute} {error : FilterError} (ofValue : error.OfValue attr)
    (cause : ConfigError) : error ≠ .configuration cause := by
  obtain ⟨_, _, rfl⟩ := ofValue
  exact nofun

variable [PatternLanguage]

mutual
/-- The outcome of a rule whose nodes are taken to be usable. -/
def Rule.bare (request : Request) : Rule → Tristate
  | .atom _ leaf => leaf.evaluate request
  | .and _ children => .chain .yes (bareOutcomes request children)
  | .or _ children => .chain .no (bareOutcomes request children)
  | .not _ child => (child.bare request).negate
  | .attributeMatches _ attributeId matcher =>
    match request.attribute? attributeId with
    | none => .no
    | some attr => Rule.outcomeOf (matcher.bare request attr)

def bareOutcomes (request : Request) : List Rule → List Tristate
  | [] => []
  | rule :: rest => rule.bare request :: bareOutcomes request rest

/-- The selection of a matcher whose nodes are taken to be usable. -/
def Matcher.bare (request : Request) (attr : Attribute) : Matcher → Except FilterError Selection
  | .atom component leaf =>
    (sift (.predicate component.id attr.id) (leaf.answer request attr) attr.values.toList).map fun selected =>
      .values (.ofList selected)
  | .fromRule _ rule => .ok
    (match rule.bare request with
      | .yes => .values attr.values
      | .no => .values ∅
      | .undecided => .undecided)
  | .and _ children =>
    (gather (bareSelections request attr children)).map (Selection.combine attr.values unanimous)
  | .or _ children =>
    (gather (bareSelections request attr children)).map (Selection.combine attr.values (·.contains true))
  | .not _ child => (gather [child.bare request attr]).map (Selection.combine attr.values (!·.contains true))

def bareSelections (request : Request) (attr : Attribute) : List Matcher → List (Except FilterError Selection)
  | [] => []
  | matcher :: rest => matcher.bare request attr :: bareSelections request attr rest
end

theorem bareOutcomes_eq (request : Request) (rules : List Rule) :
    bareOutcomes request rules = rules.map (Rule.bare request) := by
  induction rules with
  | nil => rfl
  | cons rule rest ih => rw [bareOutcomes, ih, List.map_cons]

theorem bareSelections_eq (request : Request) (attr : Attribute) (matchers : List Matcher) :
    bareSelections request attr matchers = matchers.map (Matcher.bare request attr) := by
  induction matchers with
  | nil => rfl
  | cons matcher rest ih => rw [bareSelections, ih, List.map_cons]

private theorem outcomes_of_valid {children : List Rule} (parts : validateRules children = .ok ())
    (each : ∀ child ∈ children, child.validate = .ok () → ∀ request, child.evaluate request = child.bare request)
    (request : Request) : children.map (·.evaluate request) = bareOutcomes request children := by
  rw [bareOutcomes_eq]
  exact List.map_congr_left fun child member => each child member (validateRules_isOk_iff.mp parts child member) request

private theorem selections_of_valid {children : List Matcher} (parts : validateMatchers children = .ok ())
    (each : ∀ child ∈ children, child.validate = .ok () →
      ∀ request attr, child.select request attr = child.bare request attr)
    (request : Request) (attr : Attribute) :
    children.map (·.select request attr) = bareSelections request attr children := by
  rw [bareSelections_eq]
  exact List.map_congr_left fun child member =>
    each child member (validateMatchers_isOk_iff.mp parts child member) request attr

/-- In a valid tree it makes no difference that every node is asked. -/
theorem bare_of_valid :
    (∀ rule : Rule, rule.validate = .ok () → ∀ request, rule.evaluate request = rule.bare request) ∧
    ∀ matcher : Matcher, matcher.validate = .ok () →
      ∀ request attr, matcher.select request attr = matcher.bare request attr := by
  refine tree_induction _ _ ?ruleAtom ?ruleAnd ?ruleOr ?ruleNot ?attributeMatches ?matcherAtom ?fromRule ?matcherAnd
    ?matcherOr ?matcherNot
  case ruleAtom =>
    intro component leaf valid request
    rw [Rule.evaluate_atom, if_pos (Component.isInitialised_iff.mpr valid), Rule.bare]
  case ruleAnd =>
    intro component children ih valid request
    obtain ⟨usable, parts⟩ := bind_isOk_iff.mp valid
    rw [Rule.evaluate_and, if_pos (Component.isInitialised_iff.mpr usable), outcomes_of_valid parts ih, Rule.bare]
  case ruleOr =>
    intro component children ih valid request
    obtain ⟨usable, parts⟩ := bind_isOk_iff.mp valid
    rw [Rule.evaluate_or, if_pos (Component.isInitialised_iff.mpr usable), outcomes_of_valid parts ih, Rule.bare]
  case ruleNot =>
    intro component child ih valid request
    obtain ⟨usable, part⟩ := bind_isOk_iff.mp valid
    rw [Rule.evaluate_not, if_pos (Component.isInitialised_iff.mpr usable), ih part, Rule.bare]
  case attributeMatches =>
    intro component attributeId matcher ih valid request
    obtain ⟨usable, part⟩ := bind_isOk_iff.mp valid
    rw [Rule.evaluate_attributeMatches, if_pos (Component.isInitialised_iff.mpr usable), Rule.bare]
    cases request.attribute? attributeId with
    | none => rfl
    | some attr => exact congrArg Rule.outcomeOf (ih part request attr)
  case matcherAtom =>
    intro component leaf valid request attr
    rw [Matcher.select_atom, guarded_of_usable valid, Matcher.bare]
  case fromRule =>
    intro component rule ih valid request attr
    obtain ⟨usable, part⟩ := bind_isOk_iff.mp valid
    rw [Matcher.select_fromRule, guarded_of_usable usable, ih part]
    rfl
  case matcherAnd =>
    intro component children ih valid request attr
    obtain ⟨usable, parts⟩ := bind_isOk_iff.mp valid
    rw [Matcher.select_and, guarded_of_usable usable, selections_of_valid parts ih, Matcher.bare]
  case matcherOr =>
    intro component children ih valid request attr
    obtain ⟨usable, parts⟩ := bind_isOk_iff.mp valid
    rw [Matcher.select_or, guarded_of_usable usable, selections_of_valid parts ih, Matcher.bare]
  case matcherNot =>
    intro component child ih valid request attr
    obtain ⟨usable, part⟩ := bind_isOk_iff.mp valid
    rw [Matcher.select_not, guarded_of_usable usable, List.map_singleton, ih part, Matcher.bare]

/-- The phases of life have no part in what a node says. -/
def Node.Unhindered : Node → Prop
  | .rule tree => ∀ request, tree.evaluate request = tree.bare request
  | .matcher tree => ∀ request attr, tree.select request attr = tree.bare request attr ∧
      ∀ cause, tree.select request attr ≠ .error (.configuration cause)

theorem Matcher.select_fails {matcher : Matcher} (valid : matcher.validate = .ok ()) {request : Request}
    {attr : Attribute} {error : FilterError} (failed : matcher.select request attr = .error error) :
    error.OfValue attr := by
  obtain ⟨left, leaf, right, split, _, failed⟩ := (select_eq_error_iff valid).mp failed
  obtain ⟨alone, ready⟩ := leaf_of_mem_leaves matcher valid leaf (by simp [split])
  have stuck : ¬ leaf.Decides request attr := by
    rintro ⟨selected, decided⟩
    cases failed.symm.trans decided
  have indecision := indecision_of_leaf alone ready stuck
  rw [failed] at indecision
  cases indecision with
  | predicate component _ message | script component _ message => exact ⟨component.id, message, rfl⟩

theorem Node.unhindered_of_valid {node : Node} (valid : node.validate = .ok ()) : node.Unhindered := by
  cases node with
  | rule rule => exact bare_of_valid.1 rule valid
  | matcher matcher =>
    refine fun request attr => ⟨bare_of_valid.2 matcher valid request attr, fun cause failed => ?_⟩
    exact (Matcher.select_fails valid failed).ne_configuration cause rfl

theorem Policy.unhindered_of_valid {policy : Policy} (valid : policy.validate = .ok ()) :
    ∀ node ∈ policy.nodes, node.Unhindered := by
  obtain ⟨_, activation, rules⟩ := validate_isOk_iff.mp valid
  refine forall_mem_nodes.mpr ⟨fun node inside => ?_, fun rule member node inside => ?_⟩
  · have whole : (Node.rule policy.activation).validate = .ok () := activation
    exact Node.unhindered_of_valid (Node.validate_of_mem whole inside)
  · have whole : (Node.matcher rule.matcher).validate = .ok () := rules rule member
    exact Node.unhindered_of_valid (Node.validate_of_mem whole inside)

theorem Policy.apply_ne_configuration {policy : Policy} (valid : policy.validate = .ok ()) :
    ∀ rule ∈ policy.rules, ∀ request cause, rule.apply request ≠ .error (.configuration cause) := by
  intro rule member request cause failed
  obtain ⟨attr, _, failed⟩ := AttributeRule.apply_eq_error_iff.mp failed
  have ready := (validate_isOk_iff.mp valid).2.2 rule member
  exact (Matcher.select_fails ready failed).ne_configuration cause rfl

namespace Engine

theorem invalidPolicies_eq (engine : Engine) :
    List.Forall₂ (fun policy entry => entry.1 = policy.id ∧ policy.validate = .error entry.2)
      (engine.policies.filter fun policy => !policy.validate.isOk) engine.invalidPolicies := by
  rw [invalidPolicies]
  induction engine.policies with
  | nil => exact .nil
  | cons policy rest ih =>
    rw [List.filter_cons, List.filterMap_cons]
    cases checked : policy.validate with
    | ok _ => exact ih
    | error cause => exact .cons ⟨rfl, checked⟩ ih

theorem validate_of_invalid {engine : Engine} {policy : Policy} (member : policy ∈ engine.policies)
    (invalid : policy.validate ≠ .ok ()) : engine.validate = .error (.invalidPolicies engine.invalidPolicies) := by
  rw [validate, if_neg]
  exact fun none => invalid (invalidPolicies_eq_nil_iff.mp (List.isEmpty_iff.mp none) policy member)

end Engine

/-- Validation is right about the phases of life: a tree, a policy or an engine is valid if and only if everything
in it is initialised, and then no rule is undecided and nothing fails because of a phase. Of an engine, validation
names the policies that are not valid, in their order and each with its own error. -/
theorem validate_sound_and_complete (tree : Node) (policy : Policy) (engine : Engine) :
    ((tree.validate = .ok () ↔ ∀ node ∈ tree.nodes, node.component.phase = .initialised) ∧
      (tree.validate = .ok () → ∀ node ∈ tree.nodes, node.Unhindered)) ∧
    ((policy.validate = .ok () ↔ ∀ component ∈ policy.components, component.phase = .initialised) ∧
      (policy.validate = .ok () → (∀ node ∈ policy.nodes, node.Unhindered) ∧
        ∀ rule ∈ policy.rules, ∀ request cause, rule.apply request ≠ .error (.configuration cause))) ∧
    ((engine.validate = .ok () ↔ ∀ component ∈ engine.components, component.phase = .initialised) ∧
      (engine.validate = .ok () → (∀ node ∈ engine.nodes, node.Unhindered) ∧
        (∀ policy ∈ engine.policies, ∀ rule ∈ policy.rules, ∀ request cause,
          rule.apply request ≠ .error (.configuration cause)) ∧
        ∀ context cause, (engine.filter context).1 ≠ .error (.configuration cause) ∧
          ∀ answers, (engine.filterWith answers context).1 ≠ .error (.configuration cause))) ∧
    ((∃ policy ∈ engine.policies, policy.validate ≠ .ok ()) →
      ∃ refused, engine.validate = .error (.invalidPolicies refused) ∧
        List.Forall₂ (fun policy entry => entry.1 = policy.id ∧ policy.validate = .error entry.2)
          (engine.policies.filter fun policy => !policy.validate.isOk) refused) := by
  refine ⟨⟨tree.validate_iff, fun valid node inside => ?tree⟩, ⟨policy.validate_iff_components, fun valid => ?policy⟩,
    ⟨engine.validate_iff_components, fun valid => ?engine⟩, ?refused⟩
  case tree => exact Node.unhindered_of_valid (Node.validate_of_mem valid inside)
  case policy => exact ⟨Policy.unhindered_of_valid valid, Policy.apply_ne_configuration valid⟩
  case engine =>
    have policies := (Engine.validate_isOk_iff.mp valid).2
    have never (answers : Answers) (context : FilterContext) (cause : ConfigError) :
        (engine.filterWith answers context).1 ≠ .error (.configuration cause) := by
      intro failed
      obtain ⟨_, _, _, _, _, _, same⟩ := (Engine.filterWith_eq_error_iff valid).mp failed
      cases same
    refine ⟨fun node inside => ?_, fun policy member => Policy.apply_ne_configuration (policies policy member),
      fun context cause => ⟨?_, fun answers => never answers context cause⟩⟩
    · obtain ⟨policy, member, inside⟩ := List.mem_flatMap.mp inside
      exact Policy.unhindered_of_valid (policies policy member) node inside
    · exact engine.filterWith_plain context ▸ never .plain context cause
  case refused =>
    rintro ⟨policy, member, invalid⟩
    exact ⟨engine.invalidPolicies, Engine.validate_of_invalid member invalid, engine.invalidPolicies_eq⟩

/-- A policy that permits the telephone numbers of those who have a mail address. -/
private def directory (id : String) : Policy :=
  let node (id : String) : Component := ⟨id, .initialised⟩
  { component := node id
    activation := .attributeMatches (node "attribute-matches") "mail" (.atom (node "any") (.ofCondition .any))
    rules := [{
      attributeId := "phone"
      matcher := .fromRule (node "from-rule") (.not (node "not") (.atom (node "static") (.fixed .no))) }] }

/-- Of three policies, one got a rule after it was initialised, and another one was destroyed. -/
private def neglected : Engine :=
  { component := ⟨"release", .initialised⟩
    policies := [directory "home",
      (directory "grown").withRules [{ attributeId := "mail", matcher := .ofCondition .any }],
      (directory "closed").destroy] }

theorem validate_sound_and_complete_directory :
    let healthy : Engine := { component := ⟨"release", .initialised⟩, policies := [directory "home"] }
    healthy.validate = .ok () ∧ (∀ node ∈ healthy.nodes, node.Unhindered) ∧
      (∀ context cause, (healthy.filter context).1 ≠ .error (.configuration cause)) ∧
      ¬ (∀ component ∈ neglected.components, component.phase = .initialised) ∧
      neglected.validate =
        .error (.invalidPolicies [("grown", .notInitialised "any"), ("closed", .destroyed "closed")]) := by
  intro healthy
  obtain ⟨_, _, ⟨_, ready⟩, _⟩ := validate_sound_and_complete (.matcher default) (directory "home") healthy
  obtain ⟨_, _, ⟨checked, _⟩, refusals⟩ := validate_sound_and_complete (.matcher default) (directory "home") neglected
  obtain ⟨refused, found, named⟩ := refusals ⟨(directory "closed").destroy, by simp [neglected], nofun⟩
  refine ⟨rfl, (ready rfl).1, fun context cause => ((ready rfl).2.2 context cause).1, ?phases, ?names⟩
  case phases => exact fun all => nomatch (checked.mpr all).symm.trans found
  case names =>
    match refused, named with
    | [(_, _), (_, _)], .cons ⟨rfl, grown⟩ (.cons ⟨rfl, closed⟩ .nil) =>
      cases grown
      cases closed
      exact found

end AttributeRelease
