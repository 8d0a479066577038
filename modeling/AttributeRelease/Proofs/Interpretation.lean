import AttributeRelease.Proofs.Descriptions
import AttributeRelease.Proofs.Readiness
import AttributeRelease.Regex.Language

/-! What descriptions mean. A description can be followed as it stands, without anything being built of it: each
condition tells what is looked at and with what that is compared. The rule or matcher that is built of a description
says of every request what the description says. -/

namespace AttributeRelease

/-- Whether a text is the described one. Case counts where the description says so. -/
def StringMatch.describes (expected : StringMatch) (text : String) : Bool :=
  match expected.caseSensitive with
  | true => text == expected.value
  | false => Text.lower text == Text.lower expected.value

/-- Whether the text of a value passes a test. Values that are no texts do not. -/
def Value.textPasses (test : String → Bool) : Value → Bool
  | .string text | .scoped text _ | .localised text _ => test text
  | .binary _ | .empty _ | .uninterpreted _ _ => false

/-- Whether the scope of a value passes a test. Values without one do not. -/
def Value.scopePasses (test : String → Bool) : Value → Bool
  | .scoped _ scope => test scope
  | .string _ | .localised _ _ | .binary _ | .empty _ | .uninterpreted _ _ => false

/-- What a test of a fact comes to. Without the fact, it cannot be decided. -/
def ofFact (fact? : Option String) (test : String → Bool) : Tristate := fact?.elim .undecided fun fact => .ofBool (test fact)

theorem StringMatch.accepts_eq (expected : StringMatch) : expected.accepts = expected.describes := by
  funext text
  obtain ⟨value, caseSensitive⟩ := expected
  cases caseSensitive <;> exact Bool.beq_comm

theorem Condition.onFact_eq (fact? : Option String) (test : String → Bool) : onFact fact? test = ofFact fact? test := by
  cases fact? <;> rfl

/-- What runs the scripts of a description. Where there is nothing, none is built. -/
def Builder.evaluator (builder : Builder) : Evaluator := builder.evaluator?.getD default

private theorem map_of_mapM {α β δ : Type} {build : δ → Except ConfigError α} {said : α → β} {meant : δ → β}
    {items : List δ} {values : List α} (built : items.mapM build = .ok values)
    (each : ∀ item ∈ items, ∀ value, build item = .ok value → said value = meant item) :
    values.map said = items.map meant := by
  induction items generalizing values with
  | nil =>
    cases built
    rfl
  | cons item rest ih =>
    rw [List.mapM_cons] at built
    obtain ⟨value, here, built⟩ := bind_eq_ok_iff.mp built
    obtain ⟨others, later, same⟩ := bind_eq_ok_iff.mp built
    cases same
    obtain ⟨own, others⟩ := List.forall_mem_cons.mp each
    rw [List.map_cons, List.map_cons, own value here, ih later others]

theorem Builder.script_eq_ok {builder : Builder} {expression : String} {custom : Option Json} {script : Script}
    (built : builder.script expression custom = .ok script) :
    script = { expression, evaluator := builder.evaluator, custom } := by
  obtain ⟨evaluator?⟩ := builder
  cases evaluator? with
  | none => cases built
  | some evaluator =>
    cases built
    rfl

section

variable [PatternLanguage]

/-- Whether the pattern with the given source is found in a text. -/
def foundBy (source text : String) : Bool := (PatternLanguage.compile source).toOption.any (· text)

def ConditionDefinition.decision (facts : Facts) : ConditionDefinition → Tristate
  | .requester expected => ofFact facts.requester expected.describes
  | .requesterPattern source => ofFact facts.requester (foundBy source)
  | .responder expected => ofFact facts.responder expected.describes
  | .principal expected => ofFact facts.principal expected.describes
  | .principalPattern source => ofFact facts.principal (foundBy source)
  | .proxiedRequester expected => .ofBool (facts.proxiedRequesters.any expected.describes)
  | .authenticationMethod expected =>
    match facts.authenticationMethods with
    | [] => .undecided
    | methods => .ofBool (methods.any expected.describes)

/-- Whether a value is chosen. -/
def ValueConditionDefinition.chooses (value : Value) : ValueConditionDefinition → Bool
  | .any => true
  | .value expected => value.textPasses expected.describes
  | .scope expected => value.scopePasses expected.describes
  | .valuePattern source => value.textPasses (foundBy source)
  | .scopePattern source => value.scopePasses (foundBy source)
  | .exact expected => value == expected

theorem Pattern.accepts_of_compile {source : String} {pattern : Pattern} (compiled : compile source = .ok pattern) :
    pattern.accepts = foundBy source := by
  rw [compile] at compiled
  split at compiled
  next accepts known =>
    cases compiled
    funext text
    have found : foundBy source text = accepts text := by
      rw [foundBy, known]
      rfl
    exact found.symm
  next => cases compiled

theorem ConditionDefinition.evaluate_of_build {tested : ConditionDefinition} {condition : Condition}
    (built : tested.build = .ok condition) (facts : Facts) : condition.evaluate facts = tested.decision facts := by
  cases tested with
  | requesterPattern source | principalPattern source =>
    obtain ⟨pattern, compiled, rfl⟩ := map_eq_ok_iff.mp built
    rw [Condition.evaluate, decision, Pattern.accepts_of_compile compiled, Condition.onFact_eq]
  | requester expected | responder expected | principal expected =>
    cases built
    rw [Condition.evaluate, decision, expected.accepts_eq, Condition.onFact_eq]
  | proxiedRequester expected =>
    cases built
    rw [Condition.evaluate, decision, expected.accepts_eq]
  | authenticationMethod expected =>
    cases built
    rw [Condition.evaluate, decision, expected.accepts_eq]
    cases facts.authenticationMethods <;> rfl

theorem ValueConditionDefinition.accepts_of_build {tested : ValueConditionDefinition} {condition : ValueCondition}
    (built : tested.build = .ok condition) (value : Value) : condition.accepts value = tested.chooses value := by
  cases tested with
  | valuePattern source | scopePattern source =>
    obtain ⟨pattern, compiled, rfl⟩ := map_eq_ok_iff.mp built
    rw [ValueCondition.accepts, chooses, Pattern.accepts_of_compile compiled]
    cases value <;> rfl
  | value expected | scope expected =>
    cases built
    rw [ValueCondition.accepts, chooses, expected.accepts_eq]
    cases value <;> rfl
  | exact expected =>
    cases built
    exact Bool.beq_comm
  | any =>
    cases built
    rfl

mutual
/-- What a described rule comes to. Its parts are followed in their order, as far as they decide. -/
def RuleDefinition.decision (evaluator : Evaluator) (request : Request) : RuleDefinition → Tristate
  | .any => .yes
  | .fixed outcome => outcome
  | .condition tested => tested.decision request.facts
  | .and rules => .chain .yes (decisions evaluator request rules)
  | .or rules => .chain .no (decisions evaluator request rules)
  | .not rule => (rule.decision evaluator request).negate
  | .script expression custom =>
    match evaluator.evaluate expression { facts := request.facts, custom } with
    | .ok (.bool holds) => .ofBool holds
    | _ => .undecided
  | .attributeMatches attributeId matcher =>
    match request.attribute? attributeId with
    | none => .no
    | some attr =>
      match matcher.choice evaluator request attr with
      | .ok (.values chosen) => .ofBool !chosen.isEmpty
      | _ => .undecided

def decisions (evaluator : Evaluator) (request : Request) : List RuleDefinition → List Tristate
  | [] => []
  | rule :: rest => rule.decision evaluator request :: decisions evaluator request rest

/-- What a described matcher chooses among the values of an attribute. -/
def MatcherDefinition.choice (evaluator : Evaluator) (request : Request) (attr : Attribute) :
    MatcherDefinition → Except FilterError Selection
  | .condition tested => .ok (.values (attr.values.filter (tested.chooses ·)))
  | .fromRule rule =>
    match rule.decision evaluator request with
    | .yes => .ok (.values attr.values)
    | .no => .ok (.values ∅)
    | .undecided => .ok .undecided
  | .script expression custom =>
    let answer (value : Value) : Except String Bool :=
      let bindings : ScriptBindings := { facts := request.facts, custom, attr := some attr, value := some value }
      match evaluator.evaluate expression bindings with
      | .ok (.bool chosen) => .ok chosen
      | .ok other => .error s!"script returned non-boolean result {other.text}"
      | .error cause => .error cause.message
    (sift (.predicate "script" attr.id) answer attr.values.toList).map fun chosen => .values (.ofList chosen)
  | .and matchers =>
    (gather (choices evaluator request attr matchers)).map (Selection.combine attr.values unanimous)
  | .or matchers =>
    (gather (choices evaluator request attr matchers)).map (Selection.combine attr.values (·.contains true))
  | .not matcher =>
    match matcher.choice evaluator request attr with
    | .ok (.values chosen) => .ok (.values (attr.values.diff chosen))
    | other => other

def choices (evaluator : Evaluator) (request : Request) (attr : Attribute) :
    List MatcherDefinition → List (Except FilterError Selection)
  | [] => []
  | matcher :: rest => matcher.choice evaluator request attr :: choices evaluator request attr rest
end

theorem decisions_eq (evaluator : Evaluator) (request : Request) (rules : List RuleDefinition) :
    decisions evaluator request rules = rules.map (·.decision evaluator request) := by
  induction rules with
  | nil => rfl
  | cons rule rest ih => rw [decisions, ih, List.map_cons]

theorem choices_eq (evaluator : Evaluator) (request : Request) (attr : Attribute) (matchers : List MatcherDefinition) :
    choices evaluator request attr matchers = matchers.map (·.choice evaluator request attr) := by
  induction matchers with
  | nil => rfl
  | cons matcher rest ih => rw [choices, ih, List.map_cons]

/-- What is built of a description says what the description says. -/
theorem bare_of_built (builder : Builder) :
    (∀ (definition : RuleDefinition) (rule : Rule), builder.rule definition = .ok rule →
      ∀ request, rule.bare request = definition.decision builder.evaluator request) ∧
    ∀ (definition : MatcherDefinition) (matcher : Matcher), builder.matcher definition = .ok matcher →
      ∀ request attr, matcher.bare request attr = definition.choice builder.evaluator request attr := by
  refine definition_induction _ _ ?any ?fixed ?condition ?ruleAnd ?ruleOr ?ruleNot ?ruleScript ?attributeMatches
    ?valueCondition ?fromRule ?matcherScript ?matcherAnd ?matcherOr ?matcherNot
  case any =>
    intro rule built request
    cases built
    rfl
  case fixed =>
    intro outcome rule built request
    cases built
    rfl
  case condition =>
    intro tested rule built request
    obtain ⟨condition, made, same⟩ := bind_eq_ok_iff.mp built
    cases same
    exact ConditionDefinition.evaluate_of_build made request.facts
  case ruleAnd | ruleOr =>
    intro definitions ih rule built request
    obtain ⟨children, made, same⟩ := bind_eq_ok_iff.mp built
    cases same
    rw [builder.rules_eq] at made
    have each := map_of_mapM made fun definition member child made => ih definition member child made request
    rw [RuleDefinition.decision, decisions_eq, ← each, ← bareOutcomes_eq]
    rfl
  case ruleNot =>
    intro definition ih rule built request
    obtain ⟨child, made, same⟩ := bind_eq_ok_iff.mp built
    cases same
    exact congrArg Tristate.negate (ih child made request)
  case ruleScript =>
    intro expression custom rule built request
    obtain ⟨script, made, same⟩ := bind_eq_ok_iff.mp built
    cases same
    cases builder.script_eq_ok made
    rfl
  case attributeMatches =>
    intro attributeId definition ih rule built request
    obtain ⟨matcher, made, same⟩ := bind_eq_ok_iff.mp built
    cases same
    rw [Rule.ofMatcher, Rule.bare, RuleDefinition.decision]
    cases request.attribute? attributeId with
    | none => rfl
    | some attr =>
      dsimp only
      rw [ih matcher made request attr]
      rfl
  case valueCondition =>
    intro tested matcher built request attr
    obtain ⟨condition, made, same⟩ := bind_eq_ok_iff.mp built
    cases same
    have sifted (failure : String → FilterError) :
        sift failure ((MatcherLeaf.ofCondition condition).answer request attr) attr.values.toList =
          .ok (attr.values.toList.filter (tested.chooses ·)) :=
      sift_eq_ok_iff.mpr ⟨fun value _ => ⟨condition.accepts value, rfl⟩,
        List.filter_congr fun value _ => (ValueConditionDefinition.accepts_of_build made value).symm⟩
    rw [Matcher.ofCondition, Matcher.ofLeaf, Matcher.bare, sifted, MatcherDefinition.choice, ← ValueSet.ofList_filter]
    rfl
  case fromRule =>
    intro definition ih matcher built request attr
    obtain ⟨rule, made, same⟩ := bind_eq_ok_iff.mp built
    cases same
    rw [Matcher.ofRule, Matcher.bare, MatcherDefinition.choice, ih rule made]
    cases definition.decision builder.evaluator request <;> rfl
  case matcherScript =>
    intro expression custom matcher built request attr
    obtain ⟨script, made, same⟩ := bind_eq_ok_iff.mp built
    cases same
    cases builder.script_eq_ok made
    rfl
  case matcherAnd | matcherOr =>
    intro definitions ih matcher built request attr
    obtain ⟨children, made, same⟩ := bind_eq_ok_iff.mp built
    cases same
    rw [builder.matchers_eq] at made
    have each := map_of_mapM made fun definition member child made => ih definition member child made request attr
    rw [MatcherDefinition.choice, choices_eq, ← each, ← bareSelections_eq]
    rfl
  case matcherNot =>
    intro definition ih matcher built request attr
    obtain ⟨child, made, same⟩ := bind_eq_ok_iff.mp built
    cases same
    rw [Matcher.negation, Matcher.bare, MatcherDefinition.choice, ih child made]
    rcases definition.choice builder.evaluator request attr with error | (chosen | _)
    · rfl
    · simp [gather, Except.map, Selection.combine, ValueSet.diff, ValueSet.contains]
    · rfl

/-- Initialisation changes phases of life only, also where it fails. -/
theorem bare_initialise :
    (∀ (rule : Rule) request, rule.initialise.left.bare request = rule.bare request) ∧
    ∀ (matcher : Matcher) request attr, matcher.initialise.left.bare request attr = matcher.bare request attr := by
  refine tree_induction _ _ ?ruleAtom ?ruleAnd ?ruleOr ?ruleNot ?attributeMatches ?matcherAtom ?fromRule ?matcherAnd
    ?matcherOr ?matcherNot
  case ruleAtom =>
    intro component leaf request
    obtain ⟨_, left, _⟩ := component.attemptChecked_keeps (leaf.check component.id) (Rule.atom · leaf)
    rw [Rule.initialise]
    split
    · rfl
    · rw [left]
      rfl
  case matcherAtom =>
    intro component leaf request attr
    obtain ⟨_, left, same, _⟩ := component.attemptChecked_keeps (leaf.check component.id) (Matcher.atom · leaf)
    rw [Matcher.initialise]
    split
    · rfl
    · rw [left, Matcher.bare, same, Matcher.bare]
  case ruleAnd | ruleOr =>
    intro component children ih request
    obtain ⟨_, left, _⟩ := component.node_keeps (initialiseRules children) _
    rw [Rule.initialise]
    split
    · rfl
    · split
      · rfl
      · have each := Attempt.map_left_each fun child member => ih child member request
        rw [left, initialiseRules_eq, Rule.bare, bareOutcomes_eq, each, ← bareOutcomes_eq]
        rfl
  case matcherAnd | matcherOr =>
    intro component children ih request attr
    obtain ⟨_, left, _⟩ := component.node_keeps (initialiseMatchers children) _
    rw [Matcher.initialise]
    split
    · rfl
    · split
      · rfl
      · have each := Attempt.map_left_each fun child member => ih child member request attr
        rw [left, initialiseMatchers_eq, Matcher.bare, bareSelections_eq, each, ← bareSelections_eq]
        rfl
  case ruleNot =>
    intro component child ih request
    obtain ⟨_, left, _⟩ := component.node_keeps child.initialise Rule.not
    rw [Rule.initialise]
    split
    · rfl
    · rw [left, Rule.bare, ih, Rule.bare]
  case attributeMatches =>
    intro component attributeId matcher ih request
    obtain ⟨_, left, _⟩ := component.node_keeps matcher.initialise (Rule.attributeMatches · attributeId ·)
    rw [Rule.initialise]
    split
    · rfl
    · rw [left, Rule.bare, Rule.bare]
      cases request.attribute? attributeId with
      | none => rfl
      | some attr => exact congrArg Rule.outcomeOf (ih request attr)
  case fromRule =>
    intro component rule ih request attr
    obtain ⟨_, left, _⟩ := component.node_keeps rule.initialise Matcher.fromRule
    rw [Matcher.initialise]
    split
    · rfl
    · rw [left, Matcher.bare, ih, Matcher.bare]
  case matcherNot =>
    intro component child ih request attr
    obtain ⟨_, left, _⟩ := component.node_keeps child.initialise Matcher.not
    rw [Matcher.initialise]
    split
    · rfl
    · rw [left, Matcher.bare, ih, Matcher.bare]

theorem Rule.Reached.evaluate_of_started {rule ready : Rule} (reached : rule.Reached)
    (started : rule.initialise.finished = .ok ready) (request : Request) : ready.evaluate request = rule.bare request := by
  have valid := (initialise_ensures.1 rule reached.sound).of_finished started
  obtain ⟨_, rfl⟩ := Attempt.finished_eq_ok_iff.mp started
  rw [bare_of_valid.1 _ valid, bare_initialise.1]

theorem Matcher.Reached.select_of_started {matcher ready : Matcher} (reached : matcher.Reached)
    (started : matcher.initialise.finished = .ok ready) (request : Request) (attr : Attribute) :
    ready.select request attr = matcher.bare request attr := by
  have valid := (initialise_ensures.2 matcher reached.sound).of_finished started
  obtain ⟨_, rfl⟩ := Attempt.finished_eq_ok_iff.mp started
  rw [bare_of_valid.2 _ valid, bare_initialise.2]

theorem Rule.bare_withId (rule : Rule) (id : String) (request : Request) :
    (rule.withId id).bare request = rule.bare request := by
  cases rule <;> rfl

/-- A description that is accepted is followed: whatever is built of it and then initialised says of every request
what the description says. The activation rule of a policy is built as any rule, and then named after the policy. -/
theorem built_trees_follow_descriptions (builder : Builder) :
    (∀ (definition : RuleDefinition) (rule ready : Rule), builder.rule definition = .ok rule →
      rule.initialise.finished = .ok ready →
      ∀ request, ready.evaluate request = definition.decision builder.evaluator request) ∧
    (∀ (definition : MatcherDefinition) (matcher ready : Matcher), builder.matcher definition = .ok matcher →
      matcher.initialise.finished = .ok ready →
      ∀ request attr, ready.select request attr = definition.choice builder.evaluator request attr) ∧
    ∀ (definition : PolicyDefinition) (policy : Policy), builder.policy definition = .ok policy →
      ∃ activation, builder.rule definition.activation = .ok activation ∧
        policy.activation = activation.withId s!"{definition.id}/activation" ∧
        ∀ ready, policy.activation.initialise.finished = .ok ready →
          ∀ request, ready.evaluate request = definition.activation.decision builder.evaluator request := by
  refine ⟨fun definition rule ready built started request => ?rules,
    fun definition matcher ready built started request attr => ?matchers, fun definition policy built => ?policies⟩
  case rules =>
    have reached := ((build_yields.1 definition).of_eq_ok built).reached
    rw [reached.evaluate_of_started started, (bare_of_built builder).1 definition rule built]
  case matchers =>
    have reached := ((build_yields.2 definition).of_eq_ok built).reached
    rw [reached.select_of_started started, (bare_of_built builder).2 definition matcher built]
  case policies =>
    obtain ⟨activation, made, rest⟩ := bind_eq_ok_iff.mp built
    obtain ⟨rules, _, same⟩ := bind_eq_ok_iff.mp rest
    cases same
    refine ⟨activation, made, rfl, fun ready started request => ?_⟩
    have reached := ((build_yields.1 definition.activation).of_eq_ok made).reached
    rw [(reached.withId _).evaluate_of_started started, activation.bare_withId,
      (bare_of_built builder).1 definition.activation activation made]

end

attribute [local instance] Regex.language

/-- What runs a script that tells the values of a single attribute. -/
private def mailOnly : Evaluator where
  check _ := .ok ()
  evaluate _ bindings := .ok (.bool (bindings.attr.any (·.id == "mail")))

/-- A shop that does not act for the broker asks for somebody who is no guest and has an address apart from those
at work. -/
private def shopDefinition : RuleDefinition :=
  .and [.condition (.requester { value := "SHOP", caseSensitive := false }),
    .not (.condition (.proxiedRequester { value := "broker" })),
    .attributeMatches "mail" (.and [.script "mail" none, .not (.or [.condition (.valuePattern "^work"),
      .fromRule (.condition (.principal { value := "guest" }))])])]

theorem built_trees_follow_descriptions_shop :
    let builder : Builder := { evaluator? := some mailOnly }
    let request : Request := .ofAttributes { requestTime := .epoch, requester := some "Shop", principal := some "anna" }
      [{ id := "mail", values := .ofList [.string "work", .string "home"] }]
    ∃ rule ready, builder.rule shopDefinition = .ok rule ∧ rule.initialise.finished = .ok ready ∧
      ready.evaluate request = .yes ∧ shopDefinition.decision mailOnly request = .yes := by
  intro builder request
  obtain ⟨rules, _⟩ := built_trees_follow_descriptions builder
  have decided : shopDefinition.decision mailOnly request = .yes := by decide +kernel
  exact ⟨_, _, by with_unfolding_all rfl, rfl, (rules shopDefinition _ _ rfl rfl request).trans decided, decided⟩

end AttributeRelease
