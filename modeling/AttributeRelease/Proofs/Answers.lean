import AttributeRelease.Proofs.FilterRun
import AttributeRelease.Proofs.Trees
import AttributeRelease.Proofs.Validity

/-! Filtering for applications whose predicates look at more than the request: at what has been found
since the start, which changes while the engine runs. A predicate that does not is answered as its test
says, and filtering is what it was. -/

namespace AttributeRelease

/-- How predicates are answered in view of a request and of what has been found so far. -/
structure Answers where
  ofRequest : RequestPredicate → FilterContext → Except String Bool
  ofValue : ValuePredicate → FilterContext → Attribute → Value → Except String Bool

variable [PatternLanguage]

def Answers.plain : Answers where
  ofRequest predicate context := predicate.test context.request
  ofValue predicate context := predicate.test context.request

variable (answers : Answers) (findings : Findings)

def RuleLeaf.given : RuleLeaf → RuleLeaf
  | .ofPredicate predicate =>
    .ofPredicate { predicate with test := fun request => answers.ofRequest predicate { request, findings } }
  | leaf => leaf

def MatcherLeaf.given : MatcherLeaf → MatcherLeaf
  | .ofPredicate predicate =>
    .ofPredicate { predicate with test := fun request => answers.ofValue predicate { request, findings } }
  | leaf => leaf

mutual
def Rule.given : Rule → Rule
  | .atom component leaf => .atom component (leaf.given answers findings)
  | .and component children => .and component (givenRules children)
  | .or component children => .or component (givenRules children)
  | .not component child => .not component child.given
  | .attributeMatches component attributeId matcher => .attributeMatches component attributeId matcher.given

def givenRules : List Rule → List Rule
  | [] => []
  | rule :: rest => rule.given :: givenRules rest

def Matcher.given : Matcher → Matcher
  | .atom component leaf => .atom component (leaf.given answers findings)
  | .fromRule component rule => .fromRule component rule.given
  | .and component children => .and component (givenMatchers children)
  | .or component children => .or component (givenMatchers children)
  | .not component child => .not component child.given

def givenMatchers : List Matcher → List Matcher
  | [] => []
  | matcher :: rest => matcher.given :: givenMatchers rest
end

def AttributeRule.given (rule : AttributeRule) : AttributeRule :=
  { rule with matcher := rule.matcher.given answers findings }

theorem givenRules_eq (rules : List Rule) : givenRules answers findings rules = rules.map (Rule.given answers findings) := by
  induction rules with
  | nil => rfl
  | cons rule rest ih => rw [givenRules, ih, List.map_cons]

theorem givenMatchers_eq (matchers : List Matcher) :
    givenMatchers answers findings matchers = matchers.map (Matcher.given answers findings) := by
  induction matchers with
  | nil => rfl
  | cons matcher rest ih => rw [givenMatchers, ih, List.map_cons]

theorem validate_given :
    (∀ rule : Rule, (rule.given answers findings).validate = rule.validate) ∧
    ∀ matcher : Matcher, (matcher.given answers findings).validate = matcher.validate := by
  refine tree_induction _ _ ?ruleAtom ?ruleAnd ?ruleOr ?ruleNot ?attributeMatches ?matcherAtom ?fromRule ?matcherAnd
    ?matcherOr ?matcherNot
  case ruleAtom | matcherAtom => exact fun _ _ => rfl
  case ruleAnd | ruleOr =>
    intro component children ih
    rw [Rule.given, Rule.validate, givenRules_eq, validateRules_map ih, Rule.validate]
  case matcherAnd | matcherOr =>
    intro component children ih
    rw [Matcher.given, Matcher.validate, givenMatchers_eq, validateMatchers_map ih, Matcher.validate]
  case ruleNot =>
    intro component child ih
    rw [Rule.given, Rule.validate, ih, Rule.validate]
  case attributeMatches =>
    intro component attributeId matcher ih
    rw [Rule.given, Rule.validate, ih, Rule.validate]
  case fromRule | matcherNot =>
    intro component part ih
    rw [Matcher.given, Matcher.validate, ih, Matcher.validate]

/-- A predicate that is answered by its own test may see any findings. -/
theorem given_plain :
    (∀ rule : Rule, rule.given .plain findings = rule) ∧ ∀ matcher : Matcher, matcher.given .plain findings = matcher := by
  refine tree_induction _ _ ?ruleAtom ?ruleAnd ?ruleOr ?ruleNot ?attributeMatches ?matcherAtom ?fromRule ?matcherAnd
    ?matcherOr ?matcherNot
  case ruleAtom | matcherAtom =>
    intro component leaf
    cases leaf <;> rfl
  case ruleAnd | ruleOr =>
    intro component children ih
    rw [Rule.given, givenRules_eq, List.map_congr_left ih, List.map_id']
  case matcherAnd | matcherOr =>
    intro component children ih
    rw [Matcher.given, givenMatchers_eq, List.map_congr_left ih, List.map_id']
  case ruleNot => exact fun component child ih => congrArg (Rule.not component) ih
  case attributeMatches => exact fun component attributeId matcher ih => congrArg (Rule.attributeMatches component attributeId) ih
  case fromRule => exact fun component rule ih => congrArg (Matcher.fromRule component) ih
  case matcherNot => exact fun component child ih => congrArg (Matcher.not component) ih

theorem AttributeRule.given_plain (rule : AttributeRule) : rule.given .plain findings = rule := by
  rw [given, (AttributeRelease.given_plain findings).2]

/-- Applies attribute rules in order, up to the first one that fails. Each sees what those before it
found. -/
def applyRules (request : Request) : List AttributeRule → Findings → Except FilterError Unit × Findings
  | [], findings => (.ok (), findings)
  | rule :: rest, findings =>
    match (rule.given answers findings).apply request with
    | .error error => (.error error, findings)
    | .ok none => applyRules request rest findings
    | .ok (some values) => applyRules request rest (findings.note ⟨rule, values⟩)

/-- Applies policies in order, up to the first failure. -/
def applyPolicies (request : Request) : List Policy → Findings → Except FilterError Unit × Findings
  | [], findings => (.ok (), findings)
  | policy :: rest, findings =>
    let activation := (policy.activation.given answers findings).evaluate request
    let findings := findings.record ⟨policy.id, activation⟩
    if activation.isYes then
      match applyRules answers request policy.rules findings with
      | (.error error, findings) => (.error error, findings)
      | (.ok (), findings) => applyPolicies request rest findings
    else applyPolicies request rest findings

/-- Filters the attributes of a request as the engine does, with predicates that see what has been found
so far. -/
def Engine.filterWith (engine : Engine) (context : FilterContext) : Except FilterError (List Attribute) × FilterContext :=
  match engine.component.ensureUsable with
  | .error cause => (.error (.configuration cause), context)
  | .ok () =>
    let (result, findings) := applyPolicies answers context.request engine.policies {}
    (result.map fun () => context.request.attributes.filterMap findings.release?, { context with findings })

theorem applyRules_plain (request : Request) (rules : List AttributeRule) :
    applyRules .plain request rules findings = (Engine.runRules request rules findings).value := by
  induction rules generalizing findings with
  | nil => rfl
  | cons rule rest ih =>
    have applied : (rule.run request).run.value = rule.apply request := rfl
    rw [applyRules, Engine.runRules, Traced.value_bind, applied, rule.given_plain]
    cases rule.apply request with
    | error error => rfl
    | ok selected =>
      cases selected with
      | none => exact ih findings
      | some values => exact ih (findings.note ⟨rule, values⟩)

theorem applyPolicies_plain (request : Request) (policies : List Policy) :
    applyPolicies .plain request policies findings = (Engine.runPolicies request policies findings).value := by
  induction policies generalizing findings with
  | nil => rfl
  | cons policy rest ih =>
    have activation : (policy.activation.run request).value = policy.activation.evaluate request := rfl
    rw [applyPolicies, Engine.runPolicies, Traced.value_bind, activation, (given_plain findings).1]
    dsimp only
    split
    · rw [applyRules_plain, Traced.value_bind]
      generalize (Engine.runRules request policy.rules _).value = ended
      obtain ⟨verdict, after⟩ := ended
      cases verdict with
      | error error => rfl
      | ok finished => exact ih after
    · exact ih _

/-- Without predicates that look at findings, this is how the engine filters. -/
theorem Engine.filterWith_plain (engine : Engine) (context : FilterContext) :
    engine.filterWith .plain context = engine.filter context := by
  rw [filterWith, filter, run]
  cases engine.component.ensureUsable with
  | error cause => rfl
  | ok usable =>
    rw [applyPolicies_plain]
    rfl

end AttributeRelease
