import AttributeRelease.Proofs.Evaluation
import AttributeRelease.Proofs.Trees
import AttributeRelease.Script.Interpreter

/-! What rules and matchers depend on, if no predicate of an application is among them: the facts
and the attributes that they ask about. A matcher depends on the attribute it is for as well. -/

namespace AttributeRelease

/-- Of an attribute, scripts are told the id and nothing else. -/
def Evaluator.SeesOnlyIds (evaluator : Evaluator) : Prop :=
  ∀ expression bindings other, other.map Attribute.id = bindings.attr.map Attribute.id →
    evaluator.evaluate expression { bindings with attr := other } = evaluator.evaluate expression bindings

theorem Interpreter.seesOnlyIds [ScriptLanguage] (interpreter : Interpreter) (number : Nat) :
    (interpreter.evaluator number).SeesOnlyIds := by
  intro expression bindings other same
  have told : (other.map fun attr => ("attribute_id", Script.Datum.string attr.id)) =
      bindings.attr.map fun attr => ("attribute_id", Script.Datum.string attr.id) := by
    have paired := congrArg (Option.map fun id => ("attribute_id", Script.Datum.string id)) same
    rwa [Option.map_map, Option.map_map] at paired
  have scope : { bindings with attr := other }.scope = bindings.scope := by
    rw [ScriptBindings.scope, ScriptBindings.scope, told]
  simp only [Interpreter.evaluator, evaluate, run, scope]

/-- Two requests have the same facts and do not differ in some of their attributes. -/
structure Request.Agree (ids : List String) (before after : Request) : Prop where
  facts : after.facts = before.facts
  attributes : ∀ id ∈ ids, after.attribute? id = before.attribute? id

theorem Request.Agree.mono {ids fewer : List String} {before after : Request} (agree : Agree ids before after)
    (fewerIds : ∀ id ∈ fewer, id ∈ ids) : Agree fewer before after :=
  ⟨agree.facts, fun id member => agree.attributes id (fewerIds id member)⟩

variable [PatternLanguage]

def RuleLeaf.IsOurs : RuleLeaf → Prop
  | .ofPredicate _ => False
  | .fixed _ | .ofCondition _ | .ofScript _ => True

def MatcherLeaf.IsOurs : MatcherLeaf → Prop
  | .ofPredicate _ => False
  | .ofCondition _ => True
  | .ofScript script => script.evaluator.SeesOnlyIds

/-- No rule or matcher of the engine is a predicate of an application, and its scripts see what the
bundled runtime shows them. -/
def Engine.WithoutPredicates (engine : Engine) : Prop := engine.Each RuleLeaf.IsOurs MatcherLeaf.IsOurs

mutual
/-- The ids of the attributes that a rule asks about. -/
def Rule.matchedIds : Rule → List String
  | .atom _ _ => []
  | .and _ children => idsOfRules children
  | .or _ children => idsOfRules children
  | .not _ child => child.matchedIds
  | .attributeMatches _ attributeId matcher => attributeId :: matcher.matchedIds

def idsOfRules : List Rule → List String
  | [] => []
  | rule :: rest => rule.matchedIds ++ idsOfRules rest

def Matcher.matchedIds : Matcher → List String
  | .atom _ _ => []
  | .fromRule _ rule => rule.matchedIds
  | .and _ children => idsOfMatchers children
  | .or _ children => idsOfMatchers children
  | .not _ child => child.matchedIds

def idsOfMatchers : List Matcher → List String
  | [] => []
  | matcher :: rest => matcher.matchedIds ++ idsOfMatchers rest
end

def Policy.matchedIds (policy : Policy) : List String :=
  policy.activation.matchedIds ++ policy.rules.flatMap fun rule => rule.matcher.matchedIds

/-- The ids of the attributes that some rule of the engine asks about, wherever it stands. -/
def Engine.matchedIds (engine : Engine) : List String := engine.policies.flatMap Policy.matchedIds

theorem mem_idsOfRules {rules : List Rule} {id : String} :
    id ∈ idsOfRules rules ↔ ∃ rule ∈ rules, id ∈ rule.matchedIds := by
  induction rules with
  | nil => simp [idsOfRules]
  | cons rule rest ih => simp [idsOfRules, ih]

theorem mem_idsOfMatchers {matchers : List Matcher} {id : String} :
    id ∈ idsOfMatchers matchers ↔ ∃ matcher ∈ matchers, id ∈ matcher.matchedIds := by
  induction matchers with
  | nil => simp [idsOfMatchers]
  | cons matcher rest ih => simp [idsOfMatchers, ih]

theorem Engine.mem_matchedIds {engine : Engine} {id : String} :
    id ∈ engine.matchedIds ↔ ∃ policy ∈ engine.policies,
      id ∈ policy.activation.matchedIds ∨ ∃ rule ∈ policy.rules, id ∈ rule.matcher.matchedIds := by
  simp [matchedIds, Policy.matchedIds]

variable {before after : Request}

theorem RuleLeaf.evaluate_agree {leaf : RuleLeaf} (ours : leaf.IsOurs) (facts : after.facts = before.facts) :
    leaf.evaluate after = leaf.evaluate before := by
  cases leaf with
  | fixed outcome => rfl
  | ofCondition condition => exact congrArg condition.evaluate facts
  | ofPredicate predicate => cases ours
  | ofScript script =>
    simp only [evaluate, run, facts]

/-- Whether a leaf selects a value is the same for all attributes of one id. -/
theorem MatcherLeaf.answer_agree {leaf : MatcherLeaf} (ours : leaf.IsOurs) (facts : after.facts = before.facts)
    {first second : Attribute} (same : second.id = first.id) : leaf.answer after second = leaf.answer before first := by
  cases leaf with
  | ofCondition condition => rfl
  | ofPredicate predicate => cases ours
  | ofScript script =>
    funext value
    have told : script.evaluateValue after.facts second value = script.evaluateValue before.facts first value := by
      rw [facts]
      exact ours _ { facts := before.facts, custom := script.custom, attr := some first, value := some value } _
        (congrArg some same)
    simp only [answer, accepts, told]

/-- Rules and matchers that ask about nothing in which two requests differ cannot tell them
apart. -/
theorem evaluate_and_select_agree :
    (∀ rule : Rule, rule.Each RuleLeaf.IsOurs MatcherLeaf.IsOurs → Request.Agree rule.matchedIds before after →
      rule.evaluate after = rule.evaluate before) ∧
    ∀ matcher : Matcher, matcher.Each RuleLeaf.IsOurs MatcherLeaf.IsOurs →
      Request.Agree matcher.matchedIds before after → ∀ attr, matcher.select after attr = matcher.select before attr := by
  refine tree_induction _ _ ?ruleAtom ?ruleAnd ?ruleOr ?ruleNot ?attributeMatches ?matcherAtom ?fromRule ?matcherAnd
    ?matcherOr ?matcherNot
  case ruleAtom =>
    intro component leaf ours agree
    rw [Rule.evaluate_atom, Rule.evaluate_atom, leaf.evaluate_agree ours agree.facts]
  case ruleAnd | ruleOr =>
    intro component children ih ours agree
    have same : children.map (Rule.evaluate · after) = children.map (Rule.evaluate · before) := by
      refine List.map_congr_left fun child member => ?_
      refine ih child member (eachRule_iff.mp ours child member) (agree.mono fun id asked => ?_)
      exact mem_idsOfRules.mpr ⟨child, member, asked⟩
    simp only [Rule.evaluate_and, Rule.evaluate_or, same]
  case ruleNot =>
    intro component child ih ours agree
    rw [Rule.evaluate_not, Rule.evaluate_not, ih ours agree]
  case attributeMatches =>
    intro component attributeId matcher ih ours agree
    have found := agree.attributes attributeId (List.mem_cons_self ..)
    have same := ih ours (agree.mono fun id asked => List.mem_cons_of_mem _ asked)
    simp only [Rule.evaluate_attributeMatches, found, same]
  case matcherAtom =>
    intro component leaf ours agree attr
    rw [Matcher.select_atom, Matcher.select_atom, leaf.answer_agree ours agree.facts rfl]
  case fromRule =>
    intro component rule ih ours agree attr
    rw [Matcher.select_fromRule, Matcher.select_fromRule, ih ours agree]
  case matcherAnd | matcherOr =>
    intro component children ih ours agree attr
    have same : children.map (Matcher.select · after attr) = children.map (Matcher.select · before attr) := by
      refine List.map_congr_left fun child member => ?_
      refine ih child member (eachMatcher_iff.mp ours child member) (agree.mono fun id asked => ?_) attr
      exact mem_idsOfMatchers.mpr ⟨child, member, asked⟩
    simp only [Matcher.select_and, Matcher.select_or, same]
  case matcherNot =>
    intro component child ih ours agree attr
    rw [Matcher.select_not, Matcher.select_not, List.map_singleton, List.map_singleton, ih ours agree]

end AttributeRelease
