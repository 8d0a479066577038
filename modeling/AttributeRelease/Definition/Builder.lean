import AttributeRelease.Definition.Policy
import AttributeRelease.Engine.Basic
import AttributeRelease.Script.Interpreter

/-! Rules, matchers, policies and engines from their descriptions. -/

namespace AttributeRelease

variable [PatternLanguage]

/-- A builder without an evaluator refuses scripts. -/
structure Builder where
  evaluator? : Option Evaluator := none

namespace Builder

instance : Inhabited Builder := ⟨{}⟩

/-- Scripts are evaluated within the settings, if these enable them. -/
def ofSettings [ScriptLanguage] (settings : ScriptSettings) : Builder :=
  { evaluator? := if settings.enabled then some (Interpreter.evaluator { settings }) else none }

def script (builder : Builder) (expression : String) (custom : Option Json) : Except ConfigError Script :=
  match builder.evaluator? with
  | some evaluator => .ok { expression, evaluator, custom }
  | none => .error (.missing .evaluator)

mutual
/-- The rule of a description, still to be initialised. -/
def rule (builder : Builder) : RuleDefinition → Except ConfigError Rule
  | .any => .ok .always
  | .fixed outcome => .ok (.fixed outcome)
  | .condition tested => do return .ofLeaf (.ofCondition (← tested.build))
  | .and definitions => do return .allOf (← builder.rules definitions)
  | .or definitions => do return .anyOf (← builder.rules definitions)
  | .not definition => do return .negation (← builder.rule definition)
  | .script expression custom => do
    return .ofLeaf (.ofScript (← builder.script expression custom))
  | .attributeMatches attributeId definition => do
    return .ofMatcher attributeId (← builder.matcher definition)

def rules (builder : Builder) : List RuleDefinition → Except ConfigError (List Rule)
  | [] => .ok []
  | definition :: rest => do
    let first ← builder.rule definition
    return first :: (← builder.rules rest)

/-- The matcher of a description, still to be initialised. -/
def matcher (builder : Builder) : MatcherDefinition → Except ConfigError Matcher
  | .condition tested => do return .ofCondition (← tested.build)
  | .fromRule definition => do return .ofRule (← builder.rule definition)
  | .script expression custom => do
    return .ofLeaf (.ofScript (← builder.script expression custom))
  | .and definitions => do return .allOf (← builder.matchers definitions)
  | .or definitions => do return .anyOf (← builder.matchers definitions)
  | .not definition => do return .negation (← builder.matcher definition)

def matchers (builder : Builder) : List MatcherDefinition → Except ConfigError (List Matcher)
  | [] => .ok []
  | definition :: rest => do
    let first ← builder.matcher definition
    return first :: (← builder.matchers rest)
end

def attributeRule (builder : Builder) (definition : AttributeRuleDefinition) :
    Except ConfigError AttributeRule := do
  let matcher ← builder.matcher definition.matcher
  return {
    givenId := definition.id
    attributeId := definition.attributeId
    effect := definition.effect
    matcher }

/-- The policy of a description, still to be initialised. Its activation rule is named after
it. -/
def policy (builder : Builder) (definition : PolicyDefinition) : Except ConfigError Policy := do
  let activation ← builder.rule definition.activation
  let rules ← definition.rules.mapM builder.attributeRule
  return .named definition.id (activation.withId s!"{definition.id}/activation") rules

/-- An initialised engine with the described policies. -/
def engine (builder : Builder) (id : String) (definitions : List PolicyDefinition) :
    Except ConfigError Engine := do
  let policies ← definitions.mapM builder.policy
  (Engine.named id policies).initialise.finished

end Builder

end AttributeRelease
