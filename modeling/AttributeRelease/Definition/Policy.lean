import AttributeRelease.Definition.Rule
import AttributeRelease.Policy.AttributeRule

/-! Descriptions of attribute rules and policies. -/

namespace AttributeRelease

namespace Effect

def toJson : Effect → Json
  | .permit => .string "permit"
  | .deny => .string "deny"

def ofJson? (json : Json) : Option Effect := do
  match ← json.caseName? with
  | "permit" => some .permit
  | "deny" => some .deny
  | _ => none

end Effect

structure AttributeRuleDefinition where
  id : Option String := none
  attributeId : String
  effect : Effect := .permit
  matcher : MatcherDefinition

namespace AttributeRuleDefinition

def toJson (definition : AttributeRuleDefinition) : Json :=
  .ofFields ((definition.id.map fun id => ("id", Json.string id)).toList ++
    [("attributeId", .string definition.attributeId), ("effect", definition.effect.toJson),
      ("matcher", definition.matcher.toJson)])

def ofJson? (json : Json) : Option AttributeRuleDefinition := do
  let json ← json.record? ["id", "attributeId", "effect", "matcher"]
  return {
    id := ← json.optional "id" Json.string?
    attributeId := ← json.required "attributeId" Json.string?
    effect := ← json.defaulted "effect" .permit Effect.ofJson?
    matcher := ← json.required "matcher" MatcherDefinition.ofJson? }

end AttributeRuleDefinition

structure PolicyDefinition where
  id : String
  activation : RuleDefinition
  rules : List AttributeRuleDefinition := []

namespace PolicyDefinition

def toJson (definition : PolicyDefinition) : Json :=
  .ofFields [("id", .string definition.id), ("activation", definition.activation.toJson),
    ("rules", .array (definition.rules.map AttributeRuleDefinition.toJson))]

def ofJson? (json : Json) : Option PolicyDefinition := do
  let json ← json.record? ["id", "activation", "rules"]
  return {
    id := ← json.required "id" Json.string?
    activation := ← json.required "activation" RuleDefinition.ofJson?
    rules := ← json.defaulted "rules" [] fun rules => do
      (← rules.items?).mapM AttributeRuleDefinition.ofJson? }

end PolicyDefinition

end AttributeRelease
