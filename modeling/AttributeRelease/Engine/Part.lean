import AttributeRelease.Engine.Basic

/-! The parts of a configuration, whose lives are all alike. -/

namespace AttributeRelease

variable [PatternLanguage]

inductive Part where
  | rule (rule : Rule)
  | matcher (matcher : Matcher)
  | attributeRule (rule : AttributeRule)
  | policy (policy : Policy)
  | engine (engine : Engine)

namespace Part

instance : Inhabited Part := ⟨.engine default⟩

def kindName : Part → String
  | .rule _ => "rule"
  | .matcher _ => "matcher"
  | .attributeRule _ => "attributeRule"
  | .policy _ => "policy"
  | .engine _ => "engine"

def id : Part → String
  | .rule tree => tree.id
  | .matcher tree => tree.id
  | .attributeRule binding => binding.id
  | .policy group => group.id
  | .engine whole => whole.id

def isInitialised : Part → Bool
  | .rule tree => tree.component.isInitialised
  | .matcher tree => tree.component.isInitialised
  | .attributeRule binding => binding.isInitialised
  | .policy group => group.component.isInitialised
  | .engine whole => whole.component.isInitialised

def initialise : Part → Attempt Part
  | .rule tree => tree.initialise.map .rule
  | .matcher tree => tree.initialise.map .matcher
  | .attributeRule binding => binding.initialise.map .attributeRule
  | .policy group => group.initialise.map .policy
  | .engine whole => whole.initialise.map .engine

def validate : Part → Except ConfigError Unit
  | .rule tree => tree.validate
  | .matcher tree => tree.validate
  | .attributeRule binding => binding.validate
  | .policy group => group.validate
  | .engine whole => whole.validate

def destroy : Part → Part
  | .rule tree => .rule tree.destroy
  | .matcher tree => .matcher tree.destroy
  | .attributeRule binding => .attributeRule binding.destroy
  | .policy group => .policy group.destroy
  | .engine whole => .engine whole.destroy

/-- Gives a rule, a matcher or an attribute rule another id. The ids of policies and engines stay
what they are. -/
def withId? (part : Part) (id : String) : Option Part :=
  match part with
  | .rule tree => some (.rule (tree.withId id))
  | .matcher tree => some (.matcher (tree.withId id))
  | .attributeRule binding => some (.attributeRule { binding with givenId := some id })
  | .policy _ => none
  | .engine _ => none

end Part

end AttributeRelease
