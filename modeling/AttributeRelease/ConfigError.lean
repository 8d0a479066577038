import AttributeRelease.Script.Error

/-! Causes for which a configuration is refused. -/

namespace AttributeRelease

/-- The two kinds of tree that a configuration is made of. -/
inductive TreeKind where
  | rule
  | matcher
  deriving DecidableEq

def TreeKind.name : TreeKind → String
  | .rule => "rule"
  | .matcher => "matcher"

/-- Something that a configuration has to give and does not. -/
inductive MissingPart where
  | attributeId
  | attributeIdOfRule (ruleId : String)
  | policyId
  | evaluator
  | transcodingProperty (name : String)
  | activationCondition (id : String)
  /-- The rule is named by the text of its properties. -/
  | attributeIdOfTranscoding (properties : String)
  deriving DecidableEq

def MissingPart.name : MissingPart → String
  | .attributeId => "attribute id"
  | .attributeIdOfRule ruleId => s!"attribute rule '{ruleId}' has no attribute id"
  | .policyId => "policy id"
  | .evaluator => "expression evaluator for scripted component"
  | .transcodingProperty name => s!"transcoding property '{name}'"
  | .activationCondition id => s!"activation condition '{id}'"
  | .attributeIdOfTranscoding properties => s!"attribute id on transcoding rule {properties}"

inductive ConfigError where
  /-- Only conjunctions and disjunctions take further children. -/
  | takesNoChildren (tree : TreeKind) (id kind : String)
  | scriptRejected (component : String) (cause : ScriptError)
  | limitNotPositive (limit : String)
  | unknownTranscoder (name : String)
  /-- The property that names an activation condition is not a string. -/
  | conditionNotNamed (property : String)
  | missing (part : MissingPart)
  | emptyComposition (component : String)
  | immutable (component : String)
  | notInitialised (component : String)
  | destroyed (component : String)
  | invalidPattern (pattern problem : String)
  | unregisteredType (wireType : String)
  | duplicateRule (ruleId policyId : String)
  | duplicatePolicy (policyId engineId : String)
  /-- Policies by id, each with the reason why it was refused. -/
  | invalidPolicies (refused : List (String × ConfigError))

instance : Inhabited ConfigError := ⟨.missing .attributeId⟩

def ConfigError.message : ConfigError → String
  | .takesNoChildren tree id kind =>
    s!"Invalid configuration value: {tree.name} '{id}' of kind '{kind}' does not accept children"
  | .scriptRejected component cause =>
    s!"Invalid configuration value: script in '{component}': {cause.message}"
  | .limitNotPositive limit =>
    s!"Invalid configuration value: script.{limit} must be greater than 0"
  | .unknownTranscoder name => s!"Invalid configuration value: unknown transcoder '{name}'"
  | .conditionNotNamed property =>
    s!"Invalid configuration value: '{property}' must name a registered condition"
  | .missing part => s!"Missing required configuration: {part.name}"
  | .emptyComposition component => s!"Composite '{component}' requires at least one child"
  | .immutable component =>
    s!"Component '{component}' is initialized and can no longer be modified"
  | .notInitialised component => s!"Component '{component}' has not been initialized"
  | .destroyed component => s!"Component '{component}' has been destroyed"
  | .invalidPattern pattern problem => s!"Invalid pattern '{pattern}': {problem}"
  | .unregisteredType wireType => s!"No type information registered for wire type {wireType}"
  | .duplicateRule ruleId policyId =>
    s!"Duplicate identifier: attribute rule '{ruleId}' in policy '{policyId}'"
  | .duplicatePolicy policyId engineId =>
    s!"Duplicate identifier: policy '{policyId}' in engine '{engineId}'"
  | .invalidPolicies refused => "Invalid policies: " ++ ", ".intercalate (refused.map Prod.fst)

end AttributeRelease
