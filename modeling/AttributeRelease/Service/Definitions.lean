import AttributeRelease.Definition.Builder
import AttributeRelease.Service.Settings
import AttributeRelease.Transcoding.Catalog
import AttributeRelease.Transcoding.Registry

/-! Descriptions of all that a service runs. -/

namespace AttributeRelease

structure ReleaseDefinitions where
  engineId : String := "release"
  policies : List PolicyDefinition := []
  transcoding : List TranscodingRuleDefinition := []

namespace ReleaseDefinitions

instance : Inhabited ReleaseDefinitions := ⟨{}⟩

def toJson (definitions : ReleaseDefinitions) : Json :=
  .ofFields [("engineId", .string definitions.engineId),
    ("policies", .array (definitions.policies.map PolicyDefinition.toJson)),
    ("transcoding", .array (definitions.transcoding.map TranscodingRuleDefinition.toJson))]

def ofJson? (json : Json) : Option ReleaseDefinitions := do
  let json ← json.record? ["engineId", "policies", "transcoding"]
  return {
    engineId := ← json.defaulted "engineId" "release" Json.string?
    policies := ← json.defaulted "policies" [] fun policies => do
      (← policies.items?).mapM PolicyDefinition.ofJson?
    transcoding := ← json.defaulted "transcoding" [] fun rules => do
      (← rules.items?).mapM TranscodingRuleDefinition.ofJson? }

/-- An initialised engine and a registry, by the first error in policies or else in transcoding
rules. -/
def build [PatternLanguage] [ScriptLanguage] (definitions : ReleaseDefinitions) (settings : ReleaseSettings) (catalog : Catalog)
    (types : List TypeInfo) : Except ConfigError (Engine × Registry) := do
  let engine ← (Builder.ofSettings settings.script).engine definitions.engineId definitions.policies
  let rules ← catalog.buildRules definitions.transcoding
  let registry ← Registry.build (types.foldl TypeInfos.register []) rules
  return (engine, registry)

end ReleaseDefinitions

/-- A condition that holds where a rule does. The rule sees the facts of the request and no
attributes. -/
def ActivationCondition.ofRule [PatternLanguage] (id : String) (rule : Rule) :
    Except ConfigError ActivationCondition := do
  let started ← rule.initialise.finished
  return { id, test := fun facts => (started.evaluate (.ofAttributes facts [])).isYes }

end AttributeRelease
