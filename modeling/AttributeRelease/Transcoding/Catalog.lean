import AttributeRelease.Transcoding.Claims

/-! Descriptions of transcoding rules, and the transcoders and conditions that they refer to by
name. -/

namespace AttributeRelease

structure TranscodingRuleDefinition where
  transcoder : String
  properties : Properties := ∅

namespace TranscodingRuleDefinition

/-- The properties stand beside the name of the transcoder. -/
def toJson (definition : TranscodingRuleDefinition) : Json :=
  .ofFields (("transcoder", .string definition.transcoder) :: definition.properties.toFields)

def ofJson? (json : Json) : Option TranscodingRuleDefinition := do
  let transcoder ← json.required "transcoder" Json.string?
  let fields ← json.fields?
  let properties ← Properties.ofJson? (.object (fields.filter (·.1 != "transcoder")))
  return { transcoder, properties }

end TranscodingRuleDefinition

structure Catalog where
  transcoders : Dictionary Transcoder := ∅
  conditions : Dictionary ActivationCondition := ∅

namespace Catalog

instance : Inhabited Catalog := ⟨{}⟩

/-- A later registration under the same name wins. -/
def register (catalog : Catalog) (name : String) (transcoder : Transcoder) : Catalog :=
  { catalog with transcoders := catalog.transcoders.insert name transcoder }

def registerCondition (catalog : Catalog) (condition : ActivationCondition) : Catalog :=
  { catalog with conditions := catalog.conditions.insert condition.id condition }

/-- The transcoders for claims under their names. -/
def withClaims : Catalog :=
  [Claim.stringTranscoder, Claim.scopedTranscoder, Claim.binaryTranscoder].foldl
    (fun catalog typed => catalog.register typed.name ⟨.claim, typed⟩) {}

/-- The condition that properties name, if they name one. -/
def condition? (catalog : Catalog) (properties : Properties) :
    Except ConfigError (Option ActivationCondition) :=
  match properties.get? Properties.activationCondition with
  | none => .ok none
  | some (.string id) =>
    match catalog.conditions.get? id with
    | some condition => .ok (some condition)
    | none => .error (.missing (.activationCondition id))
  | some _ => .error (.conditionNotNamed Properties.activationCondition)

def buildRule (catalog : Catalog) (definition : TranscodingRuleDefinition) :
    Except ConfigError TranscodingRule := do
  match catalog.transcoders.get? definition.transcoder with
  | none => .error (.unknownTranscoder definition.transcoder)
  | some transcoder =>
    return {
      properties := definition.properties.erase Properties.activationCondition
      transcoder
      condition := ← catalog.condition? definition.properties }

/-- The rules of all descriptions, or the first error. -/
def buildRules (catalog : Catalog) (definitions : List TranscodingRuleDefinition) :
    Except ConfigError (List TranscodingRule) :=
  definitions.mapM catalog.buildRule

end Catalog

end AttributeRelease
