import AttributeRelease.Transcoding.Rule

/-! The rules of a release, found by the id of an attribute for encoding and by the name of an
object for decoding. -/

namespace AttributeRelease

/-- The types that are known. A type is registered once; to register it again replaces it. -/
abbrev TypeInfos := List TypeInfo

namespace TypeInfos

def register (types : TypeInfos) (info : TypeInfo) : TypeInfos :=
  info :: types.filter (·.type != info.type)

def isRegistered (types : TypeInfos) (type : WireType) : Bool := types.any (·.type == type)

/-- The name of an object, if its type is known and names it. -/
def canonicalName? (types : TypeInfos) {type : WireType} (object : type.Object) : Option String :=
  types.findSome? (·.canonicalName? object)

end TypeInfos

structure Registry where
  types : TypeInfos := []
  /-- Rules by the ids of their attributes. -/
  byAttribute : Dictionary (List TranscodingRule) := ∅
  /-- Rules by the names of the objects that they decode. -/
  byName : Dictionary (List TranscodingRule) := ∅
  ruleCount : Nat := 0

namespace Registry

instance : Inhabited Registry := ⟨{}⟩

/-- Whether a rule can be registered. -/
def checkRule (types : TypeInfos) (rule : TranscodingRule) : Except ConfigError Unit :=
  if rule.attributeId?.isNone then
    .error (.missing (.attributeIdOfTranscoding rule.properties.text))
  else if types.isRegistered rule.type then .ok ()
  else .error (.unregisteredType rule.type.name)

/-- The rules without later copies of earlier ones. -/
def distinctRules (kept : List TranscodingRule) : List TranscodingRule → List TranscodingRule
  | [] => kept.reverse
  | rule :: rest =>
    if kept.any rule.same then distinctRules kept rest else distinctRules (rule :: kept) rest

/-- Adds a rule after those of the same key. -/
def addRule (index : Dictionary (List TranscodingRule)) (key : Option String)
    (rule : TranscodingRule) : Dictionary (List TranscodingRule) :=
  match key with
  | none => index
  | some key => index.insert key ((index.get? key).getD [] ++ [rule])

/-- Rules in their order under the keys that they have. -/
def indexBy (key : TranscodingRule → Option String) (rules : List TranscodingRule) :
    Dictionary (List TranscodingRule) :=
  rules.foldl (fun index rule => addRule index (key rule) rule) ∅

/-- A registry of the given types and rules, each rule once. -/
def build (types : TypeInfos) (rules : List TranscodingRule) : Except ConfigError Registry := do
  rules.forM (checkRule types)
  let distinct := distinctRules [] rules
  return {
    types
    byAttribute := indexBy TranscodingRule.attributeId? distinct
    byName := indexBy TranscodingRule.encodedName? distinct
    ruleCount := distinct.length }

def isEmpty (registry : Registry) : Bool := registry.ruleCount == 0

def isRegistered (registry : Registry) (type : WireType) : Bool := registry.types.isRegistered type

def canonicalName? (registry : Registry) {type : WireType} (object : type.Object) : Option String :=
  registry.types.canonicalName? object

private def find (index : Dictionary (List TranscodingRule)) (key : String) (type : WireType) :
    List TranscodingRule :=
  ((index.get? key).getD []).filter (·.type == type)

/-- The rules that encode an attribute as objects of a type. -/
def encoders (registry : Registry) (type : WireType) (attr : Attribute) : List TranscodingRule :=
  if registry.isRegistered type then find registry.byAttribute attr.id type else []

/-- The rules that decode an object. -/
def decoders (registry : Registry) {type : WireType} (object : type.Object) :
    List TranscodingRule :=
  match registry.canonicalName? object with
  | none => []
  | some name => find registry.byName name type

end Registry

end AttributeRelease
