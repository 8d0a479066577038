import AttributeRelease.Transcoding.Registry

/-! Encoding attributes and decoding objects by the rules of a registry. A value that is not
encoded, and an object that a rule does not decode, is passed over. -/

namespace AttributeRelease

namespace TranscodingRule

/-- The transcoder for objects of a type, which rules found for that type have. -/
def typed (rule : TranscodingRule) (type : WireType) (attributeId : String) :
    Except TranscodingError (TypedTranscoder type) :=
  match rule.transcoder.typed? type with
  | some typed => .ok typed
  | none => .error (.wireTypeMismatch attributeId type.name)

end TranscodingRule

/-- The objects for the values of an attribute that can be encoded, in the order of the values. -/
def TypedTranscoder.encodeValues {type : WireType} (transcoder : TypedTranscoder type)
    (properties : Properties) (facts : Facts) (attr : Attribute) : List type.Object :=
  attr.values.toList.filterMap fun value =>
    if transcoder.canEncode attr value then
      (transcoder.encode facts attr properties value).toOption
    else none

namespace Registry

/-- What a rule gives for an attribute. A rule that is not active gives nothing. -/
def encodeBy (type : WireType) (facts : Facts) (attr : Attribute) (rule : TranscodingRule) :
    Except TranscodingError (List type.Object) := do
  let transcoder ← rule.typed type attr.id
  return if rule.isActive facts then transcoder.encodeValues rule.properties facts attr else []

/-- What the first rule gives that gives anything. -/
def encodeFirstBy (type : WireType) (facts : Facts) (attr : Attribute) :
    List TranscodingRule → Except TranscodingError (List type.Object)
  | [] => .ok []
  | rule :: rest => do
    let objects ← encodeBy type facts attr rule
    if objects.isEmpty then encodeFirstBy type facts attr rest else .ok objects

def encodeFirst (registry : Registry) (type : WireType) (facts : Facts) (attr : Attribute) :
    Except TranscodingError (List type.Object) :=
  encodeFirstBy type facts attr (registry.encoders type attr)

/-- What all rules give, one after the other. -/
def encodeAll (registry : Registry) (type : WireType) (facts : Facts) (attr : Attribute) :
    Except TranscodingError (List type.Object) := do
  return (← (registry.encoders type attr).mapM (encodeBy type facts attr)).flatten

/-- Adds the value that a rule decodes to the attribute that the rule is for. -/
def decodeBy {type : WireType} (facts : Facts) (object : type.Object) (decoded : List Attribute)
    (rule : TranscodingRule) : Except TranscodingError (List Attribute) :=
  match rule.attributeId? with
  | none => .ok decoded
  | some attributeId => do
    let transcoder ← rule.typed type attributeId
    if rule.isActive facts then
      match transcoder.decode facts object rule.properties with
      | .ok (some value) =>
        return mergeAttribute { id := attributeId, values := .ofList [value] } decoded
      | _ => return decoded
    else return decoded

/-- The attributes that an object stands for. Strict decoding refuses an object that no rule
decodes. -/
def decode (registry : Registry) (facts : Facts) {type : WireType} (object : type.Object)
    (strict : Bool) : Except TranscodingError (List Attribute) := do
  let decoded ← (registry.decoders object).foldlM (decodeBy facts object) []
  if decoded.isEmpty && strict then
    .error (.decoding (.unmatched ((registry.canonicalName? object).getD "")))
  else return decoded

end Registry

end AttributeRelease
