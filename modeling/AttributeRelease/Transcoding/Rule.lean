import AttributeRelease.Request.Basic
import AttributeRelease.Transcoding.Error
import AttributeRelease.Transcoding.Properties
import AttributeRelease.Transcoding.WireType

/-! Transcoding rules: which attribute is exchanged as which objects. -/

namespace AttributeRelease

/-- A condition under which a rule applies. Conditions of one id are taken to be the same. -/
structure ActivationCondition where
  id : String
  test : Facts → Bool

/-- A transcoder for objects of one type. Transcoders of one name are taken to be the same. -/
structure TypedTranscoder (type : WireType) where
  name : String
  /-- Whether a rule with this condition and these properties applies to a request. The condition alone decides
  that, unless the transcoder has more to say. -/
  applies : Facts → Option ActivationCondition → Properties → Bool := fun facts condition _ =>
    condition.all fun condition => condition.test facts
  /-- Whether values of this kind can be encoded at all. -/
  canEncode : Attribute → Value → Bool
  encode : Facts → Attribute → Properties → Value → Except EncodingError type.Object
  /-- An object that is not understood gives no value. -/
  decode : Facts → type.Object → Properties → Except DecodingError (Option Value)
  /-- The name of the objects that a rule with these properties encodes and decodes. -/
  encodedName : Properties → Option String

/-- A transcoder together with its type. -/
structure Transcoder where
  type : WireType
  typed : TypedTranscoder type

namespace Transcoder

/-- The transcoder for objects of a type, if it is of that type. -/
def typed? (transcoder : Transcoder) (type : WireType) : Option (TypedTranscoder type) :=
  if same : transcoder.type = type then some (same ▸ transcoder.typed) else none

def same (left right : Transcoder) : Bool :=
  left.type == right.type && left.typed.name == right.typed.name

end Transcoder

structure TranscodingRule where
  properties : Properties
  transcoder : Transcoder
  condition : Option ActivationCondition := none

namespace TranscodingRule

def same (left right : TranscodingRule) : Bool :=
  left.properties == right.properties && left.transcoder.same right.transcoder &&
    left.condition.map ActivationCondition.id == right.condition.map ActivationCondition.id

def type (rule : TranscodingRule) : WireType := rule.transcoder.type

/-- The attribute that the rule is for. A blank id is none. -/
def attributeId? (rule : TranscodingRule) : Option String :=
  (rule.properties.string? Properties.attributeId).filter fun id => !Text.isBlank id

/-- The name under which objects are decoded by this rule. An empty name is none. -/
def encodedName? (rule : TranscodingRule) : Option String :=
  (rule.transcoder.typed.encodedName rule.properties).filter (· != "")

/-- Whether the rule applies to a request. -/
def isActive (rule : TranscodingRule) (facts : Facts) : Bool :=
  rule.transcoder.typed.applies facts rule.condition rule.properties

end TranscodingRule

end AttributeRelease
