import AttributeRelease.ConfigError

/-! Why a value is not encoded, and why an object is not decoded. -/

namespace AttributeRelease

inductive EncodingError where
  | unsupportedValue (attributeId kind : String)
  | invalidProperty (name problem : String)
  | property (cause : ConfigError)

def EncodingError.message : EncodingError → String
  | .unsupportedValue attributeId kind =>
    s!"Cannot encode {kind} value of attribute '{attributeId}'"
  | .invalidProperty name problem => s!"Invalid transcoding property '{name}': {problem}"
  | .property cause => cause.message

inductive DecodingError where
  | malformed (name problem : String)
  | invalidProperty (name problem : String)
  | property (cause : ConfigError)
  /-- No rule decoded an object for which strict decoding was asked. -/
  | unmatched (name : String)

def DecodingError.message : DecodingError → String
  | .malformed name problem => s!"Malformed '{name}' object: {problem}"
  | .invalidProperty name problem => s!"Invalid transcoding property '{name}': {problem}"
  | .property cause => cause.message
  | .unmatched name => s!"No decoder produced a value for wire object '{name}'"

inductive TranscodingError where
  | configuration (cause : ConfigError)
  | encoding (cause : EncodingError)
  | decoding (cause : DecodingError)
  /-- A rule was found for a wire type that its transcoder does not have. -/
  | wireTypeMismatch (attributeId wireType : String)

def TranscodingError.message : TranscodingError → String
  | .configuration cause => s!"Transcoding configuration error: {cause.message}"
  | .encoding cause => cause.message
  | .decoding cause => cause.message
  | .wireTypeMismatch attributeId wireType =>
    s!"Rule for '{attributeId}' does not transcode {wireType}"

end AttributeRelease
