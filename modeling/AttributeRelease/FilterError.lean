import AttributeRelease.ConfigError

/-! Why filtering is given up. -/

namespace AttributeRelease

inductive FilterError where
  | configuration (cause : ConfigError)
  /-- A predicate or a script gave no answer for a value. -/
  | predicate (matcher attributeId message : String)

def FilterError.message : FilterError → String
  | .configuration cause => s!"Filter configuration error: {cause.message}"
  | .predicate matcher attributeId message =>
    s!"Matcher '{matcher}' failed on attribute '{attributeId}': {message}"

end AttributeRelease
