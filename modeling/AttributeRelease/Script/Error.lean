/-! Why a script gives no result. -/

namespace AttributeRelease

inductive ScriptError where
  /-- The text is not an expression of the language. -/
  | compilation (problem : String)
  /-- The expression has no value under the bindings, or exceeds a limit. -/
  | execution (problem : String)
  | disabled
  deriving DecidableEq

def ScriptError.message : ScriptError → String
  | .compilation problem => s!"Script compilation failed: {problem}"
  | .execution problem => s!"Script execution failed: {problem}"
  | .disabled => "Scripting is disabled"

end AttributeRelease
