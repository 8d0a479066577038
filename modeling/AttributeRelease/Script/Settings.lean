import AttributeRelease.ConfigError
import AttributeRelease.Json.Basic

/-! The limits within which scripts run. -/

namespace AttributeRelease

/-- A limit of zero means that there is none. -/
structure ScriptSettings where
  enabled : Bool := true
  maxOperations : Nat := 10000
  maxCallLevels : Nat := 32
  /-- How deep expressions nest. -/
  maxExprDepth : Nat := 64
  /-- Size of strings in bytes. -/
  maxStringSize : Nat := 10000
  deriving DecidableEq

namespace ScriptSettings

instance : Inhabited ScriptSettings := ⟨{}⟩

/-- Scripts that are enabled need limits of their own. -/
def validate (settings : ScriptSettings) : Except ConfigError Unit :=
  if !settings.enabled then .ok ()
  else if settings.maxOperations = 0 then .error (.limitNotPositive "max_operations")
  else if settings.maxCallLevels = 0 then .error (.limitNotPositive "max_call_levels")
  else if settings.maxExprDepth = 0 then .error (.limitNotPositive "max_expr_depth")
  else .ok ()

def toJson (settings : ScriptSettings) : Json :=
  .ofFields [("enabled", .bool settings.enabled),
    ("max_operations", .integer settings.maxOperations),
    ("max_call_levels", .integer settings.maxCallLevels),
    ("max_expr_depth", .integer settings.maxExprDepth),
    ("max_string_size", .integer settings.maxStringSize)]

def ofJson? (json : Json) : Option ScriptSettings := do
  let json ← json.record?
    ["enabled", "max_operations", "max_call_levels", "max_expr_depth", "max_string_size"]
  return {
    enabled := ← json.defaulted "enabled" true Json.bool?
    maxOperations := ← json.defaulted "max_operations" 10000 Json.natural?
    maxCallLevels := ← json.defaulted "max_call_levels" 32 Json.natural?
    maxExprDepth := ← json.defaulted "max_expr_depth" 64 Json.natural?
    maxStringSize := ← json.defaulted "max_string_size" 10000 Json.natural? }

end ScriptSettings

end AttributeRelease
