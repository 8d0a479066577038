import AttributeRelease.Script.Settings

/-! Settings of a release service. -/

namespace AttributeRelease

structure ReleaseSettings where
  script : ScriptSettings := {}
  /-- Whether objects that no rule decodes are refused. -/
  strictDecode : Bool := false
  deriving DecidableEq

namespace ReleaseSettings

instance : Inhabited ReleaseSettings := ⟨{}⟩

def validate (settings : ReleaseSettings) : Except ConfigError Unit := settings.script.validate

def toJson (settings : ReleaseSettings) : Json :=
  .ofFields [("filter", .ofFields [("script", settings.script.toJson)]),
    ("transcoding", .ofFields [("strict_decode", .bool settings.strictDecode)])]

private def scriptOf? (json : Json) : Option ScriptSettings := do
  (← json.record? ["script"]).defaulted "script" {} ScriptSettings.ofJson?

private def strictOf? (json : Json) : Option Bool := do
  (← json.record? ["strict_decode"]).defaulted "strict_decode" false Json.bool?

def ofJson? (json : Json) : Option ReleaseSettings := do
  let json ← json.record? ["filter", "transcoding"]
  return {
    script := ← json.defaulted "filter" {} scriptOf?
    strictDecode := ← json.defaulted "transcoding" false strictOf? }

end ReleaseSettings

end AttributeRelease
