import AttributeRelease.Json.Basic

/-! The kinds of object that attributes are exchanged as. -/

namespace AttributeRelease

/-- A named JSON value. -/
structure Claim where
  name : String
  value : Json

namespace Claim

instance : Inhabited Claim := ⟨⟨"", .null⟩⟩

def toJson (claim : Claim) : Json :=
  .ofFields [("name", .string claim.name), ("value", claim.value)]

def ofJson? (json : Json) : Option Claim := do
  let json ← json.record? ["name", "value"]
  return { name := ← json.required "name" Json.string?, value := ← json.field? "value" }

end Claim

/-- Claims, and the types that an application brings along. -/
inductive WireType where
  | claim
  | foreign (name : String)
  deriving DecidableEq

namespace WireType

instance : Inhabited WireType := ⟨.claim⟩

def name : WireType → String
  | .claim => "Claim"
  | .foreign name => name

/-- Objects of a type. Those of an application are given in their JSON form. -/
abbrev Object : WireType → Type
  | .claim => Claim
  | .foreign _ => Json

end WireType

/-- How objects of a type are named. -/
structure TypeInfo where
  type : WireType
  naming : type.Object → Option String

namespace TypeInfo

/-- Claims by their names. -/
def claims : TypeInfo := ⟨.claim, fun claim => some claim.name⟩

/-- The name of an object, if it is of this type. An empty name is none. -/
def canonicalName? (info : TypeInfo) {type : WireType} (object : type.Object) : Option String :=
  if same : type = info.type then (info.naming (same ▸ object)).filter (· != "") else none

end TypeInfo

end AttributeRelease
