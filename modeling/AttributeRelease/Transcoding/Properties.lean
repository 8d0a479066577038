import AttributeRelease.ConfigError
import AttributeRelease.Json.Basic
import AttributeRelease.Text.Case
import AttributeRelease.Text.Quoted

/-! Properties of transcoding rules. -/

namespace AttributeRelease

inductive Property where
  | bool (value : Bool)
  | integer (value : Int)
  | string (value : String)
  | list (values : List String)
  deriving DecidableEq

namespace Property

def string? : Property → Option String
  | .string value => some value
  | _ => none

/-- A truth value, or the name of one in letters of any case. -/
def bool? : Property → Option Bool
  | .bool value => some value
  | .string value =>
    if Text.equalIgnoringAsciiCase value "true" then some true
    else if Text.equalIgnoringAsciiCase value "false" then some false
    else none
  | _ => none

def toJson : Property → Json
  | .bool value => .bool value
  | .integer value => .integer value
  | .string value => .string value
  | .list values => .strings values

/-- Integers have 64 bits and a sign. -/
def ofJson? : Json → Option Property
  | .bool value => some (.bool value)
  | .integer value =>
    if isSignedWord value then some (.integer value) else none
  | .string value => some (.string value)
  | .array items => (items.mapM Json.string?).map .list
  | _ => none

/-- The text of a property in diagnostics. -/
def text : Property → String
  | .bool value => if value then "Bool(true)" else "Bool(false)"
  | .integer value => s!"Integer({value})"
  | .string value => s!"String({Text.quoted value})"
  | .list values => "List([" ++ ", ".intercalate (values.map Text.quoted) ++ "])"

end Property

abbrev Properties := Dictionary Property

namespace Properties

/-- Properties with a meaning for all transcoders. -/
def attributeId : String := "id"
def name : String := "name"
def activationCondition : String := "activationCondition"

/-- Properties of the transcoders for claims. -/
def encodeType : String := "encodeType"
def scopeDelimiter : String := "scopeDelimiter"

def string? (properties : Properties) (name : String) : Option String :=
  (properties.get? name).bind Property.string?

def bool? (properties : Properties) (name : String) : Option Bool :=
  (properties.get? name).bind Property.bool?

/-- A string that has to be there and must not be empty. -/
def require (properties : Properties) (name : String) : Except ConfigError String :=
  match (properties.string? name).filter (· != "") with
  | some value => .ok value
  | none => .error (.missing (.transcodingProperty name))

def toFields (properties : Properties) : List (String × Json) :=
  properties.entries.map fun (name, property) => (name, property.toJson)

def toJson (properties : Properties) : Json := .object properties.toFields

def ofJson? (json : Json) : Option Properties := do
  let entries ← (← json.fields?).mapM fun (name, value) => do
    return (name, ← Property.ofJson? value)
  return .ofList entries

/-- The text of properties in diagnostics. -/
def text (properties : Properties) : String :=
  let entries := properties.entries.map fun (name, property) =>
    Text.quoted name ++ ": " ++ property.text
  "\x7b" ++ ", ".intercalate entries ++ "\x7d"

end Properties

end AttributeRelease
