import AttributeRelease.Attribute.Basic
import AttributeRelease.Json.Basic

/-! The JSON form of values and attributes. -/

namespace AttributeRelease

namespace Json

/-- An object whose fields are all strings. -/
def texts? (json : Json) : Option (Dictionary String) := do
  let entries ← (← json.fields?).mapM fun (name, value) => do return (name, ← value.string?)
  return .ofList entries

def ofTexts (texts : Dictionary String) : Json :=
  .object (texts.entries.map fun (name, value) => (name, .string value))

end Json

namespace EmptyKind

def name : EmptyKind → String
  | .null => "null"
  | .zeroLength => "zeroLength"

def ofJson? (json : Json) : Option EmptyKind := do
  match ← json.caseName? with
  | "null" => some .null
  | "zeroLength" => some .zeroLength
  | _ => none

end EmptyKind

namespace Value

/-- The field `type` tells the kinds of value apart. -/
def toJson : Value → Json
  | .string value => .ofFields [("type", .string "string"), ("value", .string value)]
  | .scoped value scope =>
    .ofFields [("type", .string "scoped"), ("value", .string value), ("scope", .string scope)]
  | .localised value locale =>
    .ofFields [("type", .string "localized"), ("value", .string value), ("locale", .string locale)]
  | .binary data =>
    .ofFields [("type", .string "binary"),
      ("data", .array (data.map fun byte => .integer byte.toNat))]
  | .empty kind => .ofFields [("type", .string "empty"), ("kind", .string kind.name)]
  | .uninterpreted kind data =>
    .ofFields [("type", .string "opaque"), ("kind", .string kind), ("data", .string data)]

/-- The fields of a kind of value. -/
def fieldNames : String → List String
  | "scoped" => ["value", "scope"]
  | "localized" => ["value", "locale"]
  | "binary" => ["data"]
  | "empty" => ["kind"]
  | "opaque" => ["kind", "data"]
  | _ => ["value"]

def ofJson? (json : Json) : Option Value := do
  let (type, json) ← json.typed? fieldNames
  match type with
  | "string" => return .string (← json.required "value" Json.string?)
  | "scoped" =>
    return .scoped (← json.required "value" Json.string?) (← json.required "scope" Json.string?)
  | "localized" =>
    return .localised (← json.required "value" Json.string?) (← json.required "locale" Json.string?)
  | "binary" =>
    return .binary (← json.required "data" fun data => do (← data.items?).mapM Json.byte?)
  | "empty" => return .empty (← json.required "kind" EmptyKind.ofJson?)
  | "opaque" =>
    return .uninterpreted (← json.required "kind" Json.string?)
      (← json.required "data" Json.string?)
  | _ => none

end Value

namespace ValueSet

def toJson (values : ValueSet) : Json := .array (values.toList.map Value.toJson)

def ofJson? (json : Json) : Option ValueSet := do
  return .ofList (← (← json.items?).mapM Value.ofJson?)

end ValueSet

namespace Attribute

/-- Empty display texts are left out. -/
def toJson (attr : Attribute) : Json :=
  let texts (name : String) (entries : Dictionary String) : List (String × Json) :=
    if entries.isEmpty then [] else [(name, .ofTexts entries)]
  .ofFields ([("id", .string attr.id)] ++ texts "displayNames" attr.displayNames ++
    texts "displayDescriptions" attr.displayDescriptions ++
    [("values", attr.values.toJson)])

/-- Reads an attribute. A blank id is let through here. -/
def ofJson? (json : Json) : Option Attribute := do
  let json ← json.record? ["id", "displayNames", "displayDescriptions", "values"]
  return {
    id := ← json.required "id" Json.string?
    displayNames := ← json.defaulted "displayNames" ∅ Json.texts?
    displayDescriptions := ← json.defaulted "displayDescriptions" ∅ Json.texts?
    values := ← json.defaulted "values" ∅ ValueSet.ofJson? }

end Attribute

end AttributeRelease
