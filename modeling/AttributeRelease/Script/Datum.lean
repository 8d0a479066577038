import AttributeRelease.Json.Basic

/-! The values that scripts compute with. They are those of JSON, and single characters. -/

namespace AttributeRelease.Script

inductive Datum where
  | unit
  | bool (value : Bool)
  | integer (value : Int)
  /-- A double-precision number by its bits, infinities and NaN included. -/
  | float (bits : UInt64)
  | char (value : Char)
  | string (value : String)
  | array (items : List Datum)
  /-- A map keeps its entries in the order of their names. -/
  | map (entries : List (String × Datum))

namespace Datum

instance : Inhabited Datum := ⟨.unit⟩

mutual
def ofJson : Json → Datum
  | .null => .unit
  | .bool value => .bool value
  | .integer value => .integer value
  | .number value => .float value.bits
  | .string value => .string value
  | .array items => .array (ofItems items)
  | .object fields => .map (ofFields fields)

def ofItems : List Json → List Datum
  | [] => []
  | item :: rest => ofJson item :: ofItems rest

def ofFields : List (String × Json) → List (String × Datum)
  | [] => []
  | (name, value) :: rest => (name, ofJson value) :: ofFields rest
end

mutual
/-- Numbers that are not finite have no JSON form and become null. -/
def toJson : Datum → Json
  | .unit => .null
  | .bool value => .bool value
  | .integer value => .integer value
  | .float bits => .ofOption .number (Double.ofBits? bits)
  | .char value => .string (.singleton value)
  | .string value => .string value
  | .array items => .array (itemsJson items)
  | .map entries => .object (entriesJson entries)

def itemsJson : List Datum → List Json
  | [] => []
  | item :: rest => item.toJson :: itemsJson rest

def entriesJson : List (String × Datum) → List (String × Json)
  | [] => []
  | (name, value) :: rest => (name, value.toJson) :: entriesJson rest
end

def ofString? : Option String → Datum
  | none => .unit
  | some value => .string value

/-- The characters of a string or of a single character. -/
def chars? : Datum → Option (List Char)
  | .string value => some value.toList
  | .char value => some [value]
  | _ => none

end Datum

end AttributeRelease.Script
