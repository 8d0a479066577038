import AttributeRelease.Dictionary
import AttributeRelease.Number.Double
import AttributeRelease.Number.Word

/-! JSON values. Integers and other numbers are told apart, and the fields of an object are
kept in the order of their names. -/

namespace AttributeRelease

inductive Json where
  | null
  | bool (value : Bool)
  | integer (value : Int)
  | number (value : Double)
  | string (value : String)
  | array (items : List Json)
  | object (fields : List (String × Json))

namespace Json

instance : Inhabited Json := ⟨.null⟩

mutual
/-- Equality of values. It compares numbers as numbers, so that both zeros are equal. -/
def same : Json → Json → Bool
  | .null, .null => true
  | .bool left, .bool right => left == right
  | .integer left, .integer right => left == right
  | .number left, .number right => left.same right
  | .string left, .string right => left == right
  | .array left, .array right => sameItems left right
  | .object left, .object right => sameFields left right
  | _, _ => false

def sameItems : List Json → List Json → Bool
  | [], [] => true
  | left :: lefts, right :: rights => left.same right && sameItems lefts rights
  | _, _ => false

def sameFields : List (String × Json) → List (String × Json) → Bool
  | [], [] => true
  | (leftName, left) :: lefts, (rightName, right) :: rights =>
    leftName == rightName && left.same right && sameFields lefts rights
  | _, _ => false
end

/-- The object with the given fields. Of several fields of one name the last counts. -/
def ofFields (fields : List (String × Json)) : Json :=
  .object (fields.foldl (fun sorted field => Dictionary.put field.1 field.2 sorted) [])

def strings (texts : List String) : Json := .array (texts.map .string)

def ofOption {α : Type} (encode : α → Json) : Option α → Json
  | none => .null
  | some value => encode value

/-- Integers within the range of 64 bits are kept as such; JSON knows no larger ones. -/
def isExactInteger (value : Int) : Bool := isSignedWord value || isUnsignedWord value

def string? : Json → Option String
  | .string value => some value
  | _ => none

def bool? : Json → Option Bool
  | .bool value => some value
  | _ => none

def integer? : Json → Option Int
  | .integer value => some value
  | _ => none

/-- An integer from zero to the largest one of 64 bits. -/
def natural? (json : Json) : Option Nat := do
  let value ← json.integer?
  if isUnsignedWord value then some value.toNat else none

def byte? (json : Json) : Option UInt8 := do
  let value ← json.natural?
  if value < 256 then some value.toUInt8 else none

def items? : Json → Option (List Json)
  | .array items => some items
  | _ => none

def fields? : Json → Option (List (String × Json))
  | .object fields => some fields
  | _ => none

def strings? (json : Json) : Option (List String) := do
  (← json.items?).mapM string?

/-- The named field of an object, if it has one. -/
def field? (json : Json) (name : String) : Option Json := do
  (← json.fields?).lookup name

/-- A field that has to be there. -/
def required {α : Type} (json : Json) (name : String) (read : Json → Option α) : Option α := do
  read (← json.field? name)

/-- A field that may be left out, and then has a default value. Null does not stand for it. -/
def defaulted {α : Type} (json : Json) (name : String) (default : α) (read : Json → Option α) :
    Option α :=
  match json.field? name with
  | none => some default
  | some value => read value

/-- A field that may be left out or null. -/
def optional {α : Type} (json : Json) (name : String) (read : Json → Option α) :
    Option (Option α) :=
  match json.field? name with
  | none => some none
  | some .null => some none
  | some value => (read value).map some

/-- A record is an object, or the array of its first fields in the order of `names`. -/
def record? (names : List String) : Json → Option Json
  | .object fields => some (.object fields)
  | .array items => if items.length ≤ names.length then some (.ofFields (names.zip items)) else none
  | _ => none

/-- The type of a case together with its fields. A case is an object with the field `type`, or the array
of its type and its first fields in the order of `names`. -/
def typed? (names : String → List String) : Json → Option (String × Json)
  | .object fields => do
    let type ← (← fields.lookup "type").string?
    return (type, .object fields)
  | .array (.string type :: items) =>
    if items.length ≤ (names type).length then some (type, .ofFields ((names type).zip items))
    else none
  | _ => none

/-- The name of a case without content: a string, or an object whose only field has that name
and is null. -/
def caseName? : Json → Option String
  | .string name => some name
  | .object [(name, .null)] => some name
  | _ => none

end Json

end AttributeRelease
