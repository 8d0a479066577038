import AttributeRelease.Text.Split
import AttributeRelease.Transcoding.Base64
import AttributeRelease.Transcoding.Rule

/-! Transcoders for claims. The name of a claim is the name in the properties of its rule. -/

namespace AttributeRelease

namespace Properties

/-- What stands between the value and the scope of a scoped value. -/
def delimiter (properties : Properties) : String :=
  ((properties.string? scopeDelimiter).filter (· != "")).getD "@"

/-- How bytes are written. -/
def alphabet (properties : Properties) : Except String Base64 :=
  match properties.string? encodeType with
  | none => .ok .standard
  | some "base64" => .ok .standard
  | some "base64url" => .ok .urlSafe
  | some other => .error s!"unsupported binary encoding '{other}'"

def claimName (properties : Properties) : Except EncodingError String :=
  match properties.require name with
  | .ok name => .ok name
  | .error cause => .error (.property cause)

end Properties

namespace Claim

/-- A claim whose value is a string. -/
def ofText (name text : String) : Claim := ⟨name, .string text⟩

private def unsupported {α : Type} (attr : Attribute) (value : Value) : Except EncodingError α :=
  .error (.unsupportedValue attr.id value.kindName)

/-- The text of a scoped value. -/
def scopedText (properties : Properties) (value scope : String) : String :=
  value ++ properties.delimiter ++ scope

/-- Strings, also those with a scope or a language, as strings. -/
def stringTranscoder : TypedTranscoder .claim where
  name := "string-claim"
  canEncode _ value :=
    match value with
    | .string _ | .scoped _ _ | .localised _ _ => true
    | _ => false
  encode _ attr properties value := do
    let name ← properties.claimName
    match value with
    | .string text => return ofText name text
    | .scoped text scope => return ofText name (scopedText properties text scope)
    | .localised text _ => return ofText name text
    | _ => unsupported attr value
  decode _ claim _ := .ok (claim.value.string?.map .string)
  encodedName properties := properties.string? Properties.name

/-- Scoped values as strings. The scope begins after the last delimiter. -/
def scopedTranscoder : TypedTranscoder .claim where
  name := "scoped-claim"
  canEncode _ value :=
    match value with
    | .scoped _ _ => true
    | _ => false
  encode _ attr properties value := do
    let name ← properties.claimName
    match value with
    | .scoped text scope => return ofText name (scopedText properties text scope)
    | _ => unsupported attr value
  decode _ claim properties := .ok do
    let (value, scope) ← Text.splitLast? properties.delimiter (← claim.value.string?)
    if value != "" && scope != "" then some (.scoped value scope) else none
  encodedName properties := properties.string? Properties.name

/-- Bytes as strings of 64 characters. -/
def binaryTranscoder : TypedTranscoder .claim where
  name := "binary-claim"
  canEncode _ value :=
    match value with
    | .binary _ => true
    | _ => false
  encode _ attr properties value := do
    let name ← properties.claimName
    match properties.alphabet with
    | .error problem => .error (.invalidProperty Properties.encodeType problem)
    | .ok alphabet =>
      match value with
      | .binary data => return ofText name (alphabet.encode data)
      | _ => unsupported attr value
  decode _ claim properties :=
    match claim.value.string? with
    | none => .ok none
    | some text =>
      match properties.alphabet with
      | .error problem => .error (.invalidProperty Properties.encodeType problem)
      | .ok alphabet =>
        match alphabet.decode? text with
        | some data => .ok (some (.binary data))
        | none => .error (.malformed claim.name (alphabet.fault text).message)
  encodedName properties := properties.string? Properties.name

end Claim

end AttributeRelease
