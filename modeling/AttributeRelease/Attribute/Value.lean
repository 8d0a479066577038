/-! Typed attribute values. -/

namespace AttributeRelease

/-- What an empty value was at its source. -/
inductive EmptyKind where
  | null
  | zeroLength
  deriving DecidableEq

inductive Value where
  | string (value : String)
  /-- A value that holds within a security domain. -/
  | scoped (value scope : String)
  /-- A text in the language of a BCP 47 tag. -/
  | localised (value locale : String)
  | binary (data : List UInt8)
  | empty (kind : EmptyKind)
  /-- A value of a kind that is passed on without being understood. -/
  | uninterpreted (kind data : String)
  deriving DecidableEq

namespace Value

instance : Inhabited Value := ⟨.empty .null⟩

/-- The string that conditions on values compare. A scoped value gives its unscoped part. -/
def display? : Value → Option String
  | .string value => some value
  | .scoped value _ => some value
  | .localised value _ => some value
  | _ => none

def scope? : Value → Option String
  | .scoped _ scope => some scope
  | _ => none

def kindName : Value → String
  | .string _ => "string"
  | .scoped _ _ => "scoped"
  | .localised _ _ => "localized"
  | .binary _ => "binary"
  | .empty _ => "empty"
  | .uninterpreted _ _ => "opaque"

/-- The text of a value in diagnostics. -/
def text : Value → String
  | .string value => value
  | .scoped value scope => s!"{value}@{scope}"
  | .localised value locale => s!"{value} [{locale}]"
  | .binary data => s!"<{data.length} bytes>"
  | .empty .null => "<null>"
  | .empty .zeroLength => "<empty>"
  | .uninterpreted kind _ => s!"<{kind}>"

end Value

end AttributeRelease
