import AttributeRelease.Script.Datum
import AttributeRelease.Text.Case
import AttributeRelease.Text.Split

/-! What scripts can call besides the functions of their language. -/

namespace AttributeRelease.Script

/-- The result for arguments of the right kinds. -/
abbrev Function := List Datum → Option Datum

namespace Datum

/-- A name that a map does not have stands for no value. -/
def entry (entries : List (String × Datum)) (name : String) : Datum :=
  (entries.lookup name).getD .unit

/-- Whether facts list an authentication method. -/
def hasMethod (facts : List (String × Datum)) (method : String) : Bool :=
  match facts.lookup "authenticationMethods" with
  | some (.array methods) => methods.any fun
    | .string other => other == method
    | .char other => .singleton other == method
    | _ => false
  | _ => false

/-- A fact of the session, or no value. -/
def sessionFact (facts : List (String × Datum)) (name : String) : Datum :=
  match facts.lookup "session" with
  | some (.map entries) => entry entries name
  | _ => .unit

/-- Whether a text ends with a scope after its last at sign. The case of letters does not
count. -/
def endsWithScope (text scope : String) : Bool :=
  match Text.splitLast? "@" text with
  | some (_, last) => Text.equalIgnoringAsciiCase last scope
  | none => false

end Datum

/-- The functions by name. -/
def functions : List (String × Function) :=
  [("has_auth_method", fun
      | [.map facts, .string method] => some (.bool (Datum.hasMethod facts method))
      | _ => none),
    ("session_fact", fun
      | [.map facts, .string name] => some (Datum.sessionFact facts name)
      | _ => none),
    ("ends_with_scope", fun
      | [.string text, .string scope] => some (.bool (Datum.endsWithScope text scope))
      | _ => none)]

end AttributeRelease.Script
