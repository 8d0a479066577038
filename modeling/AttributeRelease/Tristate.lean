import AttributeRelease.Json.Basic

/-! The outcome of a rule: it holds, it does not, or it could not be decided. -/

namespace AttributeRelease

inductive Tristate where
  | yes
  | no
  | undecided
  deriving DecidableEq

namespace Tristate

instance : Inhabited Tristate := ⟨.undecided⟩

def ofBool : Bool → Tristate
  | true => .yes
  | false => .no

/-- The negation of what could not be decided cannot be decided either. -/
def negate : Tristate → Tristate
  | .yes => .no
  | .no => .yes
  | .undecided => .undecided

def isYes (outcome : Tristate) : Bool := outcome == .yes

/-- The text of an outcome in diagnostics. -/
def text : Tristate → String
  | .yes => "TRUE"
  | .no => "FALSE"
  | .undecided => "FAIL"

def toJson : Tristate → Json
  | .yes => .string "true"
  | .no => .string "false"
  | .undecided => .string "fail"

def ofJson? (json : Json) : Option Tristate := do
  match ← json.caseName? with
  | "true" => some .yes
  | "false" => some .no
  | "fail" => some .undecided
  | _ => none

@[simp] theorem negate_negate (outcome : Tristate) : outcome.negate.negate = outcome := by
  cases outcome <;> rfl

theorem ofJson?_toJson (outcome : Tristate) : ofJson? outcome.toJson = some outcome := by
  cases outcome <;> rfl

end Tristate

end AttributeRelease
