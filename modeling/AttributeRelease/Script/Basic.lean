import AttributeRelease.ConfigError
import AttributeRelease.Request.Basic

/-! Scripts: expressions that are evaluated on a request. -/

namespace AttributeRelease

/-- What a script can see. -/
structure ScriptBindings where
  facts : Facts
  /-- An object given with the script. -/
  custom : Option Json := none
  /-- The attribute whose values are decided on. -/
  attr : Option Attribute := none
  value : Option Value := none

/-- What runs scripts. Evaluators have a number, by which two of them are told apart. -/
structure Evaluator where
  number : Nat := 0
  /-- Whether an expression can be evaluated at all. -/
  check : String → Except ScriptError Unit
  evaluate : String → ScriptBindings → Except ScriptError Json

namespace Evaluator

instance : Inhabited Evaluator := ⟨0, fun _ => .error .disabled, fun _ _ => .error .disabled⟩

def same (left right : Evaluator) : Bool := left.number == right.number

end Evaluator

structure Script where
  expression : String
  evaluator : Evaluator
  /-- An object that the expression can refer to. -/
  custom : Option Json := none

namespace Script

/-- Equality of expression, evaluator and custom object. -/
def same (left right : Script) : Bool :=
  left.expression == right.expression && left.evaluator.same right.evaluator &&
    match left.custom, right.custom with
    | none, none => true
    | some left, some right => left.same right
    | _, _ => false

/-- Whether the script of a component can be evaluated. -/
def check (script : Script) (component : String) : Except ConfigError Unit :=
  match script.evaluator.check script.expression with
  | .ok () => .ok ()
  | .error cause => .error (.scriptRejected component cause)

def evaluate (script : Script) (facts : Facts) : Except ScriptError Json :=
  script.evaluator.evaluate script.expression { facts, custom := script.custom }

def evaluateValue (script : Script) (facts : Facts) (attr : Attribute) (value : Value) :
    Except ScriptError Json :=
  script.evaluator.evaluate script.expression
    { facts, custom := script.custom, attr := some attr, value := some value }

end Script

end AttributeRelease
