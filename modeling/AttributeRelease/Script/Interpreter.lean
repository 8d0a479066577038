import AttributeRelease.Script.Basic
import AttributeRelease.Script.Language

/-! The bundled runtime for scripts, in whatever language they are written. -/

namespace AttributeRelease

/-- The variables of a script. Facts that are absent are variables without value. -/
def ScriptBindings.scope (bindings : ScriptBindings) : List (String × Script.Datum) :=
  [("principal", .ofString? bindings.facts.principal),
    ("requester", .ofString? bindings.facts.requester),
    ("responder", .ofString? bindings.facts.responder),
    ("facts", .ofJson bindings.facts.toJson),
    ("custom", bindings.custom.elim .unit .ofJson)] ++
  (bindings.attr.map fun attr => ("attribute_id", Script.Datum.string attr.id)).toList ++
  (match bindings.value with
    | none => []
    | some value => [("value", .ofString? value.display?), ("scope", .ofString? value.scope?)])

structure Interpreter where
  settings : ScriptSettings := {}
  deriving DecidableEq

namespace Interpreter

variable [ScriptLanguage]

instance : Inhabited Interpreter := ⟨{}⟩

def compile (interpreter : Interpreter) (expression : String) :
    Except ScriptError ScriptLanguage.Code :=
  (ScriptLanguage.compile interpreter.settings.sandbox expression).mapError .compilation

/-- The value of a compiled expression. -/
def run (interpreter : Interpreter) (code : ScriptLanguage.Code) (bindings : ScriptBindings) :
    Except ScriptError Json :=
  ((ScriptLanguage.run interpreter.settings.sandbox Script.functions bindings.scope code).mapError
    .execution).map Script.Datum.toJson

def check (interpreter : Interpreter) (expression : String) : Except ScriptError Unit :=
  if interpreter.settings.enabled then (interpreter.compile expression).map fun _ => ()
  else .error .disabled

def evaluate (interpreter : Interpreter) (expression : String) (bindings : ScriptBindings) :
    Except ScriptError Json := do
  if interpreter.settings.enabled then interpreter.run (← interpreter.compile expression) bindings
  else .error .disabled

def evaluator (interpreter : Interpreter) (number : Nat := 0) : Evaluator where
  number
  check := interpreter.check
  evaluate := interpreter.evaluate

end Interpreter

end AttributeRelease
