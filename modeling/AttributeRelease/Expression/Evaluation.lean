import AttributeRelease.Expression.Basic
import AttributeRelease.Expression.Operation

/-! The value of an expression. Every part that is evaluated takes one operation of a budget. -/

namespace AttributeRelease.Script

/-- What an evaluation may use. -/
structure Environment where
  sandbox : Sandbox
  functions : List (String × Function)
  scope : List (String × Datum)

/-- A computation that may fail and uses up a budget of operations. Without a budget there is no
limit. -/
abbrev Evaluation := StateT (Option Nat) Option

namespace Evaluation

/-- Takes one operation of the budget. -/
def tick : Evaluation Unit := fun budget =>
  match budget with
  | none => some ((), none)
  | some 0 => none
  | some (left + 1) => some ((), some left)

def bool : Datum → Evaluation Bool
  | .bool value => pure value
  | _ => failure

end Evaluation

open Evaluation

mutual
def Expr.evaluate (environment : Environment) : Expr → Evaluation Datum
  | .literal value => do
    tick
    pure value
  | .variable name => do
    tick
    liftM (environment.scope.lookup name)
  | .array items => do
    tick
    return .array (← evaluateItems environment items)
  | .map entries => do
    tick
    let values ← evaluateEntries environment entries
    return .map (values.foldl (fun sorted entry => Dictionary.put entry.1 entry.2 sorted) [])
  | .unary operator operand => do
    tick
    let value ← operand.evaluate environment
    match operator with
    | .not => liftM value.not?
    | .negate => liftM value.negate?
    | .plus => liftM value.number?
  | .binary .and left right => do
    tick
    if ← bool (← left.evaluate environment) then
      return .bool (← bool (← right.evaluate environment))
    else return .bool false
  | .binary .or left right => do
    tick
    if ← bool (← left.evaluate environment) then return .bool true
    else return .bool (← bool (← right.evaluate environment))
  | .binary operator left right => do
    tick
    let left ← left.evaluate environment
    let right ← right.evaluate environment
    liftM (Datum.binary? environment.sandbox.maxStringSize operator left right)
  | .property object name => do
    tick
    liftM ((← object.evaluate environment).property? name)
  | .index object position => do
    tick
    let object ← object.evaluate environment
    let position ← position.evaluate environment
    liftM (object.index? position)
  | .call function arguments => do
    tick
    let arguments ← evaluateItems environment arguments
    let given := (environment.functions.lookup function).bind (· arguments)
    liftM (given <|> Datum.callFunction? function arguments)

def evaluateItems (environment : Environment) : List Expr → Evaluation (List Datum)
  | [] => pure []
  | item :: rest => do
    let value ← item.evaluate environment
    return value :: (← evaluateItems environment rest)

def evaluateEntries (environment : Environment) :
    List (String × Expr) → Evaluation (List (String × Datum))
  | [] => pure []
  | (name, expr) :: rest => do
    let value ← expr.evaluate environment
    return (name, value) :: (← evaluateEntries environment rest)
end

end AttributeRelease.Script
