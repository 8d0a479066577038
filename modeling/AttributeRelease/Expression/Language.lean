import AttributeRelease.Expression.Evaluation

/-! Expressions as scripts. -/

namespace AttributeRelease.Script

/-- Expressions are evaluated within a budget of operations. -/
@[reducible] def Expr.language : ScriptLanguage where
  Code := Expr
  compile sandbox text :=
    match Expr.parse? sandbox text with
    | some expr => .ok expr
    | none => .error "not an expression"
  run sandbox functions scope expr :=
    let budget := if sandbox.maxOperations = 0 then none else some sandbox.maxOperations
    match (expr.evaluate ⟨sandbox, functions, scope⟩).run budget with
    | some (value, _) => .ok value
    | none => .error "no value"

end AttributeRelease.Script
