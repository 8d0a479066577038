import AttributeRelease.Expression.Token
import AttributeRelease.Script.Language

/-! Expressions, and how they are read from their tokens. -/

namespace AttributeRelease.Script

inductive UnaryOperator where
  | not
  | negate
  | plus
  deriving DecidableEq

inductive Expr where
  | literal (value : Datum)
  | variable (name : String)
  | array (items : List Expr)
  | map (entries : List (String × Expr))
  | unary (operator : UnaryOperator) (operand : Expr)
  | binary (operator : Operator) (left right : Expr)
  | property (object : Expr) (name : String)
  | index (object position : Expr)
  /-- A function is called by its name. A method takes its object as the first argument. -/
  | call (function : String) (arguments : List Expr)

namespace Expr

instance : Inhabited Expr := ⟨.literal .unit⟩

/-- Functions that are not also variables. -/
def callOnly : List String :=
  ["print", "debug", "type_of", "Fn", "call", "curry", "is_shared", "is_def_fn", "is_def_var"]

/-- Numbers beyond 64 bits are not integers. -/
private def integerLiteral (value : Nat) : Expr :=
  if isSignedWord value then .literal (.integer value)
  else .literal (.float (Float.ofNat value).toBits)

/-- One level of nesting less, if there is one left. -/
private def inner? : Nat → Option Nat
  | 0 => none
  | room + 1 => some room

/-! A reader takes the fuel, the number of nested expressions that are still allowed, and the
tokens. Each step takes a token or goes up one level of operators, so that the fuel of `parse?`
is never used up. -/

section Reader

variable (sandbox : Sandbox)

mutual
/-- Operators of a level and those that bind more tightly. -/
private def binary? : Nat → Nat → Nat → List Token → Option (Expr × List Token)
  | 0, _, _, _ => none
  | fuel + 1, room, level, tokens =>
    if level == Operator.topLevel then unary? fuel room tokens
    else do
      let (left, rest) ← binary? fuel room (level + 1) tokens
      operators? fuel room level left rest

/-- Operators of one level, from left to right. -/
private def operators? : Nat → Nat → Nat → Expr → List Token → Option (Expr × List Token)
  | 0, _, _, _, _ => none
  | fuel + 1, room, level, left, tokens =>
    match tokens with
    | .operator operator :: rest =>
      if operator.level == level then do
        let (right, rest) ← binary? fuel room (level + 1) rest
        operators? fuel room level (.binary operator left right) rest
      else some (left, tokens)
    | _ => some (left, tokens)

/-- An operand with the operators in front of it. -/
private def unary? : Nat → Nat → List Token → Option (Expr × List Token)
  | 0, _, _ => none
  | fuel + 1, room, tokens =>
    match tokens with
    | .operator .subtract :: .integer value :: rest =>
      if isSignedWord (-value) then suffixes? fuel room (.literal (.integer (-value))) rest
      else suffixes? fuel room (.literal (.float (-Float.ofNat value).toBits)) rest
    | .operator .subtract :: rest => do
      let (operand, rest) ← unary? fuel (← inner? room) rest
      some (.unary .negate operand, rest)
    | .operator .add :: rest => do
      let (operand, rest) ← unary? fuel (← inner? room) rest
      some (.unary .plus operand, rest)
    | .not :: rest => do
      let (operand, rest) ← unary? fuel (← inner? room) rest
      some (.unary .not operand, rest)
    | _ => do
      let (operand, rest) ← primary? fuel room tokens
      suffixes? fuel room operand rest

/-- An operand up to its first property, method or index. -/
private def primary? : Nat → Nat → List Token → Option (Expr × List Token)
  | 0, _, _ => none
  | fuel + 1, room, tokens =>
    match tokens with
    | .integer value :: rest => some (integerLiteral value, rest)
    | .float value :: rest => some (.literal (.float value.toBits), rest)
    | .string value :: rest => some (.literal (.string value), rest)
    | .char value :: rest => some (.literal (.char value), rest)
    | .bool value :: rest => some (.literal (.bool value), rest)
    | .name name :: .openParen :: rest => do
      let (arguments, rest) ← list? fuel (← inner? room) true [] rest
      some (.call name arguments, rest)
    | .name name :: rest => if callOnly.contains name then none else some (.variable name, rest)
    | .openParen :: .closeParen :: rest => some (.literal .unit, rest)
    | .openParen :: rest => do
      match ← binary? fuel (← inner? room) 0 rest with
      | (inner, .closeParen :: rest) => some (inner, rest)
      | _ => none
    | .openBracket :: rest => do
      let (items, rest) ← list? fuel (← inner? room) false [] rest
      if within sandbox.maxArraySize items.length then some (.array items, rest) else none
    | .openMap :: rest => do
      let (entries, rest) ← entries? fuel (← inner? room) [] rest
      if within sandbox.maxMapSize entries.length then some (.map entries, rest) else none
    | _ => none

/-- Properties, methods and indices after an operand. -/
private def suffixes? : Nat → Nat → Expr → List Token → Option (Expr × List Token)
  | 0, _, _, _ => none
  | fuel + 1, room, object, tokens =>
    match tokens with
    | .dot :: .name name :: .openParen :: rest => do
      let (arguments, rest) ← list? fuel (← inner? room) true [] rest
      suffixes? fuel room (.call name (object :: arguments)) rest
    | .dot :: .name name :: rest => suffixes? fuel room (.property object name) rest
    | .dot :: _ => none
    | .openBracket :: rest => do
      match ← binary? fuel (← inner? room) 0 rest with
      | (position, .closeBracket :: rest) => suffixes? fuel room (.index object position) rest
      | _ => none
    | _ => some (object, tokens)

/-- Expressions between commas, up to the closing parenthesis of a call or the closing bracket
of an array. A comma may follow the last one. -/
private def list? : Nat → Nat → Bool → List Expr → List Token →
    Option (List Expr × List Token)
  | 0, _, _, _, _ => none
  | fuel + 1, room, inCall, done, tokens =>
    match inCall, tokens with
    | true, .closeParen :: rest => some (done.reverse, rest)
    | false, .closeBracket :: rest => some (done.reverse, rest)
    | _, _ => do
      let (item, rest) ← binary? fuel room 0 tokens
      match inCall, rest with
      | _, .comma :: rest => list? fuel room inCall (item :: done) rest
      | true, .closeParen :: rest => some ((item :: done).reverse, rest)
      | false, .closeBracket :: rest => some ((item :: done).reverse, rest)
      | _, _ => none

/-- Entries of a map up to its closing brace. No name comes twice. -/
private def entries? : Nat → Nat → List (String × Expr) → List Token →
    Option (List (String × Expr) × List Token)
  | 0, _, _, _ => none
  | fuel + 1, room, done, tokens => do
    let (name, rest) ← match tokens with
      | .closeMap :: rest => return (done.reverse, rest)
      | .name name :: .colon :: rest => some (name, rest)
      | .string name :: .colon :: rest => some (name, rest)
      | _ => none
    if done.any (·.1 == name) then none
    let (value, rest) ← binary? fuel room 0 rest
    match rest with
    | .comma :: rest => entries? fuel room ((name, value) :: done) rest
    | .closeMap :: rest => some (((name, value) :: done).reverse, rest)
    | _ => none
end

/-- The expression that a text spells, within the limits. -/
def parse? (text : String) : Option Expr := do
  let tokens ← scan? sandbox text
  let depth := sandbox.maxExprDepths.1
  let room := if depth == 0 then tokens.length else depth
  match ← binary? sandbox (16 * tokens.length + 16) room 0 tokens with
  | (expr, []) => some expr
  | _ => none

end Reader

end Expr

end AttributeRelease.Script
