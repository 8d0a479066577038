import AttributeRelease.Expression.Token
import AttributeRelease.Number.Shortest
import AttributeRelease.Script.Functions

/-! What operators and functions of expressions do with values. An operation that has no result for its
operands gives `none`. -/

namespace AttributeRelease

/-- The remainder of the quotient rounded toward zero. It has the sign of the dividend and is
exact. -/
def Double.remainder? (dividend divisor : Double) : Option Float :=
  if divisor.isZero then none
  else
    let (left, leftExponent) := dividend.magnitude
    let (right, rightExponent) := divisor.magnitude
    let unit := min leftExponent rightExponent
    let rest :=
      (left * twoTo (leftExponent - unit)) % (right * twoTo (rightExponent - unit))
    let size := (Float.ofNat rest).scaleB unit
    some (if dividend.isNegative then -size else size)

namespace Script.Datum

def ofFloat (value : Float) : Datum := .float value.toBits

/-- The distance between two floats in relation to the larger of them. Two zeros are no distance apart, and
an infinite float is at no distance from any. -/
private def distance (left right : Float) : Float :=
  let size := if left.abs < right.abs then right.abs else left.abs
  if size == 0 then 0 else (left - right) / size

/-- Distances that are not larger do not count. -/
private def tolerance : Float := Float.ofBits 0x3cb0000000000000

private def equalFloats (left right : Float) : Bool := (distance left right).abs ≤ tolerance

private def orderedFloats (operator : Operator) (left right : Float) : Bool :=
  let distance := distance left right
  match operator with
  | .less => distance < -tolerance
  | .lessEqual => distance < tolerance
  | .greater => tolerance < distance
  | .greaterEqual => -tolerance < distance
  | _ => false

mutual
/-- Equality by content. Numbers are compared as numbers, and a single character equals the
string of it; other values of different kinds differ. -/
def equal : Datum → Datum → Bool
  | .unit, .unit => true
  | .bool left, .bool right => left == right
  | .integer left, .integer right => left == right
  | .integer left, .float right => equalFloats (.ofInt left) (.ofBits right)
  | .float left, .integer right => equalFloats (.ofBits left) (.ofInt right)
  | .float left, .float right => equalFloats (.ofBits left) (.ofBits right)
  | .array left, .array right => equalItems left right
  | .map left, .map right => equalEntries left right
  | .string left, .string right => left == right
  | .string left, .char right => left == .singleton right
  | .char left, .string right => .singleton left == right
  | .char left, .char right => left == right
  | _, _ => false

def equalItems : List Datum → List Datum → Bool
  | [], [] => true
  | left :: lefts, right :: rights => left.equal right && equalItems lefts rights
  | _, _ => false

def equalEntries : List (String × Datum) → List (String × Datum) → Bool
  | [], [] => true
  | (leftName, left) :: lefts, (rightName, right) :: rights =>
    leftName == rightName && left.equal right && equalEntries lefts rights
  | _, _ => false
end

private def ordered (operator : Operator) (order : Ordering) : Bool :=
  match operator with
  | .less => order == .lt
  | .lessEqual => order != .gt
  | .greater => order == .gt
  | .greaterEqual => order != .lt
  | _ => false

/-- Whether two values are in order. Values of different kinds have no order; arrays and maps are not
compared at all. -/
def ordered? (operator : Operator) : Datum → Datum → Option Bool
  | .bool left, .bool right => some (ordered operator (compare left.toNat right.toNat))
  | .integer left, .integer right => some (ordered operator (compare left right))
  | .integer left, .float right => some (orderedFloats operator (.ofInt left) (.ofBits right))
  | .float left, .integer right => some (orderedFloats operator (.ofBits left) (.ofInt right))
  | .float left, .float right => some (orderedFloats operator (.ofBits left) (.ofBits right))
  | .array _, .array _ => none
  | .map _, .map _ => none
  | left, right =>
    match left.chars?, right.chars? with
    | some left, some right =>
      some (ordered operator (compare (String.ofList left) (String.ofList right)))
    | _, _ => some false

/-- Integers have 64 bits. -/
private def integer? (value : Int) : Option Datum :=
  if isSignedWord value then some (.integer value) else none

private def floatText (value : Float) : String :=
  match Double.ofFloat? value with
  | none => if value.isNaN then "NaN" else if value < 0 then "-inf" else "inf"
  | some number =>
    if number.isZero then "0.0"
    else if value.abs > 1e13 || value.abs < 1e-13 then number.scientific
    else number.positional

/-- The text that a value adds to a string. -/
private def joined? : Datum → Option String
  | .unit => some ""
  | .bool value => some (if value then "true" else "false")
  | .integer value => some (toString value)
  | .float bits => some (floatText (.ofBits bits))
  | .char value => some (.singleton value)
  | .string value => some value
  | _ => none

/-- Strings of more than `maxSize` bytes are not made, unless that is zero. -/
private def join? (maxSize : Nat) (left right : Datum) : Option Datum := do
  let text := (← left.joined?) ++ (← right.joined?)
  if within maxSize text.utf8ByteSize then some (.string text) else none

private def floatRemainder (left right : Float) : Float :=
  match Double.ofFloat? left, Double.ofFloat? right with
  | some dividend, some divisor => (dividend.remainder? divisor).getD (0 / 0)
  | some _, none => if right.isNaN then right else left
  | none, _ => 0 / 0

/-- Integers give an integer. A float among the operands makes a float of the other one. -/
private def arithmetic? (integers : Int → Int → Option Datum) (floats : Float → Float → Float) :
    Datum → Datum → Option Datum
  | .integer left, .integer right => integers left right
  | .integer left, .float right => some (.ofFloat (floats (.ofInt left) (.ofBits right)))
  | .float left, .integer right => some (.ofFloat (floats (.ofBits left) (.ofInt right)))
  | .float left, .float right => some (.ofFloat (floats (.ofBits left) (.ofBits right)))
  | _, _ => none

private def add? (maxSize : Nat) (left right : Datum) : Option Datum :=
  match left, right with
  | .string _, _ | _, .string _ | .char _, .char _ => join? maxSize left right
  | _, _ => arithmetic? (fun left right => integer? (left + right)) (· + ·) left right

/-- The quotient is rounded toward zero. -/
private def divide? (left right : Int) : Option Datum :=
  if right = 0 then none else integer? (left.tdiv right)

/-- There is a remainder where there is a quotient. -/
private def modulo? (left right : Int) : Option Datum := do
  let _ ← divide? left right
  some (.integer (left.tmod right))

def negate? : Datum → Option Datum
  | .integer value => integer? (-value)
  | .float bits => some (.ofFloat (-.ofBits bits))
  | _ => none

def number? : Datum → Option Datum
  | .integer value => some (.integer value)
  | .float bits => some (.float bits)
  | _ => none

def not? : Datum → Option Datum
  | .bool value => some (.bool !value)
  | _ => none

/-- Whether a value is an item of an array, a part of a string or a name in a map. -/
def contains? (container item : Datum) : Option Bool :=
  match container, item with
  | .array items, item => some (items.any fun other => other.equal item)
  | .map entries, .string name => some (entries.any (·.1 == name))
  | .string text, item => do return Text.occursIn (← item.chars?) text.toList
  | _, _ => none

/-- The place of an index. Negative indices count from the end. -/
private def itemAt? {α : Type} (items : List α) (index : Int) : Option α :=
  if 0 ≤ index then items[index.toNat]?
  else if index.natAbs ≤ items.length then items[items.length - index.natAbs]?
  else none

def index? : Datum → Datum → Option Datum
  | .array items, .integer index => itemAt? items index
  | .string text, .integer index => (itemAt? text.toList index).map .char
  | .map entries, .string name => some (entry entries name)
  | _, _ => none

def size? : Datum → Option Nat
  | .string text => some text.length
  | .array items => some items.length
  | .map entries => some entries.length
  | _ => none

def property? (object : Datum) (name : String) : Option Datum :=
  match object with
  | .map entries => some (entry entries name)
  | object => do
    let size ← object.size?
    match name with
    | "len" => some (.integer size)
    | "is_empty" => some (.bool (size == 0))
    | _ => none

def binary? (maxSize : Nat) (operator : Operator) (left right : Datum) : Option Datum :=
  match operator with
  | .equal => some (.bool (left.equal right))
  | .unequal => some (.bool !(left.equal right))
  | .within => (right.contains? left).map .bool
  | .less | .lessEqual | .greater | .greaterEqual => (ordered? operator left right).map .bool
  | .add => add? maxSize left right
  | .subtract => arithmetic? (fun left right => integer? (left - right)) (· - ·) left right
  | .multiply => arithmetic? (fun left right => integer? (left * right)) (· * ·) left right
  | .divide => arithmetic? divide? (· / ·) left right
  | .remainder => arithmetic? modulo? floatRemainder left right
  | .and | .or => none

private def changeCase (change : String → String) (letter : Char) : Char :=
  match (change (.singleton letter)).toList with
  | [changed] => changed
  | _ => letter

/-- The result of a function of the language, if there is one of that name for these arguments. -/
def callFunction? (function : String) (arguments : List Datum) : Option Datum :=
  match function, arguments with
  | "len", [object] => object.size?.map fun size => .integer size
  | "is_empty", [object] => object.size?.map fun size => .bool (size == 0)
  | "to_upper", [.string text] => some (.string (Text.upper text))
  | "to_upper", [.char letter] => some (.char (changeCase Text.upper letter))
  | "to_lower", [.string text] => some (.string (Text.lower text))
  | "to_lower", [.char letter] => some (.char (changeCase Text.lower letter))
  | "starts_with", [.string text, .string start] =>
    some (.bool (start.toList.isPrefixOf text.toList))
  | "ends_with", [.string text, .string ending] =>
    some (.bool (ending.toList.isSuffixOf text.toList))
  | "contains", [container, item] => (container.contains? item).map .bool
  | "print", [] | "debug", [] | "print", [_] | "debug", [_] => some .unit
  | _, _ => none

end Script.Datum

end AttributeRelease
