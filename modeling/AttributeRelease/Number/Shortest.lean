import AttributeRelease.Number.Double

/-! The shortest decimal that reads back as a given double, and its two notations. -/

namespace AttributeRelease

/-- The number `digits * 10 ^ exponent`. -/
structure Decimal where
  digits : Nat
  exponent : Int

namespace Decimal

/-- Compares `left * 2 ^ binary` with `right * 10 ^ decimal`. -/
def compareScaled (left : Nat) (binary : Int) (right : Nat) (decimal : Int) : Ordering :=
  compare (left * twoTo binary * tenTo (-decimal)) (right * tenTo decimal * twoTo (-binary))

/-- The least `power` from `start` on with `den ≤ num * 10 ^ power`, in at most `fuel` steps. -/
def leastPower (num den : Nat) : Nat → Nat → Nat
  | 0, start => start
  | fuel + 1, start =>
    if den ≤ num * tenTo start then start else leastPower num den fuel (start + 1)

/-- The exponent of the leading decimal digit of `num / den`. No double is below `10 ^ -400`. -/
def leadingExponent (num den : Nat) : Int :=
  if den ≤ num then (Nat.toDigits 10 (num / den)).length - 1 else -(leastPower num den 400 1 : Int)

/-- The part of the number line that reads back as one double, in units of `2 ^ unit`. The ends
belong to it when `closed` holds. -/
structure Interval where
  value : Nat
  low : Nat
  high : Nat
  unit : Int
  closed : Bool

namespace Interval

def contains (interval : Interval) (decimal : Decimal) : Bool :=
  let low := compareScaled interval.low interval.unit decimal.digits decimal.exponent
  let high := compareScaled interval.high interval.unit decimal.digits decimal.exponent
  if interval.closed then low != .gt && high != .lt else low == .lt && high == .gt

/-- The multiple of `10 ^ exponent` at or below the value. -/
def floorOn (interval : Interval) (exponent : Int) : Nat :=
  (interval.value * twoTo interval.unit * tenTo (-exponent)) /
    (tenTo exponent * twoTo (-interval.unit))

/-- The better of the two neighbours of the value on the grid of `10 ^ exponent`, among those
that read back. A tie goes to the even neighbour. -/
def neighbour? (interval : Interval) (exponent : Int) : Option Decimal :=
  let below := interval.floorOn exponent
  let lower : Decimal := ⟨below, exponent⟩
  let upper : Decimal := ⟨below + 1, exponent⟩
  match interval.contains lower, interval.contains upper with
  | false, false => none
  | true, false => some lower
  | false, true => some upper
  | true, true =>
    match compareScaled (2 * interval.value) interval.unit (2 * below + 1) exponent with
    | .lt => some lower
    | .gt => some upper
    | .eq => some (if below % 2 == 0 then lower else upper)

/-- The first grid with a neighbour that reads back, from one digit on. -/
def search (interval : Interval) (leading : Int) : Nat → Nat → Option Decimal
  | 0, _ => none
  | fuel + 1, count =>
    match interval.neighbour? (leading - count) with
    | some decimal => some decimal
    | none => search interval leading fuel (count + 1)

end Interval

/-- Trailing zeros of the digits move into the exponent. -/
def normalise : Nat → Decimal → Decimal
  | 0, decimal => decimal
  | fuel + 1, decimal =>
    if decimal.digits != 0 && decimal.digits % 10 == 0 then
      normalise fuel ⟨decimal.digits / 10, decimal.exponent + 1⟩
    else decimal

end Decimal

namespace Double

/-- The numbers that round to this one. Below a power of two the doubles lie twice as dense. -/
def interval (number : Double) : Decimal.Interval :=
  let (mantissa, exponent) := number.magnitude
  let narrow := mantissa == leadingBit && exponent != -1074
  { value := 4 * mantissa
    low := 4 * mantissa - (if narrow then 1 else 2)
    high := 4 * mantissa + 2
    unit := exponent - 2
    closed := mantissa % 2 == 0 }

/-- The decimal of fewest digits that reads back as the absolute value, and of these the
nearest to it. -/
def shortest (number : Double) : Decimal :=
  if number.isZero then ⟨0, 0⟩
  else
    let interval := number.interval
    let leading := Decimal.leadingExponent (interval.value * twoTo interval.unit)
      (twoTo (-interval.unit))
    match interval.search leading 18 0 with
    | some decimal => decimal.normalise 20
    | none => ⟨0, 0⟩

private def sign (number : Double) : String := if number.isNegative then "-" else ""

private def zeros (count : Nat) : String := .ofList (List.replicate count '0')

/-- Where the decimal point stands, counted from before the first digit. -/
def pointPosition (number : Double) : Int :=
  let decimal := number.shortest
  (Nat.toDigits 10 decimal.digits).length + decimal.exponent

/-- All digits around a decimal point, with at least one on either side. -/
def positional (number : Double) : String :=
  let decimal := number.shortest
  let digits := Nat.toDigits 10 decimal.digits
  let point := number.pointPosition
  number.sign ++
    if 0 ≤ decimal.exponent then .ofList digits ++ zeros decimal.exponent.toNat ++ ".0"
    else if 0 < point then
      .ofList (digits.take point.toNat) ++ "." ++ .ofList (digits.drop point.toNat)
    else "0." ++ zeros (-point).toNat ++ .ofList digits

/-- One digit before the decimal point, which is left out when no digit follows, and a power
of ten. -/
def scientific (number : Double) : String :=
  let digits := Nat.toDigits 10 number.shortest.digits
  let exponent := number.pointPosition - 1
  let power := (if exponent < 0 then "-" else "") ++ toString exponent.natAbs
  let rest := if digits.length ≤ 1 then "" else "." ++ .ofList (digits.drop 1)
  number.sign ++ .ofList (digits.take 1) ++ rest ++ "e" ++ power

end Double

end AttributeRelease
