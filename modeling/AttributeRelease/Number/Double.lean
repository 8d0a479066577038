/-! Finite double-precision numbers, kept by their bits so that two of them can be told
apart and compared in a proof. -/

namespace AttributeRelease

/-- Powers of two and of ten. A negative exponent counts as zero. -/
def twoTo (exponent : Int) : Nat := Nat.pow 2 exponent.toNat

def tenTo (exponent : Int) : Nat := Nat.pow 10 exponent.toNat

/-- The bits stand for a finite number: the exponent is not the one of infinities and NaN. -/
def isFiniteBits (bits : UInt64) : Bool := (bits >>> 52) &&& 0x7ff != 0x7ff

structure Double where
  bits : UInt64
  finite : isFiniteBits bits = true
  deriving DecidableEq

namespace Double

def ofBits? (bits : UInt64) : Option Double :=
  if finite : isFiniteBits bits = true then some ⟨bits, finite⟩ else none

def ofFloat? (value : Float) : Option Double := ofBits? value.toBits

def isNegative (number : Double) : Bool := number.bits >>> 63 == 1

/-- Zero has two representations, one of each sign. -/
def isZero (number : Double) : Bool := number.bits <<< 1 == 0

/-- Equality of numbers: equal bits, or a zero of either sign on both sides. -/
def same (left right : Double) : Bool :=
  left.bits == right.bits || (left.isZero && right.isZero)

theorem same_refl (number : Double) : number.same number = true := by simp [same]

theorem same_comm (left right : Double) : left.same right = right.same left := by
  rw [same, same, Bool.and_comm, BEq.comm]

/-- The bit above the fraction, which is not stored. -/
def leadingBit : Nat := 0x10000000000000

/-- The absolute value is `magnitude.1 * 2 ^ magnitude.2`. -/
def magnitude (number : Double) : Nat × Int :=
  let exponent := ((number.bits >>> 52) &&& 0x7ff).toNat
  let fraction := (number.bits &&& 0xfffffffffffff).toNat
  if exponent == 0 then (fraction, -1074) else (fraction + leadingBit, (exponent : Int) - 1075)

end Double

end AttributeRelease
