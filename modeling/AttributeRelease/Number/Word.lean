/-! Integers of 64 bits. -/

namespace AttributeRelease

/-- The integers from `-2 ^ 63` to `2 ^ 63 - 1`. -/
def isSignedWord (value : Int) : Bool :=
  -0x8000000000000000 ≤ value && value < 0x8000000000000000

/-- The integers from zero to `2 ^ 64 - 1`. -/
def isUnsignedWord (value : Int) : Bool := 0 ≤ value && value < 0x10000000000000000

theorem isUnsignedWord_iff {value : Int} :
    isUnsignedWord value = true ↔ 0 ≤ value ∧ value < 0x10000000000000000 := by
  simp [isUnsignedWord]

end AttributeRelease
