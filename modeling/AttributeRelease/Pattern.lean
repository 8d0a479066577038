import AttributeRelease.ConfigError
import AttributeRelease.Text.Case

/-! The two ways in which a configuration compares strings. What patterns mean is left to a language that is brought
along. -/

namespace AttributeRelease

/-- Comparison with a fixed string. -/
structure StringMatch where
  value : String
  caseSensitive : Bool := true
  deriving DecidableEq

/-- Where case does not count, the lower case forms are compared. -/
def StringMatch.accepts (expected : StringMatch) (candidate : String) : Bool :=
  if expected.caseSensitive then expected.value == candidate
  else Text.lower expected.value == Text.lower candidate

/-- A language of patterns. -/
class PatternLanguage where
  /-- The texts in which a pattern is found, or what is wrong with the pattern. -/
  compile : String → Except String (String → Bool)

/-- A pattern together with the text that it was read from. -/
structure Pattern [PatternLanguage] where
  source : String
  /-- Whether the pattern is found in some part of a text. -/
  accepts : String → Bool
  compiled : PatternLanguage.compile source = .ok accepts

namespace Pattern

variable [PatternLanguage]

def compile (source : String) : Except ConfigError Pattern :=
  match compiled : PatternLanguage.compile source with
  | .ok accepts => .ok ⟨source, accepts, compiled⟩
  | .error problem => .error (.invalidPattern source problem)

/-- A pattern is determined by its text. -/
theorem ext_source {left right : Pattern} (same : left.source = right.source) : left = right := by
  obtain ⟨source, accepts, compiled⟩ := left
  obtain ⟨other, otherAccepts, otherCompiled⟩ := right
  cases same
  cases Except.ok.inj (compiled.symm.trans otherCompiled)
  rfl

instance : DecidableEq Pattern := fun left right =>
  decidable_of_iff (left.source = right.source) ⟨ext_source, fun same => same ▸ rfl⟩

end Pattern

end AttributeRelease
