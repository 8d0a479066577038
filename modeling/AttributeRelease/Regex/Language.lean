import AttributeRelease.Pattern
import AttributeRelease.Regex.Parser

/-! Regular expressions as patterns. -/

namespace AttributeRelease

/-- A pattern is found where the regular expression matches. -/
@[reducible] def Regex.language : PatternLanguage where
  compile source :=
    match Regex.parse? source with
    | some regex => .ok regex.isMatch
    | none => .error "not a regular expression"

end AttributeRelease
