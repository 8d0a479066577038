import AttributeRelease.Attribute.Value
import AttributeRelease.Pattern

/-! Conditions on a single value. -/

namespace AttributeRelease

variable [PatternLanguage]

inductive ValueCondition where
  | any
  /-- The display value. -/
  | value (expected : StringMatch)
  | scope (expected : StringMatch)
  | valuePattern (pattern : Pattern)
  | scopePattern (pattern : Pattern)
  | exact (value : Value)
  deriving DecidableEq

namespace ValueCondition

def kindName : ValueCondition → String
  | .any => "any"
  | .value _ => "value"
  | .scope _ => "scope"
  | .valuePattern _ => "value-regex"
  | .scopePattern _ => "scope-regex"
  | .exact _ => "exact"

/-- Values without the part that is looked at are not accepted. -/
def accepts (condition : ValueCondition) (value : Value) : Bool :=
  match condition with
  | .any => true
  | .value expected => value.display?.any expected.accepts
  | .scope expected => value.scope?.any expected.accepts
  | .valuePattern pattern => value.display?.any pattern.accepts
  | .scopePattern pattern => value.scope?.any pattern.accepts
  | .exact expected => expected == value

end ValueCondition

end AttributeRelease
