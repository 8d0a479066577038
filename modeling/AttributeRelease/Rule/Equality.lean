import AttributeRelease.Rule.Basic

/-! Equality of what rules and matchers do. Ids and the phase of life do not count. -/

namespace AttributeRelease

variable [PatternLanguage]

def RuleLeaf.same : RuleLeaf → RuleLeaf → Bool
  | .fixed left, .fixed right => left == right
  | .ofCondition left, .ofCondition right => left == right
  | .ofPredicate left, .ofPredicate right => left.name == right.name
  | .ofScript left, .ofScript right => left.same right
  | _, _ => false

def MatcherLeaf.same : MatcherLeaf → MatcherLeaf → Bool
  | .ofCondition left, .ofCondition right => left == right
  | .ofPredicate left, .ofPredicate right => left.name == right.name
  | .ofScript left, .ofScript right => left.same right
  | _, _ => false

mutual
def Rule.same : Rule → Rule → Bool
  | .atom _ left, .atom _ right => left.same right
  | .and _ left, .and _ right => sameRules left right
  | .or _ left, .or _ right => sameRules left right
  | .not _ left, .not _ right => left.same right
  | .attributeMatches _ leftId left, .attributeMatches _ rightId right =>
    leftId == rightId && left.same right
  | _, _ => false

def sameRules : List Rule → List Rule → Bool
  | [], [] => true
  | left :: lefts, right :: rights => left.same right && sameRules lefts rights
  | _, _ => false

def Matcher.same : Matcher → Matcher → Bool
  | .atom _ left, .atom _ right => left.same right
  | .fromRule _ left, .fromRule _ right => left.same right
  | .and _ left, .and _ right => sameMatchers left right
  | .or _ left, .or _ right => sameMatchers left right
  | .not _ left, .not _ right => left.same right
  | _, _ => false

def sameMatchers : List Matcher → List Matcher → Bool
  | [], [] => true
  | left :: lefts, right :: rights => left.same right && sameMatchers lefts rights
  | _, _ => false
end

end AttributeRelease
