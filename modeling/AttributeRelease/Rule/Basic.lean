import AttributeRelease.Lifecycle
import AttributeRelease.Matcher.Condition
import AttributeRelease.Predicate
import AttributeRelease.Rule.Condition
import AttributeRelease.Script.Basic

/-! Rules decide on a request, and matchers select values of an attribute. Each of the two kinds of
tree can hold the other: a rule may ask whether a matcher selects a value, and a matcher may
select all values when a rule holds. -/

namespace AttributeRelease

variable [PatternLanguage]

/-- A rule without parts. -/
inductive RuleLeaf where
  | fixed (outcome : Tristate)
  | ofCondition (condition : Condition)
  | ofPredicate (predicate : RequestPredicate)
  | ofScript (script : Script)

/-- A matcher without parts. -/
inductive MatcherLeaf where
  | ofCondition (condition : ValueCondition)
  | ofPredicate (predicate : ValuePredicate)
  | ofScript (script : Script)

mutual
inductive Rule where
  | atom (component : Component) (leaf : RuleLeaf)
  | and (component : Component) (children : List Rule)
  | or (component : Component) (children : List Rule)
  | not (component : Component) (child : Rule)
  /-- Some value of an attribute is selected. -/
  | attributeMatches (component : Component) (attributeId : String) (matcher : Matcher)

inductive Matcher where
  | atom (component : Component) (leaf : MatcherLeaf)
  /-- All values if the rule holds, and none if it does not. -/
  | fromRule (component : Component) (rule : Rule)
  | and (component : Component) (children : List Matcher)
  | or (component : Component) (children : List Matcher)
  | not (component : Component) (child : Matcher)
end

def RuleLeaf.kindName : RuleLeaf → String
  | .fixed _ => "static"
  | .ofCondition condition => condition.kindName
  | .ofPredicate _ => "predicate"
  | .ofScript _ => "script"

def MatcherLeaf.kindName : MatcherLeaf → String
  | .ofCondition condition => condition.kindName
  | .ofPredicate _ => "predicate"
  | .ofScript _ => "script"

namespace Rule

instance : Inhabited Rule := ⟨.atom ⟨"static", .uninitialised⟩ (.fixed .undecided)⟩

def kindName : Rule → String
  | .atom _ leaf => leaf.kindName
  | .and _ _ => "and"
  | .or _ _ => "or"
  | .not _ _ => "not"
  | .attributeMatches _ _ _ => "attribute-matches"

def component : Rule → Component
  | .atom component _ => component
  | .and component _ => component
  | .or component _ => component
  | .not component _ => component
  | .attributeMatches component _ _ => component

def mapComponent (change : Component → Component) : Rule → Rule
  | .atom component leaf => .atom (change component) leaf
  | .and component children => .and (change component) children
  | .or component children => .or (change component) children
  | .not component child => .not (change component) child
  | .attributeMatches component attributeId matcher =>
    .attributeMatches (change component) attributeId matcher

def id (rule : Rule) : String := rule.component.id

def withId (rule : Rule) (id : String) : Rule := rule.mapComponent ({ · with id })

/-! New rules are named after their kind. -/

def ofLeaf (leaf : RuleLeaf) : Rule := .atom { id := leaf.kindName } leaf

def fixed (outcome : Tristate) : Rule := ofLeaf (.fixed outcome)

/-- The rule that always holds. -/
def always : Rule := (fixed .yes).withId "any"

def allOf (children : List Rule) : Rule := .and { id := "and" } children

def anyOf (children : List Rule) : Rule := .or { id := "or" } children

def negation (child : Rule) : Rule := .not { id := "not" } child

def ofMatcher (attributeId : String) (matcher : Matcher) : Rule :=
  .attributeMatches { id := "attribute-matches" } attributeId matcher

/-- Adds a child at the end of a conjunction or disjunction that is still being assembled. -/
def addChild (rule : Rule) (child : Rule) : Attempt Rule :=
  match rule.component.ensureMutable with
  | .error error => .fail rule error
  | .ok () =>
    match rule with
    | .and component children => .ok (.and component (children ++ [child]))
    | .or component children => .ok (.or component (children ++ [child]))
    | _ => .fail rule (.takesNoChildren .rule rule.id rule.kindName)

end Rule

namespace Matcher

instance : Inhabited Matcher := ⟨.atom ⟨"any", .uninitialised⟩ (.ofCondition .any)⟩

def kindName : Matcher → String
  | .atom _ leaf => leaf.kindName
  | .fromRule _ _ => "from-rule"
  | .and _ _ => "and"
  | .or _ _ => "or"
  | .not _ _ => "not"

def component : Matcher → Component
  | .atom component _ => component
  | .fromRule component _ => component
  | .and component _ => component
  | .or component _ => component
  | .not component _ => component

def mapComponent (change : Component → Component) : Matcher → Matcher
  | .atom component leaf => .atom (change component) leaf
  | .fromRule component rule => .fromRule (change component) rule
  | .and component children => .and (change component) children
  | .or component children => .or (change component) children
  | .not component child => .not (change component) child

def id (matcher : Matcher) : String := matcher.component.id

def withId (matcher : Matcher) (id : String) : Matcher := matcher.mapComponent ({ · with id })

/-! New matchers are named after their kind. -/

def ofLeaf (leaf : MatcherLeaf) : Matcher := .atom { id := leaf.kindName } leaf

def ofCondition (condition : ValueCondition) : Matcher := ofLeaf (.ofCondition condition)

def allOf (children : List Matcher) : Matcher := .and { id := "and" } children

def anyOf (children : List Matcher) : Matcher := .or { id := "or" } children

def negation (child : Matcher) : Matcher := .not { id := "not" } child

def ofRule (rule : Rule) : Matcher := .fromRule { id := "from-rule" } rule

/-- Adds a child at the end of a conjunction or disjunction that is still being assembled. -/
def addChild (matcher : Matcher) (child : Matcher) : Attempt Matcher :=
  match matcher.component.ensureMutable with
  | .error error => .fail matcher error
  | .ok () =>
    match matcher with
    | .and component children => .ok (.and component (children ++ [child]))
    | .or component children => .ok (.or component (children ++ [child]))
    | _ => .fail matcher (.takesNoChildren .matcher matcher.id matcher.kindName)

end Matcher

end AttributeRelease
