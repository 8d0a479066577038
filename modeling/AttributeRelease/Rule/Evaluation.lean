import AttributeRelease.FilterError
import AttributeRelease.Json.Writing
import AttributeRelease.Rule.Basic

/-! What rules and matchers say about a request. A rule never fails: what goes wrong in it is left
undecided. A matcher fails when a predicate or a script gives no answer for a value, and is
undecided when a rule in it is. Nothing above turns an undecided part into a decision. -/

namespace AttributeRelease

/-- The values that a matcher selects, if it can decide that. -/
inductive Selection where
  | values (values : ValueSet)
  | undecided
  deriving DecidableEq

instance : Inhabited Selection := ⟨.undecided⟩

/-- A computation that may fail and records calls to predicates. -/
abbrev Filtering := ExceptT FilterError Traced

/-- Goes on only with a usable component. -/
def usable (component : Component) : Filtering Unit :=
  match component.ensureUsable with
  | .ok () => pure ()
  | .error error => throw (.configuration error)

variable [PatternLanguage]

def RuleLeaf.run (request : Request) : RuleLeaf → Traced Tristate
  | .fixed outcome => pure outcome
  | .ofCondition condition => pure (condition.evaluate request.facts)
  | .ofPredicate predicate =>
    Traced.called predicate.name <|
      match predicate.test request with
      | .ok holds => .ofBool holds
      | .error _ => .undecided
  | .ofScript script => pure <|
    match script.evaluate request.facts with
    | .ok (.bool holds) => .ofBool holds
    | _ => .undecided

/-- Whether a leaf selects a value, or why it cannot tell. -/
def MatcherLeaf.accepts (request : Request) (attr : Attribute) (value : Value) :
    MatcherLeaf → Traced (Except String Bool)
  | .ofCondition condition => pure (.ok (condition.accepts value))
  | .ofPredicate predicate => Traced.called predicate.name (predicate.test request attr value)
  | .ofScript script => pure <|
    match script.evaluateValue request.facts attr value with
    | .ok (.bool selected) => .ok selected
    | .ok other => .error s!"script returned non-boolean result {other.text}"
    | .error error => .error error.message

/-- The values that a leaf selects, in their order. The first value without an answer ends
that. -/
def MatcherLeaf.run (request : Request) (attr : Attribute) (id : String) (leaf : MatcherLeaf) :
    List Value → Filtering (List Value)
  | [] => pure []
  | value :: rest => do
    match ← (leaf.accepts request attr value : Traced _) with
    | .error message => throw (.predicate id attr.id message)
    | .ok selected =>
      let others ← leaf.run request attr id rest
      return if selected then value :: others else others

mutual
/-- The outcome of a rule. One that is not usable decides nothing. -/
def Rule.run (request : Request) : Rule → Traced Tristate
  | .atom component leaf =>
    if component.isInitialised then leaf.run request else pure .undecided
  | .and component children =>
    if component.isInitialised then runAll request children else pure .undecided
  | .or component children =>
    if component.isInitialised then runAny request children else pure .undecided
  | .not component child =>
    if component.isInitialised then do return (← child.run request).negate
    else pure .undecided
  | .attributeMatches component attributeId matcher =>
    if component.isInitialised then
      match request.attribute? attributeId with
      | none => pure .no
      | some attr => do
        match ← (matcher.run request attr).run with
        | .ok (.values values) => return .ofBool !values.isEmpty
        | _ => return .undecided
    else pure .undecided

/-- Goes on while children hold. -/
def runAll (request : Request) : List Rule → Traced Tristate
  | [] => pure .yes
  | child :: rest => do
    match ← child.run request with
    | .yes => runAll request rest
    | other => return other

/-- Goes on while children do not hold. -/
def runAny (request : Request) : List Rule → Traced Tristate
  | [] => pure .no
  | child :: rest => do
    match ← child.run request with
    | .no => runAny request rest
    | other => return other

/-- The selection of a matcher among the values of an attribute. -/
def Matcher.run (request : Request) (attr : Attribute) : Matcher → Filtering Selection
  | .atom component leaf => do
    usable component
    return .values (.ofList (← leaf.run request attr component.id attr.values.toList))
  | .fromRule component rule => do
    usable component
    match ← (rule.run request : Traced _) with
    | .yes => return .values attr.values
    | .no => return .values ∅
    | .undecided => return .undecided
  | .and component children => do
    usable component
    if children.isEmpty then return .values ∅ else selectAll request attr attr.values children
  | .or component children => do
    usable component
    selectAny request attr ∅ children
  | .not component child => do
    usable component
    match ← child.run request attr with
    | .values excluded => return .values (attr.values.diff excluded)
    | .undecided => return .undecided

/-- The values of `selected` that all children select. -/
def selectAll (request : Request) (attr : Attribute) (selected : ValueSet) :
    List Matcher → Filtering Selection
  | [] => return .values selected
  | child :: rest => do
    match ← child.run request attr with
    | .values values => selectAll request attr (selected.inter values) rest
    | .undecided => return .undecided

/-- The values in `selected` and those that some child selects, in the order of the
attribute. -/
def selectAny (request : Request) (attr : Attribute) (selected : ValueSet) :
    List Matcher → Filtering Selection
  | [] => return .values (attr.values.inter selected)
  | child :: rest => do
    match ← child.run request attr with
    | .values values => selectAny request attr (selected.union values) rest
    | .undecided => return .undecided
end

def Rule.evaluate (rule : Rule) (request : Request) : Tristate := (rule.run request).value

def Matcher.select (matcher : Matcher) (request : Request) (attr : Attribute) :
    Except FilterError Selection :=
  (matcher.run request attr).run.value

/-- The values that a selection comes down to. -/
def Selection.toValues : Selection → ValueSet
  | .values selected => selected
  | .undecided => ∅

/-- The values that a matcher selects, none if it is undecided. -/
def Matcher.matching (matcher : Matcher) (request : Request) (attr : Attribute) :
    Except FilterError ValueSet :=
  (matcher.select request attr).map Selection.toValues

end AttributeRelease
