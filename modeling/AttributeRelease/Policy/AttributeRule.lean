import AttributeRelease.Rule.Equality
import AttributeRelease.Rule.Evaluation
import AttributeRelease.Rule.Lifecycle

/-! Rules that permit or deny values of one attribute. -/

namespace AttributeRelease

inductive Effect where
  | permit
  | deny
  deriving DecidableEq

variable [PatternLanguage]

structure AttributeRule where
  /-- The given id. A rule without one is named by its policy. -/
  givenId : Option String := none
  attributeId : String
  effect : Effect := .permit
  matcher : Matcher

namespace AttributeRule

instance : Inhabited AttributeRule := ⟨{ attributeId := "", matcher := default }⟩

/-- Until it is named, a rule goes by the id of its attribute. -/
def id (rule : AttributeRule) : String := rule.givenId.getD rule.attributeId

/-- Equality up to ids and the phase of life. -/
def same (left right : AttributeRule) : Bool :=
  left.attributeId == right.attributeId && left.effect == right.effect &&
    left.matcher.same right.matcher

def isInitialised (rule : AttributeRule) : Bool := rule.matcher.component.isInitialised

def initialise (rule : AttributeRule) : Attempt AttributeRule :=
  if Text.isBlank rule.attributeId then .fail rule (.missing (.attributeIdOfRule rule.id))
  else rule.matcher.initialise.andThen ({ rule with matcher := · }) fun matcher =>
    .ok { rule with matcher }

def destroy (rule : AttributeRule) : AttributeRule := { rule with matcher := rule.matcher.destroy }

def validate (rule : AttributeRule) : Except ConfigError Unit := rule.matcher.validate

/-- What becomes of a selection. A permission that cannot be decided gives nothing, and a denial
that cannot be decided takes everything. -/
def Effect.settle (effect : Effect) (all : ValueSet) : Selection → ValueSet
  | .values selected => selected
  | .undecided =>
    match effect with
    | .permit => ∅
    | .deny => all

/-- The values that the rule permits or denies. If the request does not have the attribute, the
rule does not apply. -/
def run (rule : AttributeRule) (request : Request) : Filtering (Option ValueSet) :=
  match request.attribute? rule.attributeId with
  | none => return none
  | some attr => do
    let selection ← rule.matcher.run request attr
    return some (Effect.settle rule.effect attr.values selection)

def apply (rule : AttributeRule) (request : Request) : Except FilterError (Option ValueSet) :=
  (rule.run request).run.value

end AttributeRule

end AttributeRelease
