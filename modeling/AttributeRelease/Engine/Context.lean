import AttributeRelease.Policy.Basic

/-! What filtering finds out about a request. -/

namespace AttributeRelease

/-- What became of the activation of a policy. -/
structure PolicyOutcome where
  policyId : String
  activation : Tristate
  deriving DecidableEq

/-- Whether the attribute rules of the policy were applied. -/
def PolicyOutcome.applied (outcome : PolicyOutcome) : Bool := outcome.activation.isYes

structure Findings where
  /-- In the order of the policies. -/
  outcomes : List PolicyOutcome := []
  /-- Values by the id of their attribute. -/
  permitted : Dictionary ValueSet := ∅
  denied : Dictionary ValueSet := ∅

namespace Findings

instance : Inhabited Findings := ⟨{}⟩

def record (findings : Findings) (outcome : PolicyOutcome) : Findings :=
  { findings with outcomes := findings.outcomes ++ [outcome] }

private def addTo (entries : Dictionary ValueSet) (attributeId : String) (values : ValueSet) :
    Dictionary ValueSet :=
  entries.insert attributeId (((entries.get? attributeId).getD ∅).union values)

/-- Adds values to those that are permitted or denied for an attribute. -/
def add (findings : Findings) (effect : Effect) (attributeId : String) (values : ValueSet) :
    Findings :=
  match effect with
  | .permit => { findings with permitted := addTo findings.permitted attributeId values }
  | .deny => { findings with denied := addTo findings.denied attributeId values }

/-- Policies that were applied. -/
def activated (findings : Findings) : List String :=
  (findings.outcomes.filter PolicyOutcome.applied).map PolicyOutcome.policyId

/-- Policies that were not applied, with the reason. -/
def skipped (findings : Findings) : List (String × Tristate) :=
  (findings.outcomes.filter fun outcome => !outcome.applied).map fun outcome =>
    (outcome.policyId, outcome.activation)

/-- What is left of an attribute: its permitted values without the denied ones, and no attribute
if there are none. -/
def release? (findings : Findings) (attr : Attribute) : Option Attribute := do
  let permitted ← findings.permitted.get? attr.id
  let retained := permitted.diff ((findings.denied.get? attr.id).getD ∅)
  let filtered := attr.retain retained
  if filtered.values.isEmpty then none else some filtered

/-- Sets of values by the ids of their attributes. -/
private def setsJson (sets : Dictionary ValueSet) : Json :=
  .ofFields (sets.entries.map fun (attributeId, values) => (attributeId, values.toJson))

def toJson (findings : Findings) : Json :=
  .ofFields [("activated", .strings findings.activated),
    ("skipped", .array (findings.skipped.map fun (policyId, activation) =>
      .strings [policyId, activation.text])),
    ("outcomes", .array (findings.outcomes.map fun outcome =>
      .array [.string outcome.policyId, .string outcome.activation.text, .bool outcome.applied])),
    ("permitted", setsJson findings.permitted),
    ("denied", setsJson findings.denied)]

end Findings

/-- A request together with the findings of the last time it was filtered. -/
structure FilterContext where
  request : Request
  findings : Findings := {}

instance : Inhabited FilterContext := ⟨{ request := default }⟩

end AttributeRelease
