import AttributeRelease.Engine.Context

/-! The engine applies policies to requests. -/

namespace AttributeRelease

variable [PatternLanguage]

structure Engine where
  component : Component
  policies : List Policy := []

namespace Engine

instance : Inhabited Engine := ⟨{ component := ⟨"", .uninitialised⟩ }⟩

def named (id : String) (policies : List Policy := []) : Engine := { component := { id }, policies }

def id (engine : Engine) : String := engine.component.id

/-- Adds a policy to an engine that is still being assembled. -/
def addPolicy (engine : Engine) (policy : Policy) : Attempt Engine :=
  match engine.component.ensureMutable with
  | .error error => .fail engine error
  | .ok () => .ok { engine with policies := engine.policies ++ [policy] }

/-- Initialises every policy, and names those that fail with the reason. -/
def initialisePolicies : List Policy → List Policy × List (String × ConfigError)
  | [] => ([], [])
  | policy :: rest =>
    let attempt := policy.initialise
    let (others, refused) := initialisePolicies rest
    (attempt.left :: others,
      match attempt.error? with
      | none => refused
      | some error => (policy.id, error) :: refused)

/-- Initialises all policies and then the engine. The ids of the policies have to be distinct. -/
def initialise (engine : Engine) : Attempt Engine :=
  if engine.component.isInitialised then .ok engine
  else
    match Policy.firstRepeated? [] (engine.policies.map Policy.id) with
    | some policyId => .fail engine (.duplicatePolicy policyId engine.id)
    | none =>
      let (policies, refused) := initialisePolicies engine.policies
      if refused.isEmpty then engine.component.attempt ({ component := ·, policies })
      else .fail { engine with policies } (.invalidPolicies refused)

def destroy (engine : Engine) : Engine :=
  { component := engine.component.destroy, policies := engine.policies.map Policy.destroy }

/-- The policies that are not valid, with the reason. -/
def invalidPolicies (engine : Engine) : List (String × ConfigError) :=
  engine.policies.filterMap fun policy =>
    match policy.validate with
    | .ok () => none
    | .error error => some (policy.id, error)

def validate (engine : Engine) : Except ConfigError Unit :=
  let invalid := engine.invalidPolicies
  if invalid.isEmpty then engine.component.ensureUsable else .error (.invalidPolicies invalid)

/-- Applies attribute rules in order, up to the first one that fails. -/
def runRules (request : Request) :
    List AttributeRule → Findings → Traced (Except FilterError Unit × Findings)
  | [], findings => pure (.ok (), findings)
  | rule :: rest, findings => do
    match ← (rule.run request).run with
    | .error error => return (.error error, findings)
    | .ok none => runRules request rest findings
    | .ok (some values) =>
      runRules request rest (findings.add rule.effect rule.attributeId values)

/-- Applies policies in order, up to the first failure. -/
def runPolicies (request : Request) :
    List Policy → Findings → Traced (Except FilterError Unit × Findings)
  | [], findings => pure (.ok (), findings)
  | policy :: rest, findings => do
    let activation ← policy.activation.run request
    let findings := findings.record ⟨policy.id, activation⟩
    if activation.isYes then
      match ← runRules request policy.rules findings with
      | (.error error, findings) => return (.error error, findings)
      | (.ok (), findings) => runPolicies request rest findings
    else runPolicies request rest findings

/-- Filters the attributes of a request, and renews the findings of its context. An engine that
is not usable leaves the context alone. -/
def run (engine : Engine) (context : FilterContext) :
    Traced (Except FilterError (List Attribute) × FilterContext) :=
  match engine.component.ensureUsable with
  | .error error => return (.error (.configuration error), context)
  | .ok () => do
    let (result, findings) ← runPolicies context.request engine.policies {}
    let released := result.map fun () => context.request.attributes.filterMap findings.release?
    return (released, { context with findings })

def filter (engine : Engine) (context : FilterContext) :
    Except FilterError (List Attribute) × FilterContext :=
  (engine.run context).value

/-- What is released of a request. Where filtering fails, that is nothing. -/
def releasedOrNothing : Except FilterError (List Attribute) → List Attribute
  | .ok released => released
  | .error _ => []

end Engine

end AttributeRelease
