import AttributeRelease.Policy.AttributeRule

/-! Policies: attribute rules that apply to the requests for which an activation rule holds. -/

namespace AttributeRelease

variable [PatternLanguage]

structure Policy where
  component : Component
  activation : Rule
  rules : List AttributeRule := []

namespace Policy

instance : Inhabited Policy := ⟨{ component := ⟨"", .uninitialised⟩, activation := default }⟩

def named (id : String) (activation : Rule) (rules : List AttributeRule := []) : Policy :=
  { component := { id }, activation, rules }

def id (policy : Policy) : String := policy.component.id

/-- Adds rules at the end, whatever the phase of life. -/
def withRules (policy : Policy) (rules : List AttributeRule) : Policy :=
  { policy with rules := policy.rules ++ rules }

/-- Adds a rule to a policy that is still being assembled. -/
def addRule (policy : Policy) (rule : AttributeRule) : Attempt Policy :=
  match policy.component.ensureMutable with
  | .error error => .fail policy error
  | .ok () => .ok (policy.withRules [rule])

/-- Names rules without an id after the policy and their place in it. -/
def nameRules (policyId : String) : Nat → List AttributeRule → List AttributeRule
  | _, [] => []
  | index, rule :: rest =>
    { rule with givenId := some (rule.givenId.getD s!"{policyId}/rules[{index}]") } ::
      nameRules policyId (index + 1) rest

/-- The first text that occurs before in the list. -/
def firstRepeated? (seen : List String) : List String → Option String
  | [] => none
  | text :: rest => if text ∈ seen then some text else firstRepeated? (text :: seen) rest

/-- Initialises rules in order up to the first error. -/
def initialiseAttributeRules : List AttributeRule → Attempt (List AttributeRule)
  | [] => .ok []
  | rule :: rest => rule.initialise.andThen (· :: rest) fun rule =>
    (initialiseAttributeRules rest).andThen (rule :: ·) fun rest => .ok (rule :: rest)

/-- Initialises the activation rule, then the attribute rules in order, and then the policy. Ids
have to be distinct; rules without one are named before that is checked. -/
def initialise (policy : Policy) : Attempt Policy :=
  if policy.component.isInitialised then .ok policy
  else if Text.isBlank policy.id then .fail policy (.missing .policyId)
  else
    let named := { policy with rules := nameRules policy.id 0 policy.rules }
    match firstRepeated? [] (named.rules.map AttributeRule.id) with
    | some ruleId => .fail named (.duplicateRule ruleId policy.id)
    | none =>
      named.activation.initialise.andThen ({ named with activation := · }) fun activation =>
        (initialiseAttributeRules named.rules).andThen
          ({ named with activation, rules := · }) fun rules =>
            named.component.attempt ({ component := ·, activation, rules })

def destroy (policy : Policy) : Policy :=
  { component := policy.component.destroy
    activation := policy.activation.destroy
    rules := policy.rules.map AttributeRule.destroy }

def validate (policy : Policy) : Except ConfigError Unit := do
  policy.component.ensureUsable
  policy.activation.validate
  policy.rules.forM AttributeRule.validate

end Policy

end AttributeRelease
