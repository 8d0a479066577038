import AttributeRelease.Rule.Basic

/-! The life of rules and matchers. Each operation goes through a whole tree. -/

namespace AttributeRelease

variable [PatternLanguage]

/-- What a leaf checks before it is initialised. -/
def RuleLeaf.check (component : String) : RuleLeaf → Except ConfigError Unit
  | .ofScript script => script.check component
  | _ => .ok ()

def MatcherLeaf.check (component : String) : MatcherLeaf → Except ConfigError Unit
  | .ofScript script => script.check component
  | _ => .ok ()

/-- Initialises a node without parts once its content is found in order. -/
def Component.attemptChecked {α : Type} (component : Component)
    (checked : Except ConfigError Unit) (build : Component → α) : Attempt α :=
  match checked with
  | .ok () => component.attempt build
  | .error error => .fail (build component) error

mutual
/-- Initialises the parts in order and then the rule itself. The first error ends that, and
what was initialised before it stays so. A rule that is initialised is left alone. -/
def Rule.initialise : Rule → Attempt Rule
  | .atom component leaf =>
    if component.isInitialised then .ok (.atom component leaf)
    else component.attemptChecked (leaf.check component.id) (.atom · leaf)
  | .and component children =>
    if component.isInitialised then .ok (.and component children)
    else if children.isEmpty then .fail (.and component children) (.emptyComposition component.id)
    else (initialiseRules children).andThen (.and component) fun children =>
      component.attempt (.and · children)
  | .or component children =>
    if component.isInitialised then .ok (.or component children)
    else if children.isEmpty then .fail (.or component children) (.emptyComposition component.id)
    else (initialiseRules children).andThen (.or component) fun children =>
      component.attempt (.or · children)
  | .not component child =>
    if component.isInitialised then .ok (.not component child)
    else child.initialise.andThen (.not component) fun child =>
      component.attempt (.not · child)
  | .attributeMatches component attributeId matcher =>
    if component.isInitialised then .ok (.attributeMatches component attributeId matcher)
    else matcher.initialise.andThen (.attributeMatches component attributeId) fun matcher =>
      component.attempt (.attributeMatches · attributeId matcher)

def initialiseRules : List Rule → Attempt (List Rule)
  | [] => .ok []
  | rule :: rest => rule.initialise.andThen (· :: rest) fun rule =>
    (initialiseRules rest).andThen (rule :: ·) fun rest => .ok (rule :: rest)

/-- Initialises a matcher as a rule is initialised. -/
def Matcher.initialise : Matcher → Attempt Matcher
  | .atom component leaf =>
    if component.isInitialised then .ok (.atom component leaf)
    else component.attemptChecked (leaf.check component.id) (.atom · leaf)
  | .fromRule component rule =>
    if component.isInitialised then .ok (.fromRule component rule)
    else rule.initialise.andThen (.fromRule component) fun rule =>
      component.attempt (.fromRule · rule)
  | .and component children =>
    if component.isInitialised then .ok (.and component children)
    else if children.isEmpty then .fail (.and component children) (.emptyComposition component.id)
    else (initialiseMatchers children).andThen (.and component) fun children =>
      component.attempt (.and · children)
  | .or component children =>
    if component.isInitialised then .ok (.or component children)
    else if children.isEmpty then .fail (.or component children) (.emptyComposition component.id)
    else (initialiseMatchers children).andThen (.or component) fun children =>
      component.attempt (.or · children)
  | .not component child =>
    if component.isInitialised then .ok (.not component child)
    else child.initialise.andThen (.not component) fun child =>
      component.attempt (.not · child)

def initialiseMatchers : List Matcher → Attempt (List Matcher)
  | [] => .ok []
  | matcher :: rest => matcher.initialise.andThen (· :: rest) fun matcher =>
    (initialiseMatchers rest).andThen (matcher :: ·) fun rest => .ok (matcher :: rest)
end

mutual
/-- Destroys a rule with all of its parts. -/
def Rule.destroy : Rule → Rule
  | .atom component leaf => .atom component.destroy leaf
  | .and component children => .and component.destroy (destroyRules children)
  | .or component children => .or component.destroy (destroyRules children)
  | .not component child => .not component.destroy child.destroy
  | .attributeMatches component attributeId matcher =>
    .attributeMatches component.destroy attributeId matcher.destroy

def destroyRules : List Rule → List Rule
  | [] => []
  | rule :: rest => rule.destroy :: destroyRules rest

def Matcher.destroy : Matcher → Matcher
  | .atom component leaf => .atom component.destroy leaf
  | .fromRule component rule => .fromRule component.destroy rule.destroy
  | .and component children => .and component.destroy (destroyMatchers children)
  | .or component children => .or component.destroy (destroyMatchers children)
  | .not component child => .not component.destroy child.destroy

def destroyMatchers : List Matcher → List Matcher
  | [] => []
  | matcher :: rest => matcher.destroy :: destroyMatchers rest
end

mutual
/-- Whether a rule and all of its parts are usable. The first one that is not is named. -/
def Rule.validate : Rule → Except ConfigError Unit
  | .atom component _ => component.ensureUsable
  | .and component children => do
    component.ensureUsable
    validateRules children
  | .or component children => do
    component.ensureUsable
    validateRules children
  | .not component child => do
    component.ensureUsable
    child.validate
  | .attributeMatches component _ matcher => do
    component.ensureUsable
    matcher.validate

def validateRules : List Rule → Except ConfigError Unit
  | [] => .ok ()
  | rule :: rest => do
    rule.validate
    validateRules rest

def Matcher.validate : Matcher → Except ConfigError Unit
  | .atom component _ => component.ensureUsable
  | .fromRule component rule => do
    component.ensureUsable
    rule.validate
  | .and component children => do
    component.ensureUsable
    validateMatchers children
  | .or component children => do
    component.ensureUsable
    validateMatchers children
  | .not component child => do
    component.ensureUsable
    child.validate

def validateMatchers : List Matcher → Except ConfigError Unit
  | [] => .ok ()
  | matcher :: rest => do
    matcher.validate
    validateMatchers rest
end

end AttributeRelease
