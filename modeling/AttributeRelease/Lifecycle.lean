import AttributeRelease.ConfigError

/-! The life of a component: it is assembled, then initialised and from there on read-only,
and in the end destroyed. -/

namespace AttributeRelease

inductive Phase where
  | uninitialised
  | initialised
  | destroyed
  deriving DecidableEq

/-- What every part of a configuration carries: the name used in diagnostics, and where it
stands in its life. -/
structure Component where
  id : String
  phase : Phase := .uninitialised
  deriving DecidableEq

namespace Component

def isInitialised (component : Component) : Bool := component.phase == .initialised

/-- Initialising again changes nothing. A destroyed component stays destroyed. -/
def initialise (component : Component) : Except ConfigError Component :=
  match component.phase with
  | .destroyed => .error (.destroyed component.id)
  | _ => .ok { component with phase := .initialised }

def destroy (component : Component) : Component := { component with phase := .destroyed }

/-- Fails unless the component is initialised. -/
def ensureUsable (component : Component) : Except ConfigError Unit :=
  match component.phase with
  | .initialised => .ok ()
  | .uninitialised => .error (.notInitialised component.id)
  | .destroyed => .error (.destroyed component.id)

/-- Fails unless the component is still being assembled. -/
def ensureMutable (component : Component) : Except ConfigError Unit :=
  match component.phase with
  | .uninitialised => .ok ()
  | .initialised => .error (.immutable component.id)
  | .destroyed => .error (.destroyed component.id)

theorem ensureUsable_isOk_iff (component : Component) :
    component.ensureUsable = .ok () ↔ component.phase = .initialised := by
  rw [ensureUsable]
  cases component.phase <;> simp

theorem ensureMutable_isOk_iff (component : Component) :
    component.ensureMutable = .ok () ↔ component.phase = .uninitialised := by
  rw [ensureMutable]
  cases component.phase <;> simp

end Component

/-- How an operation that may fail half-way ended: what it left behind, and the error that
stopped it. -/
structure Attempt (α : Type) where
  left : α
  error? : Option ConfigError

namespace Attempt

variable {α β : Type}

def ok (value : α) : Attempt α := ⟨value, none⟩

def fail (value : α) (error : ConfigError) : Attempt α := ⟨value, some error⟩

/-- What was left, if nothing failed. -/
def finished (attempt : Attempt α) : Except ConfigError α :=
  match attempt.error? with
  | none => .ok attempt.left
  | some error => .error error

def map (change : α → β) (attempt : Attempt α) : Attempt β := ⟨change attempt.left, attempt.error?⟩

/-- Goes on from what was left if nothing failed, and else wraps what was left. -/
def andThen (attempt : Attempt α) (wrap : α → β) (next : α → Attempt β) : Attempt β :=
  match attempt.error? with
  | none => next attempt.left
  | some error => .fail (wrap attempt.left) error

end Attempt

/-- Initialises the component of a node whose content is `build`. -/
def Component.attempt {α : Type} (component : Component) (build : Component → α) : Attempt α :=
  match component.initialise with
  | .ok started => .ok (build started)
  | .error error => .fail (build component) error

end AttributeRelease
