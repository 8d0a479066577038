import AttributeRelease.Expression.Language
import AttributeRelease.Proofs.Acceptance
import AttributeRelease.Regex.Language
import AttributeRelease.Service.Basic

/-! A service under calls that exchange its engine and registry. A call replaces both of them or
changes nothing, and never lets an engine in that is not valid. -/

namespace AttributeRelease

section

variable [PatternLanguage]

namespace Service

/-- A call that is to exchange what a service runs. -/
inductive Call where
  | install (engine : Engine) (registry : Registry)
  | load (definitions : ReleaseDefinitions) (catalog : Catalog) (types : List TypeInfo)

def settle (service : Service) : Except ConfigError (Engine × Registry) → Except ServiceError Nat × Service
  | .ok (engine, registry) =>
    (.ok (service.version + 1), { service with current := { version := service.version + 1, engine, registry } })
  | .error cause => (.error (.configuration cause), service)

structure Sound (settings : ReleaseSettings) (accepted : Nat) (service : Service) : Prop where
  settings : service.settings = settings
  version : service.version = 1 + accepted
  valid : service.current.engine.validate = .ok ()

theorem Sound.of_start {settings : ReleaseSettings} {engine : Engine} {registry : Registry} {service : Service}
    (started : start settings engine registry = .ok service) : service.Sound settings 0 := by
  obtain ⟨_, _, rest⟩ := bind_eq_ok_iff.mp started
  obtain ⟨_, checked, same⟩ := bind_eq_ok_iff.mp rest
  cases same
  refine ⟨rfl, rfl, ?_⟩
  cases valid : engine.validate with
  | error cause => rw [valid] at checked; cases checked
  | ok done => rfl

end Service

variable [ScriptLanguage]

theorem ReleaseDefinitions.build_valid {definitions : ReleaseDefinitions} {settings : ReleaseSettings} {catalog : Catalog}
    {types : List TypeInfo} {engine : Engine} {registry : Registry}
    (built : definitions.build settings catalog types = .ok (engine, registry)) : engine.validate = .ok () := by
  obtain ⟨first, engineBuilt, rest⟩ := bind_eq_ok_iff.mp built
  obtain ⟨rules, _, rest⟩ := bind_eq_ok_iff.mp rest
  obtain ⟨second, _, same⟩ := bind_eq_ok_iff.mp rest
  cases same
  exact (Builder.engine_checked engineBuilt).valid

namespace Service

/-- What a call answers, and the service after it. A call that fails has no effect. -/
def answer (service : Service) (call : Call) : Except ServiceError Nat × Service :=
  let attempt :=
    match call with
    | .install engine registry => service.install engine registry
    | .load definitions catalog types => service.load definitions catalog types
  match attempt with
  | .ok after => (.ok after.version, after)
  | .error error => (.error error, service)

def serve (service : Service) : List Call → List (Except ServiceError Nat) × Service
  | [] => ([], service)
  | call :: rest =>
    let (result, next) := service.answer call
    let (results, last) := next.serve rest
    (result :: results, last)

/-- An engine and a registry that a call puts in place of the current ones, or else the reason why it
does not. -/
def Call.proposal (settings : ReleaseSettings) : Call → Except ConfigError (Engine × Registry)
  | .install engine registry => engine.validate.map fun () => (engine, registry)
  | .load definitions catalog types => definitions.build settings catalog types

theorem Call.proposal_valid {settings : ReleaseSettings} {call : Call} {engine : Engine} {registry : Registry}
    (proposed : call.proposal settings = .ok (engine, registry)) : engine.validate = .ok () := by
  cases call with
  | install given other =>
    rw [proposal] at proposed
    cases valid : given.validate with
    | error cause => rw [valid] at proposed; cases proposed
    | ok checked =>
      rw [valid] at proposed
      cases proposed
      exact valid
  | load definitions catalog types => exact ReleaseDefinitions.build_valid proposed

/-- A call succeeds exactly if it has something to propose. In particular, what has been built is never
refused when it is installed. -/
theorem answer_eq (service : Service) (call : Call) :
    service.answer call = service.settle (call.proposal service.settings) := by
  cases call with
  | install engine registry =>
    rw [answer, Call.proposal, install]
    cases engine.validate <;> rfl
  | load definitions catalog types =>
    simp only [answer, Call.proposal, load]
    cases built : definitions.build service.settings catalog types with
    | error cause => rfl
    | ok pair =>
      obtain ⟨engine, registry⟩ := pair
      simp only [install, ReleaseDefinitions.build_valid built]
      rfl

variable {settings : ReleaseSettings} {accepted : Nat} {service : Service}

theorem Sound.answer (sound : service.Sound settings accepted) (call : Call) :
    (service.answer call).2.Sound settings (accepted + if (service.answer call).1.isOk then 1 else 0) := by
  rw [answer_eq]
  cases proposed : call.proposal service.settings with
  | error cause => exact sound
  | ok pair =>
    obtain ⟨engine, registry⟩ := pair
    exact ⟨sound.settings, congrArg (· + 1) sound.version, Call.proposal_valid proposed⟩

theorem Sound.serve (sound : service.Sound settings accepted) (calls : List Call) :
    (service.serve calls).2.Sound settings (accepted + (service.serve calls).1.countP Except.isOk) := by
  induction calls generalizing service accepted with
  | nil => exact sound
  | cons call rest ih =>
    have counted : accepted + (service.serve (call :: rest)).1.countP Except.isOk =
        accepted + (if (service.answer call).1.isOk then 1 else 0) +
          ((service.answer call).2.serve rest).1.countP Except.isOk := by
      rw [serve, List.countP_cons]
      omega
    rw [counted]
    exact ih (sound.answer call)

/-- Whatever calls have been made to a service since its start: its version counts those that succeeded, and
its engine is valid. The next call puts its own engine and registry in place together, or has no effect:
installing fails exactly if the engine is not valid, and loading exactly if nothing can be built. -/
theorem serve_replaces_or_keeps (settings : ReleaseSettings) (engine : Engine) (registry : Registry) (service : Service)
    (started : start settings engine registry = .ok service) (calls : List Call) :
    let (results, now) := service.serve calls
    now.version = 1 + results.countP Except.isOk ∧ now.current.engine.validate = .ok () ∧
      (∀ engine registry, now.answer (.install engine registry) =
        match engine.validate with
        | .ok () => (.ok (now.version + 1), { now with current := { version := now.version + 1, engine, registry } })
        | .error cause => (.error (.configuration cause), now)) ∧
      ∀ definitions catalog types, now.answer (.load definitions catalog types) =
        match definitions.build settings catalog types with
        | .ok (engine, registry) =>
          (.ok (now.version + 1), { now with current := { version := now.version + 1, engine, registry } })
        | .error cause => (.error (.configuration cause), now) := by
  have sound := (Sound.of_start started).serve calls
  rw [Nat.zero_add] at sound
  refine ⟨sound.version, sound.valid, fun engine registry => ?install, fun definitions catalog types => ?load⟩
  case install =>
    rw [answer_eq, Call.proposal]
    cases engine.validate <;> rfl
  case load =>
    have settled := answer_eq (service.serve calls).2 (.load definitions catalog types)
    rw [sound.settings] at settled
    rw [settled, Call.proposal]
    cases definitions.build settings catalog types <;> rfl

end Service

end

attribute [local instance] Regex.language Script.Expr.language

namespace Service

private def home : Engine := (Engine.named "home").initialise.left

/-- An engine that is not initialised and a policy without an id are refused. The definitions between them
are accepted. -/
theorem serve_replaces_or_keeps_home :
    ∃ service, start {} home {} = .ok service ∧
      let (results, now) := service.serve [.install (.named "idle") {}, .load { engineId := "release" } {} [],
        .load { policies := [{ id := "", activation := .any }] } {} []]
      results.countP Except.isOk = 1 ∧ now.version = 2 ∧ now.current.engine.validate = .ok () ∧
        (now.answer (.install home {})).1 = .ok 3 := by
  refine ⟨{ settings := {}, current := { version := 1, engine := home, registry := {} } }, rfl, ?_⟩
  obtain ⟨version, valid, install, _⟩ := serve_replaces_or_keeps {} home {} _ rfl
    [.install (.named "idle") {}, .load { engineId := "release" } {} [],
      .load { policies := [{ id := "", activation := .any }] } {} []]
  exact ⟨rfl, version, valid, congrArg Prod.fst (install home {})⟩

end Service

end AttributeRelease
