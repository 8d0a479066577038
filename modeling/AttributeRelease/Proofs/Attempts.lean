import AttributeRelease.Lifecycle
import AttributeRelease.Policy.Basic

/-! Attempts that are made one after the other: what they leave behind, and which of them fails. -/

namespace AttributeRelease

namespace Attempt

variable {α β : Type}

/-- What an attempt leaves behind in any case, and what if nothing failed. -/
structure Ensures (attempt : Attempt α) (always done : α → Prop) : Prop where
  left : always attempt.left
  finished : attempt.error? = none → done attempt.left

variable {always done : α → Prop}

theorem Ensures.of_ok {value : α} (holds : always value) (ready : done value) : (ok value).Ensures always done :=
  ⟨holds, fun _ => ready⟩

theorem Ensures.of_fail {value : α} (holds : always value) (error : ConfigError) :
    (fail value error).Ensures always done :=
  ⟨holds, fun finished => nomatch finished⟩

theorem Ensures.andThen {after result : β → Prop} {attempt : Attempt α} (first : attempt.Ensures always done)
    {wrap : α → β} {next : α → Attempt β} (failed : ∀ value, always value → after (wrap value))
    (goOn : ∀ value, always value → done value → (next value).Ensures after result) :
    (attempt.andThen wrap next).Ensures after result := by
  obtain ⟨left, error?⟩ := attempt
  cases error? with
  | none => exact goOn left first.left (first.finished rfl)
  | some error => exact of_fail (failed left first.left) error

theorem Ensures.of_finished {attempt : Attempt α} (ensures : attempt.Ensures always done) {value : α}
    (finished : attempt.finished = .ok value) : done value := by
  obtain ⟨left, error?⟩ := attempt
  cases error? with
  | none =>
    cases finished
    exact ensures.finished rfl
  | some error => cases finished

theorem finished_eq_ok_iff {attempt : Attempt α} {value : α} :
    attempt.finished = .ok value ↔ attempt.error? = none ∧ attempt.left = value := by
  obtain ⟨left, error?⟩ := attempt
  cases error? <;> simp [finished]

def each (change : α → Attempt α) : List α → Attempt (List α)
  | [] => ok []
  | item :: rest => (change item).andThen (· :: rest) fun item =>
    (each change rest).andThen (item :: ·) fun rest => ok (item :: rest)

theorem each_ensures {change : α → Attempt α} {items : List α} (untouched : ∀ item ∈ items, always item)
    (one : ∀ item ∈ items, (change item).Ensures always done) :
    (each change items).Ensures (∀ item ∈ ·, always item) (∀ item ∈ ·, done item) := by
  induction items with
  | nil => exact .of_ok (fun _ member => nomatch member) fun _ member => nomatch member
  | cons item rest ih =>
    obtain ⟨_, restUntouched⟩ := List.forall_mem_cons.mp untouched
    obtain ⟨here, later⟩ := List.forall_mem_cons.mp one
    refine here.andThen (fun first holds => List.forall_mem_cons.mpr ⟨holds, restUntouched⟩) ?_
    intro first holds ready
    refine (ih restUntouched later).andThen (fun others hold => List.forall_mem_cons.mpr ⟨holds, hold⟩) ?_
    intro others hold allReady
    exact .of_ok (List.forall_mem_cons.mpr ⟨holds, hold⟩) (List.forall_mem_cons.mpr ⟨ready, allReady⟩)

theorem each_ok {change : α → Attempt α} {result : α → α} {items : List α}
    (succeed : ∀ item ∈ items, change item = ok (result item)) : each change items = ok (items.map result) := by
  induction items with
  | nil => rfl
  | cons item rest ih =>
    obtain ⟨here, later⟩ := List.forall_mem_cons.mp succeed
    rw [each, here, ih later]
    rfl

theorem finished_of_andThen {attempt : Attempt α} {wrap : α → β} {next : α → Attempt β}
    (finished : (attempt.andThen wrap next).error? = none) : attempt.error? = none := by
  obtain ⟨left, error?⟩ := attempt
  cases error? with
  | none => rfl
  | some error => cases finished

theorem error?_andThen {attempt : Attempt α} {wrap : α → β} {next : α → Attempt β} {last : Option ConfigError}
    (same : ∀ value, (next value).error? = last) : (attempt.andThen wrap next).error? = attempt.error?.or last := by
  obtain ⟨left, error?⟩ := attempt
  cases error? with
  | none => exact same left
  | some error => rfl

/-- What fails is the first item that fails on its own. -/
theorem error?_each (change : α → Attempt α) (items : List α) :
    (each change items).error? = items.findSome? fun item => (change item).error? := by
  induction items with
  | nil => rfl
  | cons item rest ih =>
    have later (first : α) : ((each change rest).andThen (first :: ·) fun rest => ok (first :: rest)).error? =
        rest.findSome? fun item => (change item).error? := by
      refine (error?_andThen fun others => (rfl : (ok (first :: others)).error? = none)).trans ?_
      rw [ih, Option.or_none]
    rw [each, error?_andThen later, List.findSome?_cons]
    cases (change item).error? <;> rfl

theorem left_each {change : α → Attempt α} {items : List α} (finished : (each change items).error? = none) :
    (each change items).left = items.map fun item => (change item).left := by
  rw [error?_each, List.findSome?_eq_none_iff] at finished
  rw [each_ok fun item member => congrArg (Attempt.mk (change item).left) (finished item member)]
  rfl

theorem map_left_each {key : α → β} {change : α → Attempt α} {items : List α}
    (same : ∀ item ∈ items, key (change item).left = key item) : (each change items).left.map key = items.map key := by
  induction items with
  | nil => rfl
  | cons item rest ih =>
    obtain ⟨here, later⟩ := List.forall_mem_cons.mp same
    replace ih := ih later
    -- What comes after a failure is left as it is, and so are its keys.
    rw [each]
    generalize change item = attempt at here ⊢
    obtain ⟨left, error?⟩ := attempt
    cases error? with
    | some error => simpa [andThen, fail] using here
    | none =>
      generalize each change rest = others at ih ⊢
      obtain ⟨leftOthers, othersError?⟩ := others
      cases othersError? <;> simpa [andThen, fail, ok] using ⟨here, ih⟩

theorem isEmpty_left_each (change : α → Attempt α) (items : List α) :
    (each change items).left.isEmpty = items.isEmpty := by
  have counted : (each change items).left.map (fun _ => ()) = items.map fun _ => () := map_left_each fun _ _ => rfl
  have lengths := congrArg List.length counted
  rw [List.length_map, List.length_map] at lengths
  rw [Bool.eq_iff_iff, List.isEmpty_iff_length_eq_zero, List.isEmpty_iff_length_eq_zero, lengths]

theorem each_of_failing {change : α → Attempt α} {items : List α} (nonempty : items ≠ [])
    (failing : ∀ item ∈ items, ∃ error, change item = .fail item error) :
    ∃ error, each change items = .fail items error := by
  cases items with
  | nil => exact absurd rfl nonempty
  | cons item rest =>
    obtain ⟨error, failed⟩ := failing item List.mem_cons_self
    exact ⟨error, by rw [each, failed]; rfl⟩

/-- If a second change of each item is as the first one, then so it is for all of them in order. -/
theorem each_again {change : α → Attempt α} {items : List α}
    (again : ∀ item ∈ items, change (change item).left = change item) :
    each change (each change items).left = each change items := by
  induction items with
  | nil => rfl
  | cons item rest ih =>
    obtain ⟨here, later⟩ := List.forall_mem_cons.mp again
    replace ih := ih later
    rw [each]
    generalize change item = attempt at here ⊢
    obtain ⟨left, error?⟩ := attempt
    replace here : change left = ⟨left, error?⟩ := here
    cases error? with
    | some error =>
      -- The item that failed comes first again, and nothing after it is reached.
      change each change (left :: rest) = _
      rw [each, here]
    | none =>
      generalize each change rest = others at ih ⊢
      obtain ⟨leftOthers, othersError?⟩ := others
      replace ih : each change leftOthers = ⟨leftOthers, othersError?⟩ := ih
      have same : each change (left :: leftOthers) =
          (⟨leftOthers, othersError?⟩ : Attempt (List α)).andThen (left :: ·) fun rest => ok (left :: rest) := by
        rw [each, here, andThen, ih]
      cases othersError? <;> exact same

end Attempt

namespace Component

theorem isInitialised_iff {component : Component} :
    component.isInitialised = true ↔ component.ensureUsable = .ok () := by
  rw [ensureUsable_isOk_iff, isInitialised, beq_iff_eq]

theorem idle_of_fresh {component : Component} (fresh : component.phase = .uninitialised) :
    component.isInitialised = false := by
  rw [isInitialised, fresh]
  rfl

theorem error?_attempt {α : Type} {component : Component} (fresh : component.phase = .uninitialised)
    (build : Component → α) : (component.attempt build).error? = none := by
  rw [attempt, initialise, fresh]
  rfl

/-- Only a destroyed component cannot be initialised. -/
theorem attempt_ensures {α : Type} {always done : α → Prop} (component : Component) {build : Component → α}
    (failed : always (build component))
    (started : ∀ after : Component, after.ensureUsable = .ok () → always (build after) ∧ done (build after)) :
    (component.attempt build).Ensures always done := by
  obtain ⟨id, phase⟩ := component
  cases phase with
  | destroyed => exact .of_fail failed _
  | uninitialised | initialised =>
    obtain ⟨holds, ready⟩ := started ⟨id, .initialised⟩ rfl
    exact .of_ok holds ready

theorem attemptChecked_ensures {α : Type} {always done : α → Prop} (component : Component)
    (checked : Except ConfigError Unit) {build : Component → α} (failed : always (build component))
    (started : ∀ after : Component, after.ensureUsable = .ok () → always (build after) ∧ done (build after)) :
    (component.attemptChecked checked build).Ensures always done := by
  cases checked with
  | error error => exact .of_fail failed error
  | ok checked => exact component.attempt_ensures failed started

-- A node is left as it was or started, and it is started only if nothing fails.
theorem attempt_keeps {α : Type} (component : Component) (build : Component → α) :
    ∃ after : Component, (component.attempt build).left = build after ∧ after.id = component.id ∧
      ∀ error, (component.attempt build).error? = some error → after = component := by
  obtain ⟨id, phase⟩ := component
  cases phase with
  | destroyed => exact ⟨⟨id, .destroyed⟩, rfl, rfl, fun _ _ => rfl⟩
  | uninitialised | initialised => exact ⟨⟨id, .initialised⟩, rfl, rfl, nofun⟩

theorem attemptChecked_keeps {α : Type} (component : Component) (checked : Except ConfigError Unit)
    (build : Component → α) :
    ∃ after : Component, (component.attemptChecked checked build).left = build after ∧ after.id = component.id ∧
      (∀ error, (component.attemptChecked checked build).error? = some error → after = component) ∧
      (checked = .ok () ∨ after = component) := by
  cases checked with
  | error cause => exact ⟨component, rfl, rfl, fun _ _ => rfl, .inr rfl⟩
  | ok checked =>
    obtain ⟨after, kept, same, failed⟩ := component.attempt_keeps build
    exact ⟨after, kept, same, failed, .inl rfl⟩

theorem node_keeps {α β : Type} (component : Component) (parts : Attempt α) (build : Component → α → β) :
    ∃ after : Component,
      (parts.andThen (build component) fun parts => component.attempt (build · parts)).left = build after parts.left ∧
      after.id = component.id ∧
      ∀ error, (parts.andThen (build component) fun parts => component.attempt (build · parts)).error? = some error →
        after = component := by
  obtain ⟨left, error?⟩ := parts
  cases error? with
  | some cause => exact ⟨component, rfl, rfl, fun _ _ => rfl⟩
  | none => exact component.attempt_keeps (build · left)

end Component

variable [PatternLanguage]

theorem initialiseRules_eq (rules : List Rule) : initialiseRules rules = Attempt.each Rule.initialise rules := by
  induction rules with
  | nil => rfl
  | cons rule rest ih => rw [initialiseRules, Attempt.each, ih]

theorem initialiseMatchers_eq (matchers : List Matcher) :
    initialiseMatchers matchers = Attempt.each Matcher.initialise matchers := by
  induction matchers with
  | nil => rfl
  | cons matcher rest ih => rw [initialiseMatchers, Attempt.each, ih]

theorem Policy.initialiseAttributeRules_eq (rules : List AttributeRule) :
    initialiseAttributeRules rules = Attempt.each AttributeRule.initialise rules := by
  induction rules with
  | nil => rfl
  | cons rule rest ih => rw [initialiseAttributeRules, Attempt.each, ih]

end AttributeRelease
