import AttributeRelease.Engine.Basic

/-! A component is valid if it is usable and all of its parts are valid. -/

namespace AttributeRelease

theorem bind_isOk_iff {ε : Type} {first second : Except ε Unit} :
    (first >>= fun _ => second) = .ok () ↔ first = .ok () ∧ second = .ok () := by
  cases first with
  | error error => simp [bind, Except.bind]
  | ok value => simp [bind, Except.bind]

theorem bind_eq_ok_iff {ε α β : Type} {first : Except ε α} {next : α → Except ε β} {result : β} :
    (first >>= next) = .ok result ↔ ∃ value, first = .ok value ∧ next value = .ok result := by
  cases first with
  | error error => simp [bind, Except.bind]
  | ok value => simp [bind, Except.bind]

theorem map_eq_ok_iff {ε α β : Type} {change : α → β} {result : Except ε α} {value : β} :
    result.map change = .ok value ↔ ∃ found, result = .ok found ∧ change found = value := by
  cases result <;> simp [Except.map]

theorem map_eq_error_iff {ε α β : Type} {change : α → β} {result : Except ε α} {error : ε} :
    result.map change = .error error ↔ result = .error error := by
  cases result <;> simp [Except.map]

theorem forM_isOk_iff {ε α : Type} {check : α → Except ε Unit} {items : List α} :
    items.forM check = .ok () ↔ ∀ item ∈ items, check item = .ok () := by
  induction items with
  | nil => simp [pure, Except.pure]
  | cons item rest ih =>
    have unfolded : (item :: rest).forM check = (check item >>= fun _ => rest.forM check) := rfl
    rw [unfolded, bind_isOk_iff, ih, List.forall_mem_cons]

variable [PatternLanguage]

theorem validateRules_isOk_iff {rules : List Rule} :
    validateRules rules = .ok () ↔ ∀ rule ∈ rules, rule.validate = .ok () := by
  induction rules with
  | nil => simp [validateRules]
  | cons rule rest ih => rw [validateRules, bind_isOk_iff, ih, List.forall_mem_cons]

theorem validateRules_map {change : Rule → Rule} {rules : List Rule}
    (same : ∀ rule ∈ rules, (change rule).validate = rule.validate) :
    validateRules (rules.map change) = validateRules rules := by
  induction rules with
  | nil => rfl
  | cons rule rest ih =>
    obtain ⟨here, later⟩ := List.forall_mem_cons.mp same
    rw [List.map_cons, validateRules, validateRules, here, ih later]

theorem validateMatchers_isOk_iff {matchers : List Matcher} :
    validateMatchers matchers = .ok () ↔ ∀ matcher ∈ matchers, matcher.validate = .ok () := by
  induction matchers with
  | nil => simp [validateMatchers]
  | cons matcher rest ih => rw [validateMatchers, bind_isOk_iff, ih, List.forall_mem_cons]

theorem validateMatchers_map {change : Matcher → Matcher} {matchers : List Matcher}
    (same : ∀ matcher ∈ matchers, (change matcher).validate = matcher.validate) :
    validateMatchers (matchers.map change) = validateMatchers matchers := by
  induction matchers with
  | nil => rfl
  | cons matcher rest ih =>
    obtain ⟨here, later⟩ := List.forall_mem_cons.mp same
    rw [List.map_cons, validateMatchers, validateMatchers, here, ih later]

theorem Policy.validate_isOk_iff {policy : Policy} :
    policy.validate = .ok () ↔
      policy.component.ensureUsable = .ok () ∧ policy.activation.validate = .ok () ∧
        ∀ rule ∈ policy.rules, rule.matcher.validate = .ok () := by
  rw [Policy.validate, bind_isOk_iff, bind_isOk_iff, forM_isOk_iff]
  rfl

theorem Engine.invalidPolicies_eq_nil_iff {engine : Engine} :
    engine.invalidPolicies = [] ↔ ∀ policy ∈ engine.policies, policy.validate = .ok () := by
  rw [invalidPolicies, List.filterMap_eq_nil_iff]
  refine forall₂_congr fun policy _ => ?_
  cases policy.validate <;> simp

theorem Engine.validate_isOk_iff {engine : Engine} :
    engine.validate = .ok () ↔
      engine.component.ensureUsable = .ok () ∧ ∀ policy ∈ engine.policies, policy.validate = .ok () := by
  rw [validate, ← invalidPolicies_eq_nil_iff]
  cases engine.invalidPolicies <;> simp

theorem Engine.rule_isOk {engine : Engine} (valid : engine.validate = .ok ()) {policy : Policy}
    (member : policy ∈ engine.policies) {rule : AttributeRule} (inside : rule ∈ policy.rules) :
    rule.matcher.validate = .ok () :=
  (Policy.validate_isOk_iff.mp ((validate_isOk_iff.mp valid).2 policy member)).2.2 rule inside

end AttributeRelease
