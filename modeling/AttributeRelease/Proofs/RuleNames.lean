import AttributeRelease.Proofs.Retries
import AttributeRelease.Regex.Language
import Mathlib.Data.List.Nodup

/-! The ids of attribute rules in their policy. A rule keeps the id that it was given, and else it is named after its
place. It gets that name when the policy is first to be initialised, and keeps it if that fails. As rules are only ever
added at the end, the name still tells the place when the policy is initialised at last. -/

namespace AttributeRelease

namespace Policy

/-- Names by place are distinct among themselves. -/
theorem name_inj {policyId : String} {first second : Nat} :
    s!"{policyId}/rules[{first}]" = s!"{policyId}/rules[{second}]" ↔ first = second := by
  refine ⟨fun same => ?_, fun same => same ▸ rfl⟩
  have digits : Nat.toDigits 10 first = Nat.toDigits 10 second := by
    simpa using congrArg String.toList same
  rw [← @Nat.ofDigitChars_ten_toDigits first, digits, Nat.ofDigitChars_ten_toDigits]

end Policy

section

variable [PatternLanguage]

namespace AttributeRule

def settle (rule : AttributeRule) : AttributeRule := { rule with matcher := rule.matcher.initialise.left }

theorem settle_initialise (rule : AttributeRule) : rule.initialise.left.settle = rule.settle := by
  have again := congrArg Attempt.left (AttributeRelease.initialise_again.2 rule.matcher)
  rw [initialise]
  split
  · rfl
  · simp only [settle]
    generalize rule.matcher.initialise = attempt at again ⊢
    obtain ⟨matcher, error?⟩ := attempt
    cases error? <;> exact congrArg ({ rule with matcher := · }) again

theorem left_initialise {rule : AttributeRule} (finished : rule.initialise.error? = none) :
    rule.initialise.left = rule.settle := by
  rw [initialise] at finished ⊢
  split at finished
  next blank => cases finished
  next filled =>
    rw [if_neg filled, settle]
    generalize rule.matcher.initialise = attempt
    obtain ⟨matcher, error?⟩ := attempt
    cases error? <;> rfl

end AttributeRule

namespace Policy

theorem nameRules_eq_mapIdx (policyId : String) (start : Nat) (rules : List AttributeRule) :
    nameRules policyId start rules = rules.mapIdx fun index rule =>
      { rule with givenId := some (rule.givenId.getD s!"{policyId}/rules[{start + index}]") } := by
  induction rules generalizing start with
  | nil => rfl
  | cons rule rest ih =>
    rw [nameRules, ih, List.mapIdx_cons]
    simp only [Nat.add_zero, Nat.add_assoc, Nat.add_comm 1]

theorem nameRules_append (policyId : String) (start : Nat) (first second : List AttributeRule) :
    nameRules policyId start (first ++ second) =
      nameRules policyId start first ++ nameRules policyId (start + first.length) second := by
  simp only [nameRules_eq_mapIdx, List.mapIdx_append, Nat.add_assoc, Nat.add_comm first.length]

theorem map_settle_nameRules (policyId : String) (start : Nat) (rules : List AttributeRule) :
    (nameRules policyId start rules).map AttributeRule.settle =
      nameRules policyId start (rules.map AttributeRule.settle) := by
  induction rules generalizing start with
  | nil => rfl
  | cons rule rest ih =>
    rw [nameRules, List.map_cons, List.map_cons, ih, nameRules]
    rfl

def ruleIds (policyId : String) (rules : List AttributeRule) : List String :=
  rules.mapIdx fun index rule => rule.givenId.getD s!"{policyId}/rules[{index}]"

theorem map_id_nameRules (policyId : String) (rules : List AttributeRule) :
    (nameRules policyId 0 rules).map AttributeRule.id = ruleIds policyId rules := by
  rw [nameRules_eq_mapIdx, ruleIds]
  refine List.ext_getElem? fun index => ?_
  rw [List.getElem?_map, List.getElem?_mapIdx, List.getElem?_mapIdx, Option.map_map, Nat.zero_add]
  rfl

/-- Where a rule has an id that it was given, another one has the same id, because it was given it too or is named so. -/
def Collide (policyId : String) (rules : List AttributeRule) : Prop :=
  ∃ (first second : Nat) (id : String), first ≠ second ∧ rules[first]?.bind AttributeRule.givenId = some id ∧
    (ruleIds policyId rules)[second]? = some id

theorem getElem?_ruleIds (policyId : String) (rules : List AttributeRule) (index : Nat) :
    (ruleIds policyId rules)[index]? = rules[index]?.map fun rule => rule.givenId.getD s!"{policyId}/rules[{index}]" :=
  List.getElem?_mapIdx

theorem getElem?_ruleIds_of_given {policyId : String} {rules : List AttributeRule} {index : Nat} {id : String}
    (given : rules[index]?.bind AttributeRule.givenId = some id) : (ruleIds policyId rules)[index]? = some id := by
  obtain ⟨rule, found, given⟩ := Option.bind_eq_some_iff.mp given
  rw [getElem?_ruleIds, found, Option.map_some, given, Option.getD_some]

theorem given_or_named {policyId : String} {rules : List AttributeRule} {index : Nat} {id : String}
    (has : (ruleIds policyId rules)[index]? = some id) :
    rules[index]?.bind AttributeRule.givenId = some id ∨ id = s!"{policyId}/rules[{index}]" := by
  rw [getElem?_ruleIds] at has
  obtain ⟨rule, found, same⟩ := Option.map_eq_some_iff.mp has
  rw [found, Option.bind_some]
  cases given : rule.givenId with
  | some own => exact .inl (by rw [← same, given, Option.getD_some])
  | none => exact .inr (by rw [← same, given, Option.getD_none])

theorem not_nodup_ruleIds_iff {policyId : String} {rules : List AttributeRule} :
    ¬ (ruleIds policyId rules).Nodup ↔ Collide policyId rules := by
  constructor
  · intro repeated
    rw [List.nodup_iff_getElem?_ne_getElem?] at repeated
    push Not at repeated
    obtain ⟨first, second, before, inside, same⟩ := repeated
    obtain ⟨id, has⟩ : ∃ id, (ruleIds policyId rules)[second]? = some id := ⟨_, List.getElem?_eq_getElem inside⟩
    have hasFirst := same.trans has
    -- Of two rules with the same id one was given it.
    rcases given_or_named hasFirst with given | named
    · exact ⟨first, second, id, by omega, given, has⟩
    rcases given_or_named has with given | namedToo
    · exact ⟨second, first, id, by omega, given, hasFirst⟩
    have same := name_inj.mp (named.symm.trans namedToo)
    omega
  · rintro ⟨first, second, id, apart, given, has⟩ distinct
    have hasFirst : (ruleIds policyId rules)[first]? = some id := getElem?_ruleIds_of_given given
    obtain ⟨inside, _⟩ := List.getElem?_eq_some_iff.mp hasFirst
    exact apart ((List.getElem?_inj inside distinct).mp (hasFirst.trans has.symm))

/-- What calls make of a new policy until it is initialised, and the rules that were put into it. A call to initialise it
may have failed at any time, and a single rule is put into it like a list of one. -/
inductive Assembled (id : String) (activation : Rule) : List AttributeRule → Policy → Prop where
  | named : Assembled id activation [] (.named id activation)
  | withRules {given : List AttributeRule} {policy : Policy} (before : Assembled id activation given policy)
      (rules : List AttributeRule) : Assembled id activation (given ++ rules) (policy.withRules rules)
  | addRule {given : List AttributeRule} {policy after : Policy} (before : Assembled id activation given policy)
      {rule : AttributeRule} (added : policy.addRule rule = .ok after) : Assembled id activation (given ++ [rule]) after
  | failed {given : List AttributeRule} {policy : Policy} (before : Assembled id activation given policy)
      {error : ConfigError} (failed : policy.initialise.error? = some error) :
      Assembled id activation given policy.initialise.left

/-- The rules as they are in the end, whether or not they have been named, or their matchers initialised, already. -/
def settledRules (policyId : String) (rules : List AttributeRule) : List AttributeRule :=
  nameRules policyId 0 (rules.map AttributeRule.settle)

theorem map_id_settledRules (policyId : String) (rules : List AttributeRule) :
    (settledRules policyId rules).map AttributeRule.id = ruleIds policyId rules := by
  rw [settledRules, ← map_settle_nameRules, List.map_map, ← map_id_nameRules]
  rfl

theorem settledRules_nameRules (policyId : String) (rules : List AttributeRule) :
    settledRules policyId (nameRules policyId 0 rules) = settledRules policyId rules := by
  rw [settledRules, map_settle_nameRules, (named_nameRules policyId 0 _).nameRules, settledRules]

theorem settledRules_append {policyId : String} {first second : List AttributeRule}
    (same : settledRules policyId first = settledRules policyId second) (added : List AttributeRule) :
    settledRules policyId (first ++ added) = settledRules policyId (second ++ added) := by
  have lengths := congrArg List.length same
  simp only [settledRules, nameRules_eq_mapIdx, List.length_mapIdx, List.length_map] at lengths
  simp only [settledRules, List.map_append, nameRules_append, List.length_map] at same ⊢
  rw [same, lengths]

/-- A policy that is being assembled, with the rules that were put into it. -/
structure Holds (id : String) (given : List AttributeRule) (policy : Policy) : Prop where
  component : policy.component = { id }
  rules : settledRules id policy.rules = settledRules id given

variable {id : String} {activation : Rule} {given : List AttributeRule} {policy : Policy}

theorem Holds.withRules (holds : Holds id given policy) (rules : List AttributeRule) :
    Holds id (given ++ rules) (policy.withRules rules) where
  component := holds.component
  rules := settledRules_append holds.rules rules

theorem Holds.addRule (holds : Holds id given policy) (rule : AttributeRule) :
    policy.addRule rule = .ok (policy.withRules [rule]) := by
  rw [Policy.addRule, holds.component]
  rfl

theorem Holds.initialise_eq (holds : Holds id given policy) (filled : Text.isBlank id = false) :
    (∀ ruleId, firstRepeated? [] (ruleIds id given) = some ruleId →
      policy.initialise = .fail { policy with rules := nameRules id 0 policy.rules } (.duplicateRule ruleId id)) ∧
    (firstRepeated? [] (ruleIds id given) = none →
      policy.initialise =
        (initialiseParts policy.activation (nameRules id 0 policy.rules)).andThen (ofParts policy.component)
          fun parts => policy.component.attempt (ofParts · parts)) := by
  obtain ⟨component, activation, rules⟩ := policy
  have same : component = { id } := holds.component
  have ids : (nameRules id 0 rules).map AttributeRule.id = ruleIds id given := by
    rw [map_id_nameRules, ← map_id_settledRules, holds.rules, map_id_settledRules]
  subst same
  have run := @initialise_of_filled _ { id } rfl filled activation rules
  rw [ids] at run
  constructor
  · intro ruleId repeated
    rw [repeated] at run
    exact run
  · intro distinct
    rw [distinct] at run
    exact run

theorem Holds.failed (holds : Holds id given policy) (filled : Text.isBlank id = false) {error : ConfigError}
    (failed : policy.initialise.error? = some error) : Holds id given policy.initialise.left := by
  obtain ⟨stopped, run⟩ := holds.initialise_eq filled
  cases repeated : firstRepeated? [] (ruleIds id given) with
  | some ruleId =>
    rw [stopped ruleId repeated]
    exact ⟨holds.component, (settledRules_nameRules ..).trans holds.rules⟩
  | none =>
    rw [run repeated] at failed ⊢
    obtain ⟨after, left, _, unchanged⟩ :=
      policy.component.node_keeps (initialiseParts policy.activation (nameRules id 0 policy.rules)) ofParts
    have settled := map_left_initialiseParts AttributeRule.settle_initialise policy.activation (nameRules id 0 policy.rules)
    rw [left, unchanged error failed]
    refine ⟨holds.component, ?_⟩
    rw [← holds.rules, ← settledRules_nameRules id policy.rules]
    exact congrArg (nameRules id 0) settled

/-- Whatever calls have been made to a policy, as long as it has not been initialised, its rules are the given ones in
their order. -/
theorem Assembled.holds (assembled : policy.Assembled id activation given) (filled : Text.isBlank id = false) :
    Holds id given policy := by
  induction assembled with
  | named => exact ⟨rfl, rfl⟩
  | withRules _ rules holds => exact holds.withRules rules
  | addRule _ added holds =>
    rw [holds.addRule] at added
    cases added
    exact holds.withRules _
  | failed _ failed holds => exact holds.failed filled failed

theorem left_initialiseParts {rules : List AttributeRule} (finished : (initialiseParts activation rules).error? = none) :
    (initialiseParts activation rules).left.2 = rules.map AttributeRule.settle := by
  rw [initialiseParts] at finished ⊢
  generalize activation.initialise = attempt at finished ⊢
  obtain ⟨left, error?⟩ := attempt
  cases error? with
  | some error => cases finished
  | none =>
    have all : (Attempt.each AttributeRule.initialise rules).error? = none := finished
    have each := Attempt.error?_each AttributeRule.initialise rules
    rw [all, eq_comm, List.findSome?_eq_none_iff] at each
    exact (Attempt.left_each all).trans (List.map_congr_left fun rule member => rule.left_initialise (each rule member))

theorem Holds.finished (holds : Holds id given policy) (filled : Text.isBlank id = false)
    (finished : policy.initialise.error? = none) :
    policy.initialise.left.rules = settledRules id given ∧ (ruleIds id given).Nodup := by
  obtain ⟨stopped, run⟩ := holds.initialise_eq filled
  cases repeated : firstRepeated? [] (ruleIds id given) with
  | some ruleId =>
    rw [stopped ruleId repeated] at finished
    cases finished
  | none =>
    rw [run repeated] at finished ⊢
    obtain ⟨after, _, left⟩ := Component.node_started ofParts finished
    have parts := left_initialiseParts (Attempt.finished_of_andThen finished)
    refine ⟨?_, firstRepeated?_eq_none_iff.mp repeated⟩
    rw [left, ofParts, parts, map_settle_nameRules, ← holds.rules, settledRules]

/-- Until a policy is initialised it takes every rule, in whatever calls the rules come and however often it could not be
initialised in between. Then each rule has the id that it was given, or else a name after its place, and nothing else of
it has changed but that its matcher is initialised; the ids are distinct. If an id that was given is that of another rule
as well, the policy cannot be initialised, and trying to leaves its activation rule and all matchers as they are. -/
theorem assembled_rules_get_names (filled : Text.isBlank id = false) (assembled : policy.Assembled id activation given) :
    (∀ rule, policy.addRule rule = .ok (policy.withRules [rule])) ∧
      (policy.initialise.error? = none →
        policy.initialise.left.rules = given.mapIdx (fun index rule =>
          { rule with
            givenId := some (rule.givenId.getD s!"{id}/rules[{index}]")
            matcher := rule.matcher.initialise.left }) ∧
        (policy.initialise.left.rules.map AttributeRule.id).Nodup) ∧
      (Collide id given → ∃ ruleId, policy.initialise.error? = some (.duplicateRule ruleId id) ∧
        policy.initialise.left.activation = policy.activation ∧
        policy.initialise.left.rules.map AttributeRule.matcher = policy.rules.map AttributeRule.matcher) := by
  have holds := assembled.holds filled
  refine ⟨holds.addRule, fun finished => ?named, fun collide => ?collide⟩
  case named =>
    obtain ⟨rules, distinct⟩ := holds.finished filled finished
    rw [rules, map_id_settledRules]
    refine ⟨?_, distinct⟩
    rw [settledRules, nameRules_eq_mapIdx]
    refine List.ext_getElem? fun index => ?_
    rw [List.getElem?_mapIdx, List.getElem?_mapIdx, List.getElem?_map, Option.map_map, Nat.zero_add]
    rfl
  case collide =>
    rw [← not_nodup_ruleIds_iff, ← firstRepeated?_eq_none_iff, ← ne_eq, Option.ne_none_iff_exists'] at collide
    obtain ⟨ruleId, repeated⟩ := collide
    rw [(holds.initialise_eq filled).1 ruleId repeated]
    exact ⟨ruleId, rfl, rfl, matchers_nameRules ..⟩

end Policy

end

attribute [local instance] Regex.language

namespace Policy

private def mailRule (givenId : Option String) : AttributeRule :=
  { givenId, attributeId := "mail", matcher := .ofCondition .any }

/-- The activation rule of the second policy cannot be initialised. That is found after its attribute rule has been named,
so a rule that is given this name later comes too late. -/
theorem assembled_rules_get_names_staff :
    let ready := (named "staff" .always).withRules [mailRule none, mailRule (some "office"), mailRule none]
    let stuck := ((named "staff" (.anyOf [])).withRules [mailRule none]).initialise
    let later := stuck.left.withRules [mailRule (some "staff/rules[0]")]
    ready.initialise.left.rules.map AttributeRule.id = ["staff/rules[0]", "office", "staff/rules[2]"] ∧
      stuck.error? = some (.emptyComposition "or") ∧ stuck.left.addRule (mailRule (some "staff/rules[0]")) = .ok later ∧
      ∃ ruleId, later.initialise.error? = some (.duplicateRule ruleId "staff") ∧
        later.initialise.left.rules.map (·.matcher.component.phase) = [.uninitialised, .uninitialised] := by
  intro ready stuck later
  have opened : ready.Assembled "staff" .always _ := .withRules .named _
  have failed : stuck.left.Assembled "staff" (.anyOf []) _ := .failed (.withRules .named [mailRule none]) rfl
  obtain ⟨_, finished, _⟩ := assembled_rules_get_names (by decide) opened
  obtain ⟨takes, _, _⟩ := assembled_rules_get_names (by decide) failed
  obtain ⟨_, _, collide⟩ := assembled_rules_get_names (by decide) (failed.addRule (takes (mailRule (some "staff/rules[0]"))))
  obtain ⟨ruleId, duplicate, _, matchers⟩ := collide ⟨1, 0, "staff/rules[0]", by decide, rfl, by decide⟩
  have succeeds : ready.initialise.error? = none := Option.isNone_iff_eq_none.mp (by decide +kernel)
  have phases := congrArg (List.map (·.component.phase)) matchers
  rw [List.map_map, List.map_map] at phases
  refine ⟨?_, rfl, takes _, ruleId, duplicate, phases⟩
  rw [(finished succeeds).1]
  decide

end Policy

end AttributeRelease
