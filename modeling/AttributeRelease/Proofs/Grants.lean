import AttributeRelease.Proofs.FilterRun
import AttributeRelease.Proofs.Requests
import AttributeRelease.Proofs.Validity
import AttributeRelease.Regex.Language
import Mathlib.Data.List.Basic

/-! The engine releases the values that some active rule permits and none denies. The order of
policies and rules decides nothing except which failure is reported. -/

namespace AttributeRelease

section

variable [PatternLanguage]

namespace AttributeRule

/-- Whether a rule permits or denies a value. An undecided permission selects nothing, an
undecided denial every value. -/
def Selects (rule : AttributeRule) (request : Request) (attr : Attribute) (value : Value) : Prop :=
  match rule.matcher.select request attr with
  | .ok (.values selected) => value ∈ selected
  | .ok .undecided => rule.effect = .deny ∧ value ∈ attr.values
  | .error _ => False

instance (rule : AttributeRule) (request : Request) (attr : Attribute) (value : Value) :
    Decidable (rule.Selects request attr value) :=
  match found : rule.matcher.select request attr with
  | .ok (.values selected) => decidable_of_iff (value ∈ selected) (by simp [Selects, found])
  | .ok .undecided => decidable_of_iff (rule.effect = .deny ∧ value ∈ attr.values) (by simp [Selects, found])
  | .error _ => .isFalse (by simp [Selects, found])

end AttributeRule

namespace Engine

/-- Some rule of an active policy has this effect on a value. -/
def Marks (engine : Engine) (request : Request) (effect : Effect) (attr : Attribute) (value : Value) : Prop :=
  ∃ policy ∈ engine.policies, policy.activation.evaluate request = .yes ∧
    ∃ rule ∈ policy.rules, rule.effect = effect ∧ rule.attributeId = attr.id ∧ rule.Selects request attr value

/-- A value is granted if it is permitted and not denied. -/
def Grants (engine : Engine) (request : Request) (attr : Attribute) (value : Value) : Prop :=
  engine.Marks request .permit attr value ∧ ¬ engine.Marks request .deny attr value

/-- Some rule of an active policy is for an attribute of the request, and its matcher fails. -/
def Fails (engine : Engine) (request : Request) : Prop :=
  ∃ policy ∈ engine.policies, policy.activation.evaluate request = .yes ∧
    ∃ rule ∈ policy.rules, ∃ attr, request.attribute? rule.attributeId = some attr ∧
      ∃ error, rule.matcher.select request attr = .error error

instance (engine : Engine) (request : Request) (effect : Effect) (attr : Attribute) (value : Value) :
    Decidable (engine.Marks request effect attr value) :=
  inferInstanceAs (Decidable (∃ policy ∈ engine.policies, policy.activation.evaluate request = .yes ∧
    ∃ rule ∈ policy.rules, rule.effect = effect ∧ rule.attributeId = attr.id ∧ rule.Selects request attr value))

instance (engine : Engine) (request : Request) (attr : Attribute) (value : Value) :
    Decidable (engine.Grants request attr value) :=
  inferInstanceAs (Decidable (_ ∧ ¬ _))

/-- The attributes with those of their values that are granted, in their order. Those without any
are left out. -/
def granted (engine : Engine) (request : Request) : List Attribute :=
  request.attributes.filterMap fun attr => attr.only? fun value => decide (engine.Grants request attr value)

theorem mem_activeRules {request : Request} {policies : List Policy} {rule : AttributeRule} :
    rule ∈ activeRules request policies ↔
      ∃ policy ∈ policies, policy.activation.evaluate request = .yes ∧ rule ∈ policy.rules := by
  simp [activeRules, Tristate.isYes, and_assoc]

theorem marks_iff {engine : Engine} {request : Request} {effect : Effect} {attr : Attribute} {value : Value} :
    engine.Marks request effect attr value ↔ ∃ rule ∈ activeRules request engine.policies,
      rule.effect = effect ∧ rule.attributeId = attr.id ∧ rule.Selects request attr value := by
  constructor
  · rintro ⟨policy, member, active, rule, inside, marks⟩
    exact ⟨rule, mem_activeRules.mpr ⟨policy, member, active, inside⟩, marks⟩
  · rintro ⟨rule, member, marks⟩
    obtain ⟨policy, member, active, inside⟩ := mem_activeRules.mp member
    exact ⟨policy, member, active, rule, inside, marks⟩

theorem fails_iff {engine : Engine} {request : Request} :
    engine.Fails request ↔ ∃ rule ∈ activeRules request engine.policies, ∃ attr,
      request.attribute? rule.attributeId = some attr ∧ ∃ error, rule.matcher.select request attr = .error error := by
  constructor
  · rintro ⟨policy, member, active, rule, inside, fails⟩
    exact ⟨rule, mem_activeRules.mpr ⟨policy, member, active, inside⟩, fails⟩
  · rintro ⟨rule, member, fails⟩
    obtain ⟨policy, member, active, inside⟩ := mem_activeRules.mp member
    exact ⟨policy, member, active, rule, inside, fails⟩

private theorem apply_fails_iff {rule : AttributeRule} {request : Request} :
    (∃ error, rule.apply request = .error error) ↔ ∃ attr, request.attribute? rule.attributeId = some attr ∧
      ∃ error, rule.matcher.select request attr = .error error := by
  simp only [AttributeRule.apply_eq_error_iff]
  constructor
  · rintro ⟨error, attr, present, failed⟩
    exact ⟨attr, present, error, failed⟩
  · rintro ⟨attr, present, error, failed⟩
    exact ⟨error, attr, present, failed⟩

private theorem apply_selects {rule : AttributeRule} {request : Request} {attr : Attribute}
    (found : request.attribute? rule.attributeId = some attr) {value : Value} :
    (∃ values, rule.apply request = .ok (some values) ∧ value ∈ values) ↔ rule.Selects request attr value := by
  rw [AttributeRule.apply_of_present found, AttributeRule.Selects]
  cases rule.matcher.select request attr with
  | error error => simp [Except.map]
  | ok selection =>
    cases selection with
    | values selected => simp [Except.map, AttributeRule.Effect.settle]
    | undecided => cases rule.effect <;> simp [Except.map, AttributeRule.Effect.settle]

private theorem applied_iff_marks {engine : Engine} {request : Request}
    (finished : (applications request (activeRules request engine.policies)).2 = .ok ()) {effect : Effect}
    {attr : Attribute} (member : attr ∈ request.attributes) {value : Value} :
    (∃ application ∈ (applications request (activeRules request engine.policies)).1,
      application.rule.effect = effect ∧ application.rule.attributeId = attr.id ∧ value ∈ application.values) ↔
      engine.Marks request effect attr value := by
  rw [marks_iff]
  have found := Request.attribute?_of_mem member
  constructor
  · rintro ⟨application, ran, ours, same, selected⟩
    obtain ⟨active, applied⟩ := (mem_applications finished).mp ran
    exact ⟨application.rule, active, ours, same, (apply_selects (same ▸ found)).mp ⟨_, applied, selected⟩⟩
  · rintro ⟨rule, active, ours, same, selects⟩
    obtain ⟨values, applied, selected⟩ := (apply_selects (same ▸ found)).mpr selects
    exact ⟨⟨rule, values⟩, (mem_applications finished).mpr ⟨active, applied⟩, ours, same, selected⟩

/-- A usable engine fails if an active rule does, and else releases what is granted. -/
theorem filter_cases {engine : Engine} (usable : engine.component.ensureUsable = .ok ()) (context : FilterContext) :
    (engine.Fails context.request ∧ ∃ error, (engine.filter context).1 = .error error) ∨
      (¬ engine.Fails context.request ∧ (engine.filter context).1 = .ok (engine.granted context.request)) := by
  have fails : engine.Fails context.request ↔
      ∃ error, (applications context.request (activeRules context.request engine.policies)).2 = .error error := by
    simp only [fails_iff, applications_fail_iff, apply_fails_iff]
  obtain ⟨verdict, noted⟩ := runPolicies_value context.request engine.policies {}
  have ran : (engine.filter context).1 = (runPolicies context.request engine.policies {}).value.1.map fun () =>
      context.request.attributes.filterMap (runPolicies context.request engine.policies {}).value.2.release? := by
    simp only [filter, run, usable]
    rfl
  rw [ran, verdict, fails]
  cases finished : (applications context.request (activeRules context.request engine.policies)).2 with
  | error error => exact Or.inl ⟨⟨error, rfl⟩, error, rfl⟩
  | ok done =>
    refine Or.inr ⟨by simp, congrArg Except.ok ?_⟩
    have kept (attr : Attribute) (member : attr ∈ context.request.attributes) :
        (runPolicies context.request engine.policies {}).value.2.release? attr =
          attr.only? fun value => decide (engine.Grants context.request attr value) := by
      have marked (effect : Effect) (value : Value) :
          value ∈ (runPolicies context.request engine.policies {}).value.2.marks effect attr.id ↔
            engine.Marks context.request effect attr value := by
        rw [noted, Findings.mem_marks_foldl, applied_iff_marks finished member]
        refine or_iff_right ?_
        cases effect <;> exact ValueSet.not_mem_empty value
      rw [Findings.release?_eq_only?]
      refine Attribute.only?_congr fun value _ => decide_eq_decide.mpr ?_
      rw [marked, marked, Grants]
    exact List.filterMap_congr kept

/-- A valid engine fails exactly if a rule that applies does, and else releases exactly what is
granted. Engines with the same active rules, in whatever order, agree on both. -/
theorem filter_verdict_and_release (engine : Engine) (context : FilterContext) (valid : engine.validate = .ok ()) :
    ((∃ error, (engine.filter context).1 = .error error) ↔ engine.Fails context.request) ∧
    (¬ engine.Fails context.request → (engine.filter context).1 = .ok (engine.granted context.request)) ∧
    ∀ (other : Engine) (again : FilterContext), other.validate = .ok () → again.request = context.request →
      (∀ rule, rule ∈ activeRules context.request other.policies ↔
        rule ∈ activeRules context.request engine.policies) →
      ((∃ error, (other.filter again).1 = .error error) ↔ ∃ error, (engine.filter context).1 = .error error) ∧
        ∀ released, (other.filter again).1 = .ok released ↔ (engine.filter context).1 = .ok released := by
  have cases := filter_cases (validate_isOk_iff.mp valid).1 context
  refine ⟨?_, ?_, ?_⟩
  · rcases cases with ⟨fails, failed⟩ | ⟨runs, released⟩
    · exact ⟨fun _ => fails, fun _ => failed⟩
    · refine ⟨?_, fun fails => absurd fails runs⟩
      rintro ⟨error, failed⟩
      exact nomatch released.symm.trans failed
  · intro runs
    rcases cases with ⟨fails, _⟩ | ⟨_, released⟩
    · exact absurd fails runs
    · exact released
  · intro other again otherValid sameRequest sameRules
    have sameFails : other.Fails context.request ↔ engine.Fails context.request := by
      simp only [fails_iff, sameRules]
    have sameGranted : other.granted context.request = engine.granted context.request := by
      simp only [granted, Grants, marks_iff, sameRules]
    have others := filter_cases (validate_isOk_iff.mp otherValid).1 again
    rw [sameRequest, sameFails, sameGranted] at others
    rcases cases with ⟨fails, error, failed⟩ | ⟨runs, released⟩
    · obtain ⟨_, otherError, otherFailed⟩ := others.resolve_right fun ⟨runs, _⟩ => runs fails
      simp [failed, otherFailed]
    · obtain ⟨_, otherReleased⟩ := others.resolve_left fun ⟨fails, _⟩ => runs fails
      simp [released, otherReleased]

end Engine

end

attribute [local instance] Regex.language

namespace Engine

private def ready (id : String) : Component := ⟨id, .initialised⟩

/-- Two policies that disagree. One permits all values of two attributes, and the other denies
one of them outright and a whole attribute unless the requester is known. -/
def contested : Engine :=
  let permit (attributeId : String) : AttributeRule :=
    { attributeId, matcher := .atom (ready "any") (.ofCondition .any) }
  let deny (attributeId : String) (matcher : Matcher) : AttributeRule := { attributeId, effect := .deny, matcher }
  { component := ready "release"
    policies := [
      { component := ready "directory"
        activation := .atom (ready "any") (.fixed .yes)
        rules := [permit "mail", permit "phone"] },
      { component := ready "privacy"
        activation := .not (ready "not") (.atom (ready "static") (.fixed .no))
        rules := [
          deny "mail" (.atom (ready "exact") (.ofCondition (.exact (.string "home")))),
          deny "phone" (.fromRule (ready "from-rule")
            (.atom (ready "requester") (.ofCondition (.requester { value := "shop" }))))] }] }

/-- A request by nobody known, for a person with two addresses and a telephone. -/
def unknownRequester : Request :=
  .ofAttributes default
    [{ id := "mail", values := .ofList [.string "work", .string "home"] },
      { id := "phone", values := .ofList [.string "1234"] }]

/-- Of the two attributes one address is left, also with the policies in the opposite order. -/
theorem filter_verdict_and_release_contested :
    contested.validate = .ok () ∧ ¬ contested.Fails unknownRequester ∧
      (contested.filter { request := unknownRequester }).1 =
        .ok [{ id := "mail", values := .ofList [.string "work"] }] ∧
      (Engine.filter { contested with policies := contested.policies.reverse } { request := unknownRequester }).1 =
        .ok [{ id := "mail", values := .ofList [.string "work"] }] := by
  have filtered : (contested.filter { request := unknownRequester }).1 =
      .ok [{ id := "mail", values := .ofList [.string "work"] }] := rfl
  obtain ⟨verdict, releases, order⟩ := filter_verdict_and_release contested { request := unknownRequester } rfl
  have runs : ¬ contested.Fails unknownRequester := by
    intro fails
    obtain ⟨error, failed⟩ := verdict.mpr fails
    exact nomatch filtered.symm.trans failed
  have evaluated : contested.granted unknownRequester = [{ id := "mail", values := .ofList [.string "work"] }] := by
    decide
  refine ⟨rfl, runs, (releases runs).trans (congrArg Except.ok evaluated), ?_⟩
  refine ((order { contested with policies := contested.policies.reverse } _ rfl rfl ?_).2 _).mpr filtered
  intro rule
  simp [mem_activeRules]

end Engine

end AttributeRelease
