import AttributeRelease.Engine.Basic
import AttributeRelease.Proofs.Evaluation
import AttributeRelease.Proofs.Validity

/-! A run of the engine is a sequence of selections by attribute rules. Each selection is noted
once, and what is noted for an attribute is the union of the selections made for it. -/

namespace AttributeRelease

namespace Findings

def found (findings : Findings) : Effect → Dictionary ValueSet
  | .permit => findings.permitted
  | .deny => findings.denied

def marks (findings : Findings) (effect : Effect) (attributeId : String) : ValueSet :=
  ((findings.found effect).get? attributeId).getD ∅

@[simp] theorem marks_record (findings : Findings) (outcome : PolicyOutcome) :
    (findings.record outcome).marks = findings.marks := by
  funext effect attributeId
  cases effect <;> rfl

theorem release?_eq_only? (findings : Findings) (attr : Attribute) :
    findings.release? attr = attr.only? fun value =>
      decide (value ∈ findings.marks .permit attr.id ∧ value ∉ findings.marks .deny attr.id) := by
  have permitted : findings.marks .permit attr.id = (findings.permitted.get? attr.id).getD ∅ := rfl
  have denied : findings.marks .deny attr.id = (findings.denied.get? attr.id).getD ∅ := rfl
  rw [permitted, denied, release?]
  cases findings.permitted.get? attr.id with
  | none => simp [Attribute.only?, ValueSet.isEmpty_iff]
  | some values =>
    have same : attr.values.inter (values.diff ((findings.denied.get? attr.id).getD ∅)) = attr.values.filter fun value =>
        decide (value ∈ values ∧ value ∉ (findings.denied.get? attr.id).getD ∅) := by
      refine ValueSet.filter_congr ?_
      intro value _
      simp [ValueSet.contains]
    simp only [Option.bind_eq_bind, Option.bind_some, Attribute.retain, same, Attribute.only?, Option.getD_some]

end Findings

variable [PatternLanguage]

/-- What an attribute rule selected when it was run. -/
structure Application where
  rule : AttributeRule
  values : ValueSet

def Request.Has (request : Request) (attributeId : String) (values : ValueSet) : Prop :=
  ∃ attr, request.attribute? attributeId = some attr ∧ ∀ value ∈ values, value ∈ attr.values

namespace AttributeRule

theorem apply_of_absent {rule : AttributeRule} {request : Request}
    (absent : request.attribute? rule.attributeId = none) : rule.apply request = .ok none := by
  rw [apply, run, absent]
  rfl

theorem apply_of_present {rule : AttributeRule} {request : Request} {attr : Attribute}
    (present : request.attribute? rule.attributeId = some attr) :
    rule.apply request = (rule.matcher.select request attr).map fun selection =>
      some (Effect.settle rule.effect attr.values selection) := by
  have unfolded : rule.apply request = Filtering.result (rule.run request) := rfl
  have selection : Filtering.result (rule.matcher.run request attr) = rule.matcher.select request attr := rfl
  rw [unfolded, run, present]
  simp only [Filtering.result_bind, selection]
  cases rule.matcher.select request attr <;> rfl

theorem apply_eq_error_iff {rule : AttributeRule} {request : Request} {error : FilterError} :
    rule.apply request = .error error ↔ ∃ attr, request.attribute? rule.attributeId = some attr ∧
      rule.matcher.select request attr = .error error := by
  cases present : request.attribute? rule.attributeId with
  | none => simp [apply_of_absent present]
  | some attr =>
    rw [apply_of_present present, map_eq_error_iff]
    simp

theorem apply_subset {rule : AttributeRule} {request : Request} {values : ValueSet}
    (applied : rule.apply request = .ok (some values)) : request.Has rule.attributeId values := by
  cases present : request.attribute? rule.attributeId with
  | none =>
    rw [apply_of_absent present] at applied
    cases applied
  | some attr =>
    refine ⟨attr, present, fun value member => ?_⟩
    rw [apply_of_present present] at applied
    cases selected : rule.matcher.select request attr with
    | error error =>
      rw [selected] at applied
      cases applied
    | ok selection =>
      rw [selected] at applied
      cases applied
      cases selection with
      | values chosen => exact rule.matcher.select_subset selected member
      | undecided =>
        cases effect : rule.effect with
        | permit =>
          rw [effect] at member
          exact absurd member (ValueSet.not_mem_empty value)
        | deny =>
          rw [effect] at member
          exact member

def concerns (rule : AttributeRule) (request : Request) : Bool := (request.attribute? rule.attributeId).isSome

theorem apply_eq_none_iff (rule : AttributeRule) (request : Request) :
    rule.apply request = .ok none ↔ rule.concerns request = false := by
  rw [concerns]
  cases present : request.attribute? rule.attributeId with
  | none => simp [apply_of_absent present]
  | some attr =>
    rw [apply_of_present present]
    cases rule.matcher.select request attr <;> simp [Except.map]

end AttributeRule

/-- The selections of attribute rules in order, up to the first rule that fails, and how they
ended. -/
def applications (request : Request) : List AttributeRule → List Application × Except FilterError Unit
  | [] => ([], .ok ())
  | rule :: rest =>
    match rule.apply request with
    | .error error => ([], .error error)
    | .ok none => applications request rest
    | .ok (some values) => (⟨rule, values⟩ :: (applications request rest).1, (applications request rest).2)

theorem applications_append (request : Request) (first second : List AttributeRule) :
    applications request (first ++ second) =
      match (applications request first).2 with
      | .error error => ((applications request first).1, .error error)
      | .ok () => ((applications request first).1 ++ (applications request second).1,
          (applications request second).2) := by
  induction first with
  | nil => rfl
  | cons rule rest ih =>
    rw [List.cons_append, applications, applications]
    cases rule.apply request with
    | error error => rfl
    | ok selected =>
      cases selected with
      | none => exact ih
      | some values =>
        simp only [ih]
        cases (applications request rest).2 <;> rfl

theorem applications_fail_iff {request : Request} {rules : List AttributeRule} :
    (∃ error, (applications request rules).2 = .error error) ↔
      ∃ rule ∈ rules, ∃ error, rule.apply request = .error error := by
  induction rules with
  | nil => simp [applications]
  | cons rule rest ih =>
    simp only [applications, List.mem_cons, exists_eq_or_imp]
    cases rule.apply request with
    | error error => simp
    | ok selected => cases selected <;> simpa using ih

theorem mem_applications {request : Request} {rules : List AttributeRule}
    (finished : (applications request rules).2 = .ok ()) {application : Application} :
    application ∈ (applications request rules).1 ↔
      application.rule ∈ rules ∧ application.rule.apply request = .ok (some application.values) := by
  induction rules with
  | nil => simp [applications]
  | cons rule rest ih =>
    rw [applications] at finished ⊢
    rw [List.mem_cons, or_and_right]
    cases applied : rule.apply request with
    | error error => simp [applied] at finished
    | ok selected =>
      cases selected with
      | none =>
        simp only [applied] at finished ⊢
        rw [ih finished]
        refine ⟨Or.inr, ?_⟩
        rintro (⟨same, here⟩ | later)
        · rw [same, applied] at here
          cases here
        · exact later
      | some values =>
        simp only [applied] at finished ⊢
        rw [List.mem_cons, ih finished]
        refine or_congr ⟨?_, ?_⟩ Iff.rfl
        · rintro rfl
          exact ⟨rfl, applied⟩
        · rintro ⟨same, here⟩
          rw [same, applied] at here
          cases application
          cases here
          cases same
          rfl

namespace Findings

def note (findings : Findings) (application : Application) : Findings :=
  findings.add application.rule.effect application.rule.attributeId application.values

theorem found_note (findings : Findings) (application : Application) (effect : Effect) :
    (findings.note application).found effect =
      if application.rule.effect = effect then
        (findings.found effect).insert application.rule.attributeId
          ((findings.marks effect application.rule.attributeId).union application.values)
      else findings.found effect := by
  obtain ⟨⟨_, _, ours, _⟩, _⟩ := application
  cases ours <;> cases effect <;> rfl

theorem marks_note (findings : Findings) (application : Application) (effect : Effect) (attributeId : String) :
    (findings.note application).marks effect attributeId =
      if application.rule.effect = effect ∧ application.rule.attributeId = attributeId then
        (findings.marks effect attributeId).union application.values
      else findings.marks effect attributeId := by
  rw [marks, found_note]
  by_cases ours : application.rule.effect = effect
  · rw [if_pos ours, Dictionary.get?_insert]
    by_cases same : attributeId = application.rule.attributeId
    · simp [same, ours, marks]
    · simp [same, Ne.symm same, marks]
  · simp [ours, marks]

theorem mem_marks_foldl {findings : Findings} {ran : List Application} {effect : Effect} {attributeId : String}
    {value : Value} :
    value ∈ (ran.foldl note findings).marks effect attributeId ↔
      value ∈ findings.marks effect attributeId ∨ ∃ application ∈ ran,
        application.rule.effect = effect ∧ application.rule.attributeId = attributeId ∧ value ∈ application.values := by
  induction ran generalizing findings with
  | nil => simp
  | cons application rest ih =>
    simp only [List.foldl_cons, ih, marks_note, List.mem_cons, exists_eq_or_imp, ← or_assoc]
    refine or_congr ?_ Iff.rfl
    split
    next ours => simp [ours]
    next others =>
      refine ⟨Or.inl, ?_⟩
      rintro (member | ⟨ours, same, _⟩)
      · exact member
      · exact absurd ⟨ours, same⟩ others

end Findings

namespace Engine

/-- The attribute rules of the policies whose activation rule holds. -/
def activeRules (request : Request) (policies : List Policy) : List AttributeRule :=
  (policies.filter fun policy => (policy.activation.evaluate request).isYes).flatMap Policy.rules

theorem runRules_value (request : Request) (rules : List AttributeRule) (findings : Findings) :
    (runRules request rules findings).value =
      ((applications request rules).2, (applications request rules).1.foldl Findings.note findings) := by
  induction rules generalizing findings with
  | nil => rfl
  | cons rule rest ih =>
    have applied : (rule.run request).run.value = rule.apply request := rfl
    rw [runRules, Traced.value_bind, applied, applications]
    cases rule.apply request with
    | error error => rfl
    | ok selected =>
      cases selected with
      | none => exact ih findings
      | some values => exact ih (findings.note ⟨rule, values⟩)

theorem runPolicies_value (request : Request) (policies : List Policy) (findings : Findings) :
    (runPolicies request policies findings).value.1 = (applications request (activeRules request policies)).2 ∧
      ∀ effect attributeId value,
        value ∈ (runPolicies request policies findings).value.2.marks effect attributeId ↔
          value ∈ ((applications request (activeRules request policies)).1.foldl Findings.note findings).marks
            effect attributeId := by
  induction policies generalizing findings with
  | nil => exact ⟨rfl, fun _ _ _ => Iff.rfl⟩
  | cons policy rest ih =>
    have activation : (policy.activation.run request).value = policy.activation.evaluate request := rfl
    rw [runPolicies, Traced.value_bind, activation, activeRules, List.filter_cons]
    cases active : (policy.activation.evaluate request).isYes with
    | false =>
      obtain ⟨verdict, noted⟩ := ih (findings.record ⟨policy.id, policy.activation.evaluate request⟩)
      refine ⟨verdict, fun effect attributeId value => ?_⟩
      refine (noted effect attributeId value).trans ?_
      simp only [Findings.mem_marks_foldl, Findings.marks_record]
      rfl
    | true =>
      have ran := runRules_value request policy.rules
        (findings.record ⟨policy.id, policy.activation.evaluate request⟩)
      simp only [if_true, Traced.value_bind, ran, List.flatMap_cons, applications_append]
      cases (applications request policy.rules).2 with
      | error error =>
        refine ⟨rfl, fun effect attributeId value => ?_⟩
        simp only [Traced.value_pure, Findings.mem_marks_foldl, Findings.marks_record]
      | ok finished =>
        obtain ⟨verdict, noted⟩ := ih ((applications request policy.rules).1.foldl Findings.note
          (findings.record ⟨policy.id, policy.activation.evaluate request⟩))
        refine ⟨verdict, fun effect attributeId value => ?_⟩
        refine (noted effect attributeId value).trans ?_
        simp only [← List.foldl_append, Findings.mem_marks_foldl, Findings.marks_record]
        rfl

theorem filter_request (engine : Engine) (context : FilterContext) :
    (engine.filter context).2.request = context.request := by
  rw [filter, run]
  cases engine.component.ensureUsable <;> rfl

end Engine

end AttributeRelease
