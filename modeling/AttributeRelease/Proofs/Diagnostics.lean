import AttributeRelease.Proofs.Answers
import AttributeRelease.Proofs.Grants
import AttributeRelease.Proofs.Validity
import AttributeRelease.Regex.Language

/-! What a context tells about the last time it was filtered. The findings are an account of that run
and of no other: which policies were visited, and what their rules selected, up to the end or to the
rule that failed. -/

namespace AttributeRelease

section

variable [PatternLanguage]

/-- How filtering dealt with a policy. -/
structure Visit where
  policy : Policy
  activation : Tristate
  applications : List Application := []

namespace Visit

def outcome (visit : Visit) : PolicyOutcome := ⟨visit.policy.id, visit.activation⟩

def note (findings : Findings) (visit : Visit) : Findings :=
  visit.applications.foldl Findings.note (findings.record visit.outcome)

end Visit

variable (answers : Answers) (request : Request)

/-- Each rule selects what it is said to select, in view of what was found before. -/
def Selected (findings : Findings) : List Application → Prop
  | [] => True
  | application :: rest =>
    (application.rule.given answers findings).apply request = .ok (some application.values) ∧
      Selected (findings.note application) rest

/-- Each activation rule has the outcome that it is said to have, and so have the rules of its policy. -/
def Visited (findings : Findings) : List Visit → Prop
  | [] => True
  | visit :: rest =>
    visit.activation = (visit.policy.activation.given answers findings).evaluate request ∧
      Selected answers request (findings.record visit.outcome) visit.applications ∧ Visited (visit.note findings) rest

/-- The rules for attributes of the request have been applied: all of them, or those before a rule that
failed. -/
def Applied (rules : List AttributeRule) (applications : List Application) (after : Findings) :
    Except FilterError Unit → Prop
  | .ok () => applications.map Application.rule = rules.filter (·.concerns request)
  | .error error => ∃ done rule rest, rules = done ++ rule :: rest ∧
      applications.map Application.rule = done.filter (·.concerns request) ∧
      (rule.given answers after).apply request = .error error

/-- The rules of the policy have been applied if its activation rule holds, and else none of them. -/
def Visit.Complete (visit : Visit) : Prop :=
  visit.applications.map Application.rule =
    if visit.activation = .yes then visit.policy.rules.filter (·.concerns request) else []

/-- Policies have been visited in order: all of them, or those up to one that is active and has a rule
that failed. -/
def Accounted (policies : List Policy) (visits : List Visit) (after : Findings) : Except FilterError Unit → Prop
  | .ok () => visits.map Visit.policy = policies ∧ ∀ visit ∈ visits, visit.Complete request
  | .error error => ∃ before aborting rest, visits = before ++ [aborting] ∧
      visits.map Visit.policy ++ rest = policies ∧ (∀ visit ∈ before, visit.Complete request) ∧
      aborting.activation = .yes ∧ Applied answers request aborting.policy.rules aborting.applications after (.error error)

variable {answers request}

theorem Selected.subset {findings : Findings} {applications : List Application}
    (selected : Selected answers request findings applications) :
    ∀ application ∈ applications, request.Has application.rule.attributeId application.values := by
  induction applications generalizing findings with
  | nil => exact nofun
  | cons first rest ih =>
    have inside := AttributeRule.apply_subset selected.1
    exact List.forall_mem_cons.mpr ⟨inside, ih selected.2⟩

theorem Visited.subset {findings : Findings} {visits : List Visit} (visited : Visited answers request findings visits) :
    ∀ application ∈ visits.flatMap Visit.applications, request.Has application.rule.attributeId application.values := by
  induction visits generalizing findings with
  | nil => exact nofun
  | cons visit rest ih =>
    rw [List.flatMap_cons, List.forall_mem_append]
    exact ⟨visited.2.1.subset, ih visited.2.2⟩

theorem Applied.cons {rule : AttributeRule} {rest : List AttributeRule} {later : List Application} {after : Findings}
    {verdict : Except FilterError Unit} (applied : Applied answers request rest later after verdict)
    (first : List Application) (same : first.map Application.rule = [rule].filter (·.concerns request)) :
    Applied answers request (rule :: rest) (first ++ later) after verdict := by
  have together {done : List AttributeRule} (others : later.map Application.rule = done.filter (·.concerns request)) :
      (first ++ later).map Application.rule = (rule :: done).filter (·.concerns request) := by
    rw [List.map_append, same, others, ← List.filter_append]
    rfl
  cases verdict with
  | ok finished => exact together applied
  | error error =>
    obtain ⟨done, failing, left, rfl, others, failed⟩ := applied
    exact ⟨rule :: done, failing, left, rfl, together others, failed⟩

theorem Accounted.cons {policies : List Policy} {visits : List Visit} {after : Findings}
    {verdict : Except FilterError Unit} (accounted : Accounted answers request policies visits after verdict)
    (visit : Visit) (complete : visit.Complete request) :
    Accounted answers request (visit.policy :: policies) (visit :: visits) after verdict := by
  cases verdict with
  | ok finished =>
    obtain ⟨same, others⟩ := accounted
    exact ⟨congrArg (visit.policy :: ·) same, List.forall_mem_cons.mpr ⟨complete, others⟩⟩
  | error error =>
    obtain ⟨before, aborting, rest, rfl, same, others, aborted⟩ := accounted
    exact ⟨visit :: before, aborting, rest, rfl, congrArg (visit.policy :: ·) same,
      List.forall_mem_cons.mpr ⟨complete, others⟩, aborted⟩

variable (answers request)

theorem applyRules_account (rules : List AttributeRule) (findings : Findings) :
    ∃ applications, Selected answers request findings applications ∧
      (applyRules answers request rules findings).2 = applications.foldl Findings.note findings ∧
      Applied answers request rules applications (applyRules answers request rules findings).2
        (applyRules answers request rules findings).1 := by
  induction rules generalizing findings with
  | nil => exact ⟨[], trivial, rfl, rfl⟩
  | cons rule rest ih =>
    have concerns := (rule.given answers findings).apply_eq_none_iff request
    rw [applyRules]
    cases applied : (rule.given answers findings).apply request with
    | error error => exact ⟨[], trivial, rfl, [], rule, rest, rfl, rfl, applied⟩
    | ok selected =>
      -- A rule without its attribute in the request has no part in the account.
      cases selected with
      | none =>
        have absent : rule.concerns request = false := concerns.mp applied
        obtain ⟨applications, selections, after, ended⟩ := ih findings
        exact ⟨applications, selections, after, ended.cons [] (by simp [absent])⟩
      | some values =>
        have present : rule.concerns request = true := by
          refine eq_true_of_ne_false fun absent => ?_
          cases applied.symm.trans (concerns.mpr absent)
        obtain ⟨applications, selections, after, ended⟩ := ih (findings.note ⟨rule, values⟩)
        refine ⟨⟨rule, values⟩ :: applications, ⟨applied, selections⟩, after, ?_⟩
        exact ended.cons [⟨rule, values⟩] (by simp [present])

theorem applyPolicies_account (policies : List Policy) (findings : Findings) :
    ∃ visits, Visited answers request findings visits ∧
      (applyPolicies answers request policies findings).2 = visits.foldl Visit.note findings ∧
      Accounted answers request policies visits (applyPolicies answers request policies findings).2
        (applyPolicies answers request policies findings).1 := by
  induction policies generalizing findings with
  | nil => exact ⟨[], trivial, rfl, rfl, nofun⟩
  | cons policy rest ih =>
    rw [applyPolicies]
    generalize activation : (policy.activation.given answers findings).evaluate request = outcome
    split
    next active =>
      have holds : outcome = .yes := eq_of_beq active
      obtain ⟨applications, selections, after, ended⟩ := applyRules_account answers request policy.rules
        (findings.record ⟨policy.id, outcome⟩)
      generalize applyRules answers request policy.rules (findings.record ⟨policy.id, outcome⟩) = applied at after ended
      obtain ⟨verdict, left⟩ := applied
      cases verdict with
      | error error =>
        -- The account ends with the policy that failed, and the policies after it are left over.
        refine ⟨[⟨policy, outcome, applications⟩], ⟨activation.symm, selections, trivial⟩, after, ?_⟩
        exact ⟨[], ⟨policy, outcome, applications⟩, rest, rfl, rfl, nofun, holds, ended⟩
      | ok finished =>
        obtain ⟨visits, visited, later, accounted⟩ := ih left
        cases after
        refine ⟨⟨policy, outcome, applications⟩ :: visits, ⟨activation.symm, selections, visited⟩, later, ?_⟩
        refine accounted.cons ⟨policy, outcome, applications⟩ ?_
        rw [Visit.Complete, if_pos holds]
        exact ended
    next idle =>
      obtain ⟨visits, visited, after, accounted⟩ := ih (findings.record ⟨policy.id, outcome⟩)
      refine ⟨⟨policy, outcome, []⟩ :: visits, ⟨activation.symm, trivial, visited⟩, after, ?_⟩
      refine accounted.cons ⟨policy, outcome, []⟩ ?_
      have missed : ¬ outcome = .yes := fun holds => idle (by rw [holds]; rfl)
      rw [Visit.Complete, if_neg missed]
      rfl

/-- What rules of an effect selected for an attribute, in the order in which they were applied. -/
def selections (effect : Effect) (attributeId : String) (applications : List Application) : List ValueSet :=
  (applications.filter fun application => application.rule.effect = effect ∧ application.rule.attributeId = attributeId).map
    Application.values

theorem selections_cons (effect : Effect) (attributeId : String) (application : Application) (rest : List Application) :
    selections effect attributeId (application :: rest) =
      if application.rule.effect = effect ∧ application.rule.attributeId = attributeId then
        application.values :: selections effect attributeId rest
      else selections effect attributeId rest := by
  rw [selections, List.filter_cons]
  by_cases ours : application.rule.effect = effect ∧ application.rule.attributeId = attributeId
  · rw [if_pos (decide_eq_true ours), if_pos ours]
    rfl
  · rw [if_neg (mt of_decide_eq_true ours), if_neg ours]
    rfl

/-- The union of what rules selected for an attribute, if a rule for it has been applied. -/
def selectedFor (effect : Effect) (attributeId : String) (applications : List Application) : Option ValueSet :=
  let own := selections effect attributeId applications
  if own.isEmpty then none else some (.ofList (own.flatMap ValueSet.toList))

namespace Findings

theorem found_foldl_congr (applications : List Application) {first second : Findings}
    (same : first.found = second.found) :
    (applications.foldl note first).found = (applications.foldl note second).found := by
  induction applications generalizing first second with
  | nil => exact same
  | cons application rest ih =>
    refine ih ?_
    funext effect
    rw [found_note, found_note, marks, marks, same]

theorem found_visits (visits : List Visit) (findings : Findings) :
    (visits.foldl Visit.note findings).found = ((visits.flatMap Visit.applications).foldl note findings).found := by
  induction visits generalizing findings with
  | nil => rfl
  | cons visit rest ih =>
    have recorded : (findings.record visit.outcome).found = findings.found := by
      funext effect
      cases effect <;> rfl
    rw [List.foldl_cons, ih, List.flatMap_cons, List.foldl_append]
    exact found_foldl_congr _ (found_foldl_congr visit.applications recorded)

theorem outcomes_foldl (applications : List Application) (findings : Findings) :
    (applications.foldl note findings).outcomes = findings.outcomes := by
  induction applications generalizing findings with
  | nil => rfl
  | cons application rest ih =>
    refine (ih _).trans ?_
    obtain ⟨⟨_, _, effect, _⟩, _⟩ := application
    cases effect <;> rfl

theorem outcomes_visits (visits : List Visit) (findings : Findings) :
    (visits.foldl Visit.note findings).outcomes = findings.outcomes ++ visits.map Visit.outcome := by
  induction visits generalizing findings with
  | nil => exact (List.append_nil _).symm
  | cons visit rest ih =>
    rw [List.foldl_cons, ih, Visit.note, outcomes_foldl, List.map_cons, record, List.append_assoc]
    rfl

theorem get?_found_note (findings : Findings) (application : Application) (effect : Effect) (attributeId : String) :
    ((findings.note application).found effect).get? attributeId =
      if application.rule.effect = effect ∧ application.rule.attributeId = attributeId then
        some ((findings.marks effect attributeId).union application.values)
      else (findings.found effect).get? attributeId := by
  rw [found_note]
  by_cases ours : application.rule.effect = effect
  · rw [if_pos ours, Dictionary.get?_insert]
    by_cases same : attributeId = application.rule.attributeId
    · simp [same, ours]
    · simp [same, Ne.symm same]
  · simp [ours]

theorem get?_found_foldl (applications : List Application) (findings : Findings) (effect : Effect) (attributeId : String) :
    ((applications.foldl note findings).found effect).get? attributeId =
      let own := selections effect attributeId applications
      if own.isEmpty then (findings.found effect).get? attributeId
      else some ((findings.marks effect attributeId).insertAll (own.flatMap ValueSet.toList)) := by
  induction applications generalizing findings with
  | nil => rfl
  | cons application rest ih =>
    rw [List.foldl_cons, ih, selections_cons, get?_found_note, marks_note]
    by_cases ours : application.rule.effect = effect ∧ application.rule.attributeId = attributeId
    · simp only [if_pos ours, List.flatMap_cons, List.isEmpty_cons, Bool.false_eq_true, if_false, ValueSet.insertAll,
        List.foldl_append]
      split
      next none =>
        rw [List.isEmpty_iff.mp none]
        rfl
      next => rfl
    · simp only [if_neg ours]

end Findings

theorem selectedFor_subset {request : Request} {applications : List Application}
    (subset : ∀ application ∈ applications, request.Has application.rule.attributeId application.values)
    {effect : Effect} {attributeId : String} {values : ValueSet}
    (found : selectedFor effect attributeId applications = some values) : request.Has attributeId values := by
  have own : ∀ selected ∈ selections effect attributeId applications, request.Has attributeId selected := by
    intro selected chosen
    obtain ⟨application, ours, rfl⟩ := List.mem_map.mp chosen
    obtain ⟨member, same⟩ := List.mem_filter.mp ours
    obtain ⟨_, rfl⟩ := of_decide_eq_true same
    exact subset application member
  rw [selectedFor] at found
  generalize selections effect attributeId applications = chosen at found own
  cases chosen with
  | nil => cases found
  | cons first rest =>
    cases found
    obtain ⟨attr, present, _⟩ := own first List.mem_cons_self
    refine ⟨attr, present, fun value member => ?_⟩
    obtain ⟨selected, within, member⟩ := List.mem_flatMap.mp (ValueSet.mem_ofList.mp member)
    obtain ⟨other, same, inside⟩ := own selected within
    cases present.symm.trans same
    exact inside value member

namespace Engine

theorem filterWith_request (engine : Engine) (context : FilterContext) :
    (engine.filterWith answers context).2.request = context.request := by
  rw [filterWith]
  cases engine.component.ensureUsable <;> rfl

theorem request_after_history (history : List (Answers × Engine)) (context : FilterContext) :
    (history.foldl (fun context (answers, engine) => (engine.filterWith answers context).2) context).request =
      context.request := by
  induction history generalizing context with
  | nil => rfl
  | cons run rest ih => exact (ih _).trans (filterWith_request run.1 run.2 context)

theorem filterWith_of_unusable {engine : Engine} {cause : ConfigError} (unusable : engine.component.ensureUsable = .error cause)
    (context : FilterContext) : engine.filterWith answers context = (.error (.configuration cause), context) := by
  rw [filterWith, unusable]

theorem filterWith_of_usable {engine : Engine} (usable : engine.component.ensureUsable = .ok ()) (context : FilterContext) :
    engine.filterWith answers context = engine.filterWith answers { request := context.request } := by
  rw [filterWith, filterWith, usable]

theorem filterWith_account {engine : Engine} (usable : engine.component.ensureUsable = .ok ()) (context : FilterContext) :
    ∃ visits, Visited answers context.request {} visits ∧
      (engine.filterWith answers context).2.findings = visits.foldl Visit.note {} ∧
      Accounted answers context.request engine.policies visits (engine.filterWith answers context).2.findings
        ((engine.filterWith answers context).1.map fun _ => ()) := by
  obtain ⟨visits, visited, after, accounted⟩ := applyPolicies_account answers context.request engine.policies {}
  refine ⟨visits, visited, ?_⟩
  rw [filterWith, usable]
  generalize applyPolicies answers context.request engine.policies {} = applied at after accounted
  obtain ⟨verdict, left⟩ := applied
  cases verdict with
  | error error => exact ⟨after, accounted⟩
  | ok finished => exact ⟨after, accounted⟩

/-- After filtering, a context tells of that run alone, whatever engines it has been used with before. Its
outcomes are those of the policies that were visited, and what it holds for an attribute is what the rules that
were applied selected for it. An engine that is not initialised leaves it alone. Predicates may look at all that
the context tells while the engine runs. With plain answers, this is how engines filter. -/
theorem filter_diagnostics (answers : Answers) (engine : Engine) (context : FilterContext)
    (history : List (Answers × Engine)) :
    let used := history.foldl (fun context (answers, engine) => (engine.filterWith answers context).2) context
    let ended := engine.filterWith answers used
    ended.2.request = context.request ∧
      (engine.validate = .ok () →
        ended = engine.filterWith answers { request := context.request } ∧
        ∃ visits, Visited answers context.request {} visits ∧
          Accounted answers context.request engine.policies visits ended.2.findings (ended.1.map fun _ => ()) ∧
          ended.2.findings.outcomes = visits.map Visit.outcome ∧
          ∀ effect attributeId,
            (ended.2.findings.found effect).get? attributeId =
              selectedFor effect attributeId (visits.flatMap Visit.applications) ∧
            ∀ values, (ended.2.findings.found effect).get? attributeId = some values →
              context.request.Has attributeId values) ∧
      (engine.component.phase ≠ .initialised →
        ∃ cause, engine.component.ensureUsable = .error cause ∧ ended = (.error (.configuration cause), used)) ∧
      ∀ (engine : Engine) (context : FilterContext), engine.filterWith .plain context = engine.filter context := by
  intro used ended
  have request : used.request = context.request := request_after_history history context
  refine ⟨(filterWith_request answers engine used).trans request, fun valid => ?valid, fun idle => ?idle,
    filterWith_plain⟩
  case valid =>
    have usable := (validate_isOk_iff.mp valid).1
    obtain ⟨visits, visited, after, accounted⟩ := filterWith_account answers usable used
    rw [request] at visited accounted
    refine ⟨request ▸ filterWith_of_usable answers usable used, visits, visited, accounted, ?outcomes,
      fun effect attributeId => ?found⟩
    case outcomes => exact (congrArg Findings.outcomes after).trans (Findings.outcomes_visits visits {})
    case found =>
      have found : (ended.2.findings.found effect).get? attributeId =
          selectedFor effect attributeId (visits.flatMap Visit.applications) := by
        have joined := Findings.get?_found_foldl (visits.flatMap Visit.applications) {} effect attributeId
        rw [← Findings.found_visits, ← after] at joined
        -- The run started with nothing found, so there are no earlier values to join.
        refine joined.trans ?_
        cases effect <;> rfl
      exact ⟨found, fun values there => selectedFor_subset visited.subset (found.symm.trans there)⟩
  case idle =>
    cases usable : engine.component.ensureUsable with
    | ok ready => exact absurd ((Component.ensureUsable_isOk_iff _).mp usable) idle
    | error cause => exact ⟨cause, rfl, filterWith_of_unusable answers usable used⟩

end Engine

end

attribute [local instance] Regex.language

namespace Engine

private def audited : Engine :=
  let initialised (id : String) : Component := ⟨id, .initialised⟩
  let permit (id : String) (leaf : MatcherLeaf) : Policy :=
    { component := initialised id
      activation := .atom (initialised "any") (.fixed .yes)
      rules := [{ attributeId := "mail", matcher := .atom (initialised id) leaf }] }
  { component := initialised "release"
    policies := [permit "directory" (.ofCondition .any),
      permit "audit" (.ofPredicate { name := "once", test := fun _ _ _ => .ok true })] }

/-- There is no answer for an attribute for which something has been permitted. -/
private def onlyOnce : Answers where
  ofRequest predicate context := predicate.test context.request
  ofValue _ context attr _ :=
    if (context.findings.permitted.get? attr.id).isSome then .error "permitted before" else .ok true

/-- A run that was given up leaves no trace in the next one, though the predicate looks at the findings. -/
theorem filter_diagnostics_audited :
    let aborted := (audited.filterWith onlyOnce { request := unknownRequester }).2
    let again := audited.filterWith onlyOnce aborted
    audited.validate = .ok () ∧ again.1 = .error (.predicate "audit" "mail" "permitted before") ∧
      again = audited.filterWith onlyOnce { request := unknownRequester } ∧
      again.2.findings.outcomes = [⟨"directory", .yes⟩, ⟨"audit", .yes⟩] ∧
      ∃ values, again.2.findings.permitted.get? "mail" = some values ∧ unknownRequester.Has "mail" values := by
  obtain ⟨_, valid, _⟩ := filter_diagnostics onlyOnce audited { request := unknownRequester } [(onlyOnce, audited)]
  obtain ⟨same, _, _, _, _, found⟩ := valid rfl
  exact ⟨rfl, rfl, same, rfl, _, rfl, (found .permit "mail").2 _ rfl⟩

end Engine

end AttributeRelease
