import AttributeRelease.Proofs.Answers
import AttributeRelease.Proofs.Grants
import AttributeRelease.Proofs.LeafRuns
import AttributeRelease.Regex.Language

/-! Where filtering is given up. Only a predicate or a script that is a leaf of an attribute rule can bring that
about, and of several the first one to be asked does. What goes wrong in a rule is left undecided there, also if
the rule stands in a matcher. -/

namespace AttributeRelease

section

variable [PatternLanguage]

variable (answers : Answers) (findings : Findings) (request : Request)

def MatcherLeaf.isCustom : MatcherLeaf → Bool
  | .ofCondition _ => false
  | .ofPredicate _ => true
  | .ofScript _ => true

/-- A leaf has no answer for a value, and the message says why. -/
inductive MatcherLeaf.Unanswered (attr : Attribute) (value : Value) : MatcherLeaf → String → Prop where
  | predicate {predicate : ValuePredicate} {message : String}
      (refused : answers.ofValue predicate { request, findings } attr value = .error message) :
      Unanswered attr value (.ofPredicate predicate) message
  | script {script : Script} {cause : ScriptError}
      (failed : script.evaluateValue request.facts attr value = .error cause) :
      Unanswered attr value (.ofScript script) cause.message
  | result {script : Script} {result : Json}
      (ended : script.evaluateValue request.facts attr value = .ok result) (other : ∀ holds, result ≠ .bool holds) :
      Unanswered attr value (.ofScript script) s!"script returned non-boolean result {result.text}"

theorem MatcherLeaf.Unanswered.isCustom {answers : Answers} {findings : Findings} {request : Request} {attr : Attribute}
    {value : Value} {leaf : MatcherLeaf} {message : String}
    (unanswered : leaf.Unanswered answers findings request attr value message) : leaf.isCustom = true := by
  cases unanswered <;> rfl

theorem MatcherLeaf.answer_given_eq_error_iff {attr : Attribute} {value : Value} {leaf : MatcherLeaf}
    {message : String} :
    (leaf.given answers findings).answer request attr value = .error message ↔
      leaf.Unanswered answers findings request attr value message := by
  constructor
  · intro failed
    cases leaf with
    | ofCondition condition => cases failed
    | ofPredicate predicate => exact .predicate failed
    | ofScript script =>
      simp only [given, answer, accepts, Traced.value_pure] at failed
      split at failed
      next => cases failed
      next result other ended =>
        cases failed
        exact .result ended other
      next cause refused =>
        cases failed
        exact .script refused
  · rintro (refused | failed | ⟨ended, other⟩)
    · exact refused
    · simp only [given, answer, accepts, failed, Traced.value_pure]
    · simp only [given, answer, accepts, ended, Traced.value_pure]

theorem Matcher.leaves_given :
    ∀ matcher : Matcher,
      (matcher.given answers findings).leaves = matcher.leaves.map (Matcher.given answers findings) := by
  refine matcher_induction _ ?atom ?fromRule ?and ?or ?not
  case atom | fromRule => exact fun _ _ => rfl
  case and | or =>
    intro component children ih
    rw [given, leaves, leaves, leavesOfAll_eq, leavesOfAll_eq, givenMatchers_eq, List.flatMap_map, List.map_flatMap]
    exact List.flatMap_congr ih
  case not => exact fun _ _ ih => ih

theorem Matcher.atom_select_eq_error_iff {request : Request} {component : Component}
    (usable : component.ensureUsable = .ok ()) {leaf : MatcherLeaf} {attr : Attribute} {error : FilterError} :
    (atom component leaf).select request attr = .error error ↔
      ∃ earlier value later message, attr.values.toList = earlier ++ value :: later ∧
        (∀ before ∈ earlier, ∃ selected, leaf.answer request attr before = .ok selected) ∧
        leaf.answer request attr value = .error message ∧ error = .predicate component.id attr.id message := by
  rw [select_atom, guarded_of_usable usable, map_eq_error_iff, sift_eq_error_iff]

/-- A value of an attribute for which a leaf of a matcher has no answer. -/
structure Gap where
  attr : Attribute
  component : Component
  leaf : MatcherLeaf
  value : Value
  message : String

namespace Gap

def error (gap : Gap) : FilterError := .predicate gap.component.id gap.attr.id gap.message

/-- A rule comes to the gap: its attribute is in the request, and the leaves and the values before are decided. -/
structure In (rule : AttributeRule) (gap : Gap) : Prop where
  present : request.attribute? rule.attributeId = some gap.attr
  leaf : ∃ left right, rule.matcher.leaves = left ++ .atom gap.component gap.leaf :: right ∧
    ∀ earlier ∈ left, (earlier.given answers findings).Decides request gap.attr
  value : ∃ earlier later, gap.attr.values.toList = earlier ++ gap.value :: later ∧
    ∀ before ∈ earlier, ∃ selected, (gap.leaf.given answers findings).answer request gap.attr before = .ok selected
  message : gap.leaf.Unanswered answers findings request gap.attr gap.value gap.message

end Gap

variable {answers findings request}

theorem AttributeRule.apply_given_eq_error_iff {rule : AttributeRule} (valid : rule.matcher.validate = .ok ())
    {error : FilterError} :
    (rule.given answers findings).apply request = .error error ↔
      ∃ gap : Gap, gap.In answers findings request rule ∧ error = gap.error := by
  have ready := ((validate_given answers findings).2 rule.matcher).trans valid
  rw [apply_eq_error_iff]
  constructor
  · rintro ⟨attr, present, failed⟩
    obtain ⟨left, leaf, right, split, decided, failed⟩ := (Matcher.select_eq_error_iff ready).mp failed
    rw [Matcher.leaves_given, List.map_eq_append_iff] at split
    obtain ⟨before, after, whole, rfl, rest⟩ := split
    obtain ⟨own, later, rfl, rfl, rfl⟩ := List.map_eq_cons_iff.mp rest
    obtain ⟨alone, usable⟩ := Matcher.leaf_of_mem_leaves rule.matcher valid own (by simp [whole])
    cases own with
    | and | or | not => cases alone
    | fromRule component inner =>
      -- Whatever becomes of the rule, a selection is made of it.
      rw [Matcher.given, Matcher.select_fromRule, guarded_of_usable (bind_isOk_iff.mp usable).1] at failed
      cases failed
    | atom component inner =>
      obtain ⟨earlier, value, others, message, values, answered, unanswered, rfl⟩ :=
        (Matcher.atom_select_eq_error_iff usable).mp failed
      refine ⟨⟨attr, component, inner, value, message⟩,
        ⟨present, ⟨before, later, whole, ?_⟩, ⟨earlier, others, values, answered⟩, ?_⟩, rfl⟩
      · exact fun leaf member => decided _ (List.mem_map_of_mem member)
      · exact (MatcherLeaf.answer_given_eq_error_iff answers findings request).mp unanswered
  · rintro ⟨gap, here, rfl⟩
    obtain ⟨before, later, whole, decided⟩ := here.leaf
    obtain ⟨earlier, others, values, answered⟩ := here.value
    have usable := (Matcher.leaf_of_mem_leaves rule.matcher valid (.atom gap.component gap.leaf) (by simp [whole])).2
    have unanswered := (MatcherLeaf.answer_given_eq_error_iff answers findings request).mpr here.message
    have failed := (Matcher.atom_select_eq_error_iff usable).mpr
      ⟨earlier, gap.value, others, gap.message, values, answered, unanswered, rfl⟩
    have split := Matcher.leaves_given answers findings rule.matcher
    rw [whole, List.map_append, List.map_cons] at split
    exact ⟨gap.attr, here.present, (Matcher.select_eq_error_iff ready).mpr
      ⟨_, _, _, split, List.forall_mem_map.mpr decided, failed⟩⟩

section
variable (answers request)

theorem applyRules_append (first second : List AttributeRule) (findings : Findings) :
    applyRules answers request (first ++ second) findings =
      match applyRules answers request first findings with
      | (.error error, after) => (.error error, after)
      | (.ok (), after) => applyRules answers request second after := by
  induction first generalizing findings with
  | nil => rfl
  | cons rule rest ih =>
    rw [List.cons_append, applyRules, applyRules]
    cases (rule.given answers findings).apply request with
    | error error => rfl
    | ok selected =>
      cases selected with
      | none => exact ih findings
      | some values => exact ih _

theorem applyPolicies_append (first second : List Policy) (findings : Findings) :
    applyPolicies answers request (first ++ second) findings =
      match applyPolicies answers request first findings with
      | (.error error, after) => (.error error, after)
      | (.ok (), after) => applyPolicies answers request second after := by
  induction first generalizing findings with
  | nil => rfl
  | cons policy rest ih =>
    rw [List.cons_append, applyPolicies, applyPolicies]
    split
    · generalize applyRules answers request policy.rules _ = applied
      obtain ⟨verdict, after⟩ := applied
      cases verdict with
      | error error => rfl
      | ok finished => exact ih after
    · exact ih _

end

theorem applyRules_cons_of_ok {rule : AttributeRule} {selected : Option ValueSet}
    (applied : (rule.given answers findings).apply request = .ok selected) (rest : List AttributeRule) :
    applyRules answers request (rule :: rest) findings =
      applyRules answers request rest (selected.elim findings fun values => findings.note ⟨rule, values⟩) := by
  rw [applyRules, applied]
  cases selected <;> rfl

theorem applyPolicies_cons_of_active {policy : Policy}
    (active : (policy.activation.given answers findings).evaluate request = .yes) (rest : List Policy) :
    applyPolicies answers request (policy :: rest) findings =
      match applyRules answers request policy.rules (findings.record ⟨policy.id, .yes⟩) with
      | (.error error, after) => (.error error, after)
      | (.ok (), after) => applyPolicies answers request rest after := by
  rw [applyPolicies, active]
  rfl

theorem applyPolicies_cons_of_idle {policy : Policy}
    (idle : (policy.activation.given answers findings).evaluate request ≠ .yes) (rest : List Policy) :
    applyPolicies answers request (policy :: rest) findings = applyPolicies answers request rest
      (findings.record ⟨policy.id, (policy.activation.given answers findings).evaluate request⟩) := by
  rw [applyPolicies]
  exact if_neg fun active => idle (eq_of_beq active)

theorem applyRules_eq_error_iff {rules : List AttributeRule} {error : FilterError} :
    (applyRules answers request rules findings).1 = .error error ↔
      ∃ done rule rest after, rules = done ++ rule :: rest ∧
        applyRules answers request done findings = (.ok (), after) ∧
        (rule.given answers after).apply request = .error error := by
  constructor
  · intro failed
    induction rules generalizing findings with
    | nil => cases failed
    | cons rule rest ih =>
      cases applied : (rule.given answers findings).apply request with
      | error other =>
        rw [applyRules, applied] at failed
        cases failed
        exact ⟨[], rule, rest, findings, rfl, rfl, applied⟩
      | ok selected =>
        rw [applyRules_cons_of_ok applied] at failed
        obtain ⟨done, next, later, after, rfl, ran, failed⟩ := ih failed
        exact ⟨rule :: done, next, later, after, rfl, (applyRules_cons_of_ok applied done).trans ran, failed⟩
  · rintro ⟨done, rule, rest, after, rfl, ran, failed⟩
    rw [applyRules_append, ran]
    simp only [applyRules, failed]

theorem applyPolicies_eq_error_iff {policies : List Policy} {error : FilterError} :
    (applyPolicies answers request policies findings).1 = .error error ↔
      ∃ before policy after found, policies = before ++ policy :: after ∧
        applyPolicies answers request before findings = (.ok (), found) ∧
        (policy.activation.given answers found).evaluate request = .yes ∧
        (applyRules answers request policy.rules (found.record ⟨policy.id, .yes⟩)).1 = .error error := by
  constructor
  · intro failed
    induction policies generalizing findings with
    | nil => cases failed
    | cons policy rest ih =>
      by_cases active : (policy.activation.given answers findings).evaluate request = .yes
      · have step := applyPolicies_cons_of_active active
        rw [step] at failed
        rcases ran : applyRules answers request policy.rules (findings.record ⟨policy.id, .yes⟩) with ⟨other | _, left⟩
        · rw [ran] at failed
          exact ⟨[], policy, rest, findings, rfl, rfl, active, (congrArg Prod.fst ran).trans failed⟩
        · rw [ran] at failed
          obtain ⟨before, next, after, found, rfl, done, aborts⟩ := ih failed
          exact ⟨policy :: before, next, after, found, rfl, by rw [step, ran]; exact done, aborts⟩
      · rw [applyPolicies_cons_of_idle active] at failed
        obtain ⟨before, next, after, found, rfl, done, aborts⟩ := ih failed
        exact ⟨policy :: before, next, after, found, rfl, (applyPolicies_cons_of_idle active before).trans done, aborts⟩
  · rintro ⟨before, policy, after, found, rfl, done, active, failed⟩
    rw [applyPolicies_append, done]
    dsimp only
    rw [applyPolicies_cons_of_active active]
    rcases ran : applyRules answers request policy.rules (found.record ⟨policy.id, .yes⟩) with ⟨other | _, left⟩
    · rw [ran] at failed
      exact failed
    · rw [ran] at failed
      cases failed

/-- Filtering comes to a rule of an active policy, with what has been found until then. All that is before it has
been applied without a failure. -/
def Reaches (answers : Answers) (request : Request) (policies : List Policy) (policy : Policy) (rule : AttributeRule)
    (findings : Findings) : Prop :=
  ∃ before after found done rest, policies = before ++ policy :: after ∧
    applyPolicies answers request before {} = (.ok (), found) ∧
    (policy.activation.given answers found).evaluate request = .yes ∧
    policy.rules = done ++ rule :: rest ∧
    applyRules answers request done (found.record ⟨policy.id, .yes⟩) = (.ok (), findings)

theorem Reaches.mem {policies : List Policy} {policy : Policy} {rule : AttributeRule}
    (reaches : Reaches answers request policies policy rule findings) : policy ∈ policies ∧ rule ∈ policy.rules := by
  obtain ⟨before, after, _, done, rest, policies, _, _, rules, _⟩ := reaches
  simp [policies, rules]

namespace Engine

theorem filterWith_eq_error_iff {engine : Engine} (valid : engine.validate = .ok ()) {context : FilterContext}
    {error : FilterError} :
    (engine.filterWith answers context).1 = .error error ↔
      ∃ policy rule findings gap, Reaches answers context.request engine.policies policy rule findings ∧
        Gap.In answers findings context.request rule gap ∧ error = gap.error := by
  have usable := (validate_isOk_iff.mp valid).1
  rw [filterWith, usable]
  dsimp only
  rw [map_eq_error_iff, applyPolicies_eq_error_iff]
  constructor
  · rintro ⟨before, policy, after, found, policies, ran, active, failed⟩
    obtain ⟨done, rule, rest, findings, rules, applied, failed⟩ := applyRules_eq_error_iff.mp failed
    have reaches : Reaches answers context.request engine.policies policy rule findings :=
      ⟨before, after, found, done, rest, policies, ran, active, rules, applied⟩
    have ready := engine.rule_isOk valid reaches.mem.1 reaches.mem.2
    obtain ⟨gap, inside, same⟩ := (AttributeRule.apply_given_eq_error_iff ready).mp failed
    exact ⟨policy, rule, findings, gap, reaches, inside, same⟩
  · rintro ⟨policy, rule, findings, gap, reaches, inside, rfl⟩
    have ready := engine.rule_isOk valid reaches.mem.1 reaches.mem.2
    obtain ⟨before, after, found, done, rest, policies, ran, active, rules, applied⟩ := reaches
    have failed := (AttributeRule.apply_given_eq_error_iff ready).mpr ⟨gap, inside, rfl⟩
    exact ⟨before, policy, after, found, policies, ran, active,
      applyRules_eq_error_iff.mpr ⟨done, rule, rest, findings, rules, applied, failed⟩⟩

/-- A valid engine gives up exactly at the first gap that it comes to, in the order of policies, rules, leaves and
values: a value for which a predicate or a script has no answer, at a leaf of the matcher of a rule. Predicates and
scripts anywhere else may fail without that. So an engine that has none at such leaves never gives up. Predicates
may look at what has been found so far; with plain answers, this is how engines filter. -/
theorem filter_fails_at_gap (answers : Answers) (engine : Engine) (valid : engine.validate = .ok ())
    (context : FilterContext) :
    (∀ error, (engine.filterWith answers context).1 = .error error ↔
      ∃ policy rule findings gap, Reaches answers context.request engine.policies policy rule findings ∧
        Gap.In answers findings context.request rule gap ∧
        error = .predicate gap.component.id gap.attr.id gap.message) ∧
    ((∀ policy ∈ engine.policies, ∀ rule ∈ policy.rules, ∀ component leaf,
        .atom component leaf ∈ rule.matcher.leaves → leaf.isCustom = false) →
      ∃ released, (engine.filterWith answers context).1 = .ok released) ∧
    engine.filterWith .plain context = engine.filter context := by
  refine ⟨fun error => filterWith_eq_error_iff valid, fun noCustom => ?never, engine.filterWith_plain context⟩
  case never =>
    cases ended : (engine.filterWith answers context).1 with
    | ok released => exact ⟨released, rfl⟩
    | error error =>
      obtain ⟨policy, rule, findings, gap, reaches, inside, _⟩ := (filterWith_eq_error_iff valid).mp ended
      obtain ⟨left, right, split, _⟩ := inside.leaf
      have plain := noCustom policy reaches.mem.1 rule reaches.mem.2 gap.component gap.leaf (by simp [split])
      cases plain.symm.trans inside.message.isCustom

end Engine

end

attribute [local instance] Regex.language

namespace Engine

private def settled (id : String) : Component := ⟨id, .initialised⟩

private def unreachable : Rule :=
  .atom (settled "predicate") (.ofPredicate { name := "registry", test := fun _ => .error "unreachable" })

/-- The private address has not been audited. -/
private def audit : ValuePredicate where
  name := "audit"
  test _ _ value := if value == .string "home" then .error "not audited" else .ok false

private def businessAddresses : Matcher :=
  .or (settled "or") [.atom (settled "value") (.ofCondition (.value { value := "work" })),
    .atom (settled "audit") (.ofPredicate audit)]

/-- Rules that cannot be decided keep one policy from being applied, and one attribute rule from permitting
anything. What is `last` comes after that. -/
private def cautious (last : List AttributeRule) : Engine :=
  { component := settled "release"
    policies := [
      { component := settled "partners", activation := unreachable
        rules := [{ attributeId := "mail", matcher := .atom (settled "any") (.ofCondition .any) }] },
      { component := settled "staff", activation := .not (settled "not") (.atom (settled "static") (.fixed .no))
        rules := { attributeId := "mail", matcher := .fromRule (settled "from-rule") unreachable } :: last }] }

/-- Only the audit ends the run. -/
theorem filter_fails_at_gap_cautious :
    ((cautious [{ attributeId := "mail", matcher := businessAddresses }]).filter { request := unknownRequester }).1 =
        .error (.predicate "audit" "mail" "not audited") ∧
      ∀ context, ∃ released, ((cautious []).filter context).1 = .ok released := by
  constructor
  · have known : unknownRequester.attribute? "mail" =
        some { id := "mail", values := .ofList [.string "work", .string "home"] } := rfl
    obtain ⟨fails, _, plain⟩ := filter_fails_at_gap .plain
      (cautious [{ attributeId := "mail", matcher := businessAddresses }]) rfl { request := unknownRequester }
    rw [← plain]
    refine (fails _).mpr ⟨_, _, _, ⟨_, settled "audit", .ofPredicate audit, .string "home", "not audited"⟩,
      ⟨[_], [], _, [_], [], rfl, rfl, rfl, rfl, rfl⟩, ⟨known, ⟨[_], [], rfl, ?_⟩, ⟨[_], [], rfl, ?_⟩, .predicate rfl⟩, rfl⟩
    · exact List.forall_mem_singleton.mpr ⟨_, rfl⟩
    · exact List.forall_mem_singleton.mpr ⟨false, rfl⟩
  · intro context
    obtain ⟨_, never, plain⟩ := filter_fails_at_gap .plain (cautious []) rfl context
    rw [← plain]
    refine never ?_
    simp [cautious, Matcher.leaves, MatcherLeaf.isCustom]

end Engine

end AttributeRelease
