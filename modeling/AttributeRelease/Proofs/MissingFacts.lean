import AttributeRelease.Proofs.Grants
import AttributeRelease.Proofs.Uncertainty
import AttributeRelease.Regex.Language

/-! Facts that are missing can only shrink a release. Rules on a missing fact are undecided, an
undecided permission gives nothing and an undecided denial takes everything. -/

namespace AttributeRelease

/-- Facts of which some are no longer known. Only those count that conditions cannot do without. -/
structure Facts.Fewer (before after : Facts) : Prop where
  principal : after.principal = before.principal ∨ after.principal = none
  requester : after.requester = before.requester ∨ after.requester = none
  responder : after.responder = before.responder ∨ after.responder = none
  proxiedRequesters : after.proxiedRequesters = before.proxiedRequesters
  authenticationMethods : after.authenticationMethods = before.authenticationMethods ∨ after.authenticationMethods = []
  session : after.session = before.session
  requestTime : after.requestTime = before.requestTime

private theorem onFact_fades {before after : Option String} (fewer : after = before ∨ after = none)
    (accepts : String → Bool) : Tristate.Fades (Condition.onFact before accepts) (Condition.onFact after accepts) := by
  rcases fewer with rfl | rfl
  · exact Or.inl rfl
  · exact Or.inr rfl

section

variable [PatternLanguage]

theorem Condition.evaluate_fades {before after : Facts} (fewer : before.Fewer after) (condition : Condition) :
    Tristate.Fades (condition.evaluate before) (condition.evaluate after) := by
  cases condition with
  | requester expected => exact onFact_fades fewer.requester expected.accepts
  | requesterPattern pattern => exact onFact_fades fewer.requester pattern.accepts
  | responder expected => exact onFact_fades fewer.responder expected.accepts
  | principal expected => exact onFact_fades fewer.principal expected.accepts
  | principalPattern pattern => exact onFact_fades fewer.principal pattern.accepts
  | proxiedRequester expected =>
    rw [evaluate, evaluate, fewer.proxiedRequesters]
    exact Or.inl rfl
  | authenticationMethod expected =>
    rw [evaluate, evaluate]
    rcases fewer.authenticationMethods with same | none
    · rw [same]
      exact Or.inl rfl
    · rw [none]
      exact Or.inr rfl

/-- A leaf that is neither a predicate of an application nor a script. -/
def RuleLeaf.IsCondition : RuleLeaf → Prop
  | .fixed _ => True
  | .ofCondition _ => True
  | .ofPredicate _ => False
  | .ofScript _ => False

def MatcherLeaf.IsCondition : MatcherLeaf → Prop
  | .ofCondition _ => True
  | .ofPredicate _ => False
  | .ofScript _ => False

/-- No rule or matcher of the engine has a predicate or a script in it. -/
def Engine.OfConditions (engine : Engine) : Prop := engine.Each RuleLeaf.IsCondition MatcherLeaf.IsCondition

private theorem answer_of_condition {leaf : MatcherLeaf} (condition : leaf.IsCondition) (request : Request)
    (attr : Attribute) (value : Value) : ∃ yes, leaf.answer request attr value = .ok yes := by
  cases leaf with
  | ofCondition inner => exact ⟨inner.accepts value, rfl⟩
  | ofPredicate predicate => cases condition
  | ofScript script => cases condition

private theorem answer_same {leaf : MatcherLeaf} (condition : leaf.IsCondition) (before after : Request)
    (attr : Attribute) : leaf.answer after attr = leaf.answer before attr := by
  cases leaf with
  | ofCondition inner => rfl
  | ofPredicate predicate => cases condition
  | ofScript script => cases condition

private theorem conditions_fade {before after : Request} (fewer : before.facts.Fewer after.facts) :
    (∀ rule : Rule, rule.Each RuleLeaf.IsCondition MatcherLeaf.IsCondition → rule.LeavesFade before after) ∧
    ∀ matcher : Matcher, matcher.Each RuleLeaf.IsCondition MatcherLeaf.IsCondition →
      ∀ attr, matcher.LeavesFade before after attr := by
  refine tree_induction _ _ ?ruleAtom ?ruleAnd ?ruleOr ?ruleNot ?attributeMatches ?matcherAtom ?fromRule ?matcherAnd
    ?matcherOr ?matcherNot
  case ruleAtom =>
    intro component leaf condition
    rw [Rule.LeavesFade, Rule.evaluate_atom, Rule.evaluate_atom]
    split
    · cases leaf with
      | fixed outcome => exact Or.inl rfl
      | ofCondition inner => exact inner.evaluate_fades fewer
      | ofPredicate predicate => cases condition
      | ofScript script => cases condition
    · exact Or.inl rfl
  case ruleAnd | ruleOr =>
    intro component children ih conditions
    exact rulesFade_iff.mpr fun child member => ih child member (eachRule_iff.mp conditions child member)
  case ruleNot => exact fun component child ih conditions => ih conditions
  case attributeMatches => exact fun component attributeId matcher ih conditions attr found => ih conditions attr
  case matcherAtom =>
    intro component leaf condition attr
    rw [Matcher.LeavesFade, Matcher.select_atom, Matcher.select_atom, answer_same condition before after attr]
    exact fun _ made => made
  case fromRule => exact fun component rule ih conditions attr => ih conditions
  case matcherAnd | matcherOr =>
    intro component children ih conditions attr
    exact matchersFade_iff.mpr fun child member => ih child member (eachMatcher_iff.mp conditions child member) attr
  case matcherNot => exact fun component child ih conditions attr => ih conditions attr

private theorem combine_ok {request : Request} {attr : Attribute} {values : ValueSet} {accepts : List Bool → Bool}
    {matchers : List Matcher}
    (children : ∀ matcher ∈ matchers, ∃ selection, matcher.select request attr = .ok selection) :
    ∃ selection, (gather (matchers.map (Matcher.select · request attr))).map (Selection.combine values accepts) =
      .ok selection := by
  have each : ∀ result ∈ matchers.map (Matcher.select · request attr), ∃ selection, result = .ok selection := by
    intro result member
    obtain ⟨matcher, inside, rfl⟩ := List.mem_map.mp member
    exact children matcher inside
  obtain ⟨sets, gathered⟩ := gather_ok each
  rw [gathered]
  exact ⟨_, rfl⟩

private theorem select_of_conditions (request : Request) (attr : Attribute) :
    ∀ matcher : Matcher, matcher.validate = .ok () → matcher.Each RuleLeaf.IsCondition MatcherLeaf.IsCondition →
      ∃ selection, matcher.select request attr = .ok selection := by
  refine matcher_induction _ ?atom ?fromRule ?and ?or ?not
  case atom =>
    intro component leaf valid condition
    have answers : ∀ value ∈ attr.values.toList, ∃ yes, leaf.answer request attr value = .ok yes :=
      fun value _ => answer_of_condition condition request attr value
    rw [Matcher.select_atom, guarded_of_usable valid, sift_eq_ok_iff.mpr ⟨answers, rfl⟩]
    exact ⟨_, rfl⟩
  case fromRule =>
    intro component rule valid _
    rw [Matcher.select_fromRule, guarded_of_usable (bind_isOk_iff.mp valid).1]
    exact ⟨_, rfl⟩
  case and =>
    intro component children ih valid conditions
    obtain ⟨usable, parts⟩ := bind_isOk_iff.mp valid
    rw [Matcher.select_and, guarded_of_usable usable]
    exact combine_ok fun child member =>
      ih child member (validateMatchers_isOk_iff.mp parts child member) (eachMatcher_iff.mp conditions child member)
  case or =>
    intro component children ih valid conditions
    obtain ⟨usable, parts⟩ := bind_isOk_iff.mp valid
    rw [Matcher.select_or, guarded_of_usable usable]
    exact combine_ok fun child member =>
      ih child member (validateMatchers_isOk_iff.mp parts child member) (eachMatcher_iff.mp conditions child member)
  case not =>
    intro component child ih valid conditions
    obtain ⟨usable, part⟩ := bind_isOk_iff.mp valid
    rw [Matcher.select_not, guarded_of_usable usable]
    have inner : ∀ matcher ∈ [child], ∃ selection, matcher.select request attr = .ok selection := by
      simpa using ih part conditions
    exact combine_ok inner

namespace Engine

section
variable {engine : Engine} {before after : Request} {attr : Attribute} {value : Value}

private theorem not_fails_of_conditions (valid : engine.validate = .ok ()) (conditions : engine.OfConditions)
    (request : Request) : ¬ engine.Fails request := by
  rintro ⟨policy, member, active, rule, inside, attr, found, error, failed⟩
  obtain ⟨selection, selected⟩ := select_of_conditions request attr rule.matcher (rule_isOk valid member inside)
    ((conditions policy member).2 rule inside)
  exact nomatch selected.symm.trans failed

private theorem active_of_fewer (conditions : engine.OfConditions) (same : after.attributes = before.attributes)
    (fewer : before.facts.Fewer after.facts) {policy : Policy} (member : policy ∈ engine.policies)
    (active : policy.activation.evaluate after = .yes) : policy.activation.evaluate before = .yes := by
  have fades := (leaves_fade same).1 _ ((conditions_fade fewer).1 _ (conditions policy member).1)
  rcases fades with kept | lost
  · exact kept ▸ active
  · exact nomatch lost.symm.trans active

private theorem matcher_fades (attr : Attribute) (conditions : engine.OfConditions)
    (same : after.attributes = before.attributes) (fewer : before.facts.Fewer after.facts) {policy : Policy}
    (member : policy ∈ engine.policies) {rule : AttributeRule} (inside : rule ∈ policy.rules) :
    Selection.Fades (rule.matcher.select before attr) (rule.matcher.select after attr) :=
  (leaves_fade same).2 _ attr ((conditions_fade fewer).2 _ ((conditions policy member).2 rule inside) attr)

private theorem permitted_of_fewer (conditions : engine.OfConditions) (same : after.attributes = before.attributes)
    (fewer : before.facts.Fewer after.facts) (permitted : engine.Marks after .permit attr value) :
    engine.Marks before .permit attr value := by
  obtain ⟨policy, member, active, rule, inside, permits, sameId, selects⟩ := permitted
  refine ⟨policy, member, active_of_fewer conditions same fewer member active, rule, inside, permits, sameId, ?_⟩
  have fades := matcher_fades attr conditions same fewer member inside
  rw [AttributeRule.Selects] at selects ⊢
  cases selected : rule.matcher.select after attr with
  | error error => simp [selected] at selects
  | ok selection =>
    cases selection with
    | values values =>
      rw [fades values selected]
      simpa [selected] using selects
    | undecided => simp [selected, permits] at selects

/-- Denials are kept: what no longer decides on a value denies it all the same. -/
private theorem denied_of_fewer (valid : engine.validate = .ok ()) (conditions : engine.OfConditions)
    (same : after.attributes = before.attributes) (fewer : before.facts.Fewer after.facts)
    (stillActive : ∀ policy ∈ engine.policies, (∃ rule ∈ policy.rules, rule.effect = .deny) →
      policy.activation.evaluate before = .yes → policy.activation.evaluate after = .yes)
    (inside : value ∈ attr.values) (denied : engine.Marks before .deny attr value) :
    engine.Marks after .deny attr value := by
  obtain ⟨policy, member, active, rule, ruleInside, denies, sameId, selects⟩ := denied
  refine ⟨policy, member, stillActive policy member ⟨rule, ruleInside, denies⟩ active, rule, ruleInside, denies,
    sameId, ?_⟩
  obtain ⟨selection, selected⟩ := select_of_conditions after attr rule.matcher
    (rule_isOk valid member ruleInside) ((conditions policy member).2 rule ruleInside)
  have fades := matcher_fades attr conditions same fewer member ruleInside
  rw [AttributeRule.Selects] at selects ⊢
  rw [selected]
  cases selection with
  | values values =>
    rw [fades values selected] at selects
    exact selects
  | undecided => exact ⟨denies, inside⟩

end

/-- Without predicates and scripts, filtering does not fail, and a request of which fewer facts are
known is released no value that was not released before, provided that the policies with denials
stay active. -/
theorem missing_facts_shrink_release (engine : Engine) (valid : engine.validate = .ok ())
    (conditions : engine.OfConditions) (before after : FilterContext)
    (same : after.request.attributes = before.request.attributes)
    (fewer : before.request.facts.Fewer after.request.facts) :
    (engine.filter before).1 = .ok (engine.granted before.request) ∧
      (engine.filter after).1 = .ok (engine.granted after.request) ∧
      ((∀ policy ∈ engine.policies, (∃ rule ∈ policy.rules, rule.effect = .deny) →
          policy.activation.evaluate before.request = .yes → policy.activation.evaluate after.request = .yes) →
        ∀ attr ∈ engine.granted after.request, ∀ value ∈ attr.values,
          ∃ whole ∈ engine.granted before.request, whole.id = attr.id ∧ value ∈ whole.values) := by
  have filtered (context : FilterContext) : (engine.filter context).1 = .ok (engine.granted context.request) := by
    rcases filter_cases (validate_isOk_iff.mp valid).1 context with ⟨fails, _⟩ | ⟨_, released⟩
    · exact absurd fails (not_fails_of_conditions valid conditions context.request)
    · exact released
  refine ⟨filtered before, filtered after, ?_⟩
  intro stillActive attr released value inside
  obtain ⟨source, member, kept⟩ := List.mem_filterMap.mp released
  obtain ⟨rfl, _⟩ := Attribute.only?_eq_some_iff.mp kept
  obtain ⟨present, granted⟩ := ValueSet.mem_filter.mp inside
  obtain ⟨permitted, notDenied⟩ := of_decide_eq_true granted
  have wasGranted : engine.Grants before.request source value :=
    ⟨permitted_of_fewer conditions same fewer permitted,
      fun denied => notDenied (denied_of_fewer valid conditions same fewer stillActive present denied)⟩
  refine ⟨_, List.mem_filterMap.mpr ⟨source, same ▸ member, Attribute.only?_eq_some_iff.mpr
    ⟨rfl, value, present, decide_eq_true wasGranted⟩⟩, rfl, ?_⟩
  exact ValueSet.mem_filter.mpr ⟨present, decide_eq_true wasGranted⟩

end Engine

end

attribute [local instance] Regex.language

namespace Engine

/-- The person of `unknownRequester`, asked for by a bank. -/
def knownRequester : Request :=
  { unknownRequester with facts := { unknownRequester.facts with requester := some "bank" } }

/-- Not knowing the requester costs the telephone, since the denial of it is undecided. -/
theorem missing_facts_shrink_release_contested :
    contested.validate = .ok () ∧ contested.OfConditions ∧ knownRequester.facts.Fewer unknownRequester.facts ∧
      (contested.filter { request := knownRequester }).1 =
        .ok [{ id := "mail", values := .ofList [.string "work"] }, { id := "phone", values := .ofList [.string "1234"] }] ∧
      ∃ left, (contested.filter { request := unknownRequester }).1 = .ok left ∧ ∀ attr ∈ left, ∀ value ∈ attr.values,
        (attr.id = "mail" ∧ value = .string "work") ∨ (attr.id = "phone" ∧ value = .string "1234") := by
  have conditions : contested.OfConditions := by
    simp [OfConditions, Engine.Each, contested, Rule.Each, Matcher.Each, RuleLeaf.IsCondition, MatcherLeaf.IsCondition]
  have fewer : knownRequester.facts.Fewer unknownRequester.facts :=
    ⟨Or.inl rfl, Or.inr rfl, Or.inl rfl, rfl, Or.inl rfl, rfl, rfl⟩
  have filtered : (contested.filter { request := knownRequester }).1 =
      .ok [{ id := "mail", values := .ofList [.string "work"] },
        { id := "phone", values := .ofList [.string "1234"] }] := rfl
  obtain ⟨before, after, shrinks⟩ := missing_facts_shrink_release contested rfl conditions
    { request := knownRequester } { request := unknownRequester } rfl fewer
  refine ⟨rfl, conditions, fewer, filtered, _, after, ?_⟩
  intro attr released value inside
  obtain ⟨whole, member, same, present⟩ := shrinks (by decide) attr released value inside
  rw [← Except.ok.inj (filtered.symm.trans before)] at member
  simp only [List.mem_cons, List.not_mem_nil, or_false] at member
  rcases member with rfl | rfl
  · exact Or.inl ⟨same.symm, by simpa using present⟩
  · exact Or.inr ⟨same.symm, by simpa using present⟩

end Engine

end AttributeRelease
