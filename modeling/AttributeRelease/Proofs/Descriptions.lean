import AttributeRelease.Definition.Builder
import AttributeRelease.Proofs.Assembly

/-! What makes a description of a rule or matcher unacceptable. Patterns and scripts are checked
while it is built, and scripts again with the compositions when the result is initialised. Both go
through the whole description in document order. -/

namespace AttributeRelease

/-- A clause of a description that can be at fault. Scripts and compositions come with the name of
the component that is made of them. -/
inductive Clause where
  | pattern (source : String)
  | script (component expression : String)
  | composition (component : String) (size : Nat)

def ConditionDefinition.clauses : ConditionDefinition → List Clause
  | .requesterPattern source | .principalPattern source => [.pattern source]
  | .requester _ | .responder _ | .principal _ | .proxiedRequester _ | .authenticationMethod _ => []

def ValueConditionDefinition.clauses : ValueConditionDefinition → List Clause
  | .valuePattern source | .scopePattern source => [.pattern source]
  | .any | .value _ | .scope _ | .exact _ => []

mutual
/-- The clauses of a description in document order. Components are named after their kind, except
that the outermost one may be given a name. -/
def RuleDefinition.clauses (given : Option String) : RuleDefinition → List Clause
  | .any | .fixed _ => []
  | .condition tested => tested.clauses
  | .and rules => .composition (given.getD "and") rules.length :: clausesOfRules rules
  | .or rules => .composition (given.getD "or") rules.length :: clausesOfRules rules
  | .not rule => rule.clauses none
  | .script expression _ => [.script (given.getD "script") expression]
  | .attributeMatches _ matcher => matcher.clauses

def clausesOfRules : List RuleDefinition → List Clause
  | [] => []
  | rule :: rest => rule.clauses none ++ clausesOfRules rest

def MatcherDefinition.clauses : MatcherDefinition → List Clause
  | .condition tested => tested.clauses
  | .fromRule rule => rule.clauses none
  | .script expression _ => [.script "script" expression]
  | .and matchers => .composition "and" matchers.length :: clausesOfMatchers matchers
  | .or matchers => .composition "or" matchers.length :: clausesOfMatchers matchers
  | .not matcher => matcher.clauses

def clausesOfMatchers : List MatcherDefinition → List Clause
  | [] => []
  | matcher :: rest => matcher.clauses ++ clausesOfMatchers rest
end

/-- Rules and matchers describe each other, so what is proved of the descriptions of the one kind is
proved of both at once. -/
theorem definition_induction (ofRule : RuleDefinition → Prop) (ofMatcher : MatcherDefinition → Prop)
    (any : ofRule .any) (fixed : ∀ outcome, ofRule (.fixed outcome)) (condition : ∀ tested, ofRule (.condition tested))
    (ruleAnd : ∀ rules, (∀ rule ∈ rules, ofRule rule) → ofRule (.and rules))
    (ruleOr : ∀ rules, (∀ rule ∈ rules, ofRule rule) → ofRule (.or rules))
    (ruleNot : ∀ rule, ofRule rule → ofRule (.not rule))
    (ruleScript : ∀ expression custom, ofRule (.script expression custom))
    (attributeMatches : ∀ attributeId matcher, ofMatcher matcher → ofRule (.attributeMatches attributeId matcher))
    (valueCondition : ∀ tested, ofMatcher (.condition tested))
    (fromRule : ∀ rule, ofRule rule → ofMatcher (.fromRule rule))
    (matcherScript : ∀ expression custom, ofMatcher (.script expression custom))
    (matcherAnd : ∀ matchers, (∀ matcher ∈ matchers, ofMatcher matcher) → ofMatcher (.and matchers))
    (matcherOr : ∀ matchers, (∀ matcher ∈ matchers, ofMatcher matcher) → ofMatcher (.or matchers))
    (matcherNot : ∀ matcher, ofMatcher matcher → ofMatcher (.not matcher)) :
    (∀ rule, ofRule rule) ∧ ∀ matcher, ofMatcher matcher := by
  have noRule : ∀ rule ∈ ([] : List RuleDefinition), ofRule rule := fun _ member => nomatch member
  have noMatcher : ∀ matcher ∈ ([] : List MatcherDefinition), ofMatcher matcher := fun _ member => nomatch member
  have rules : ∀ first rest, ofRule first → (∀ rule ∈ rest, ofRule rule) → ∀ rule ∈ first :: rest, ofRule rule :=
    fun _ _ here later => List.forall_mem_cons.mpr ⟨here, later⟩
  have matchers : ∀ first rest, ofMatcher first → (∀ matcher ∈ rest, ofMatcher matcher) →
      ∀ matcher ∈ first :: rest, ofMatcher matcher :=
    fun _ _ here later => List.forall_mem_cons.mpr ⟨here, later⟩
  constructor
  · exact @RuleDefinition.rec ofRule ofMatcher (fun rules => ∀ rule ∈ rules, ofRule rule)
      (fun matchers => ∀ matcher ∈ matchers, ofMatcher matcher) any fixed condition ruleAnd ruleOr ruleNot ruleScript
      attributeMatches valueCondition fromRule matcherScript matcherAnd matcherOr matcherNot noRule rules noMatcher matchers
  · exact @MatcherDefinition.rec ofRule ofMatcher (fun rules => ∀ rule ∈ rules, ofRule rule)
      (fun matchers => ∀ matcher ∈ matchers, ofMatcher matcher) any fixed condition ruleAnd ruleOr ruleNot ruleScript
      attributeMatches valueCondition fromRule matcherScript matcherAnd matcherOr matcherNot noRule rules noMatcher matchers

/-- A result that is an error if there is a fault, and else something good. -/
def Yields {α : Type} (good : α → Prop) (fault? : Option ConfigError) (result : Except ConfigError α) : Prop :=
  match fault? with
  | some error => result = .error error
  | none => ∃ value, result = .ok value ∧ good value

namespace Yields

variable {α β δ : Type} {good : α → Prop} {result : Except ConfigError α}

theorem of_ok {value : α} (holds : good value) : Yields good none (.ok value) := ⟨value, rfl, holds⟩

theorem of_eq_ok {fault? : Option ConfigError} (yields : Yields good fault? result) {value : α}
    (succeeded : result = .ok value) : good value := by
  cases fault? with
  | some error => cases succeeded.symm.trans yields
  | none =>
    obtain ⟨other, found, holds⟩ := yields
    cases succeeded.symm.trans found
    exact holds

theorem bind {better : β → Prop} {fault? later? : Option ConfigError} (first : Yields good fault? result)
    {next : α → Except ConfigError β} (goOn : ∀ value, good value → Yields better later? (next value)) :
    Yields better (fault?.or later?) (result >>= next) := by
  cases fault? with
  | some error =>
    cases first
    exact rfl
  | none =>
    obtain ⟨value, rfl, holds⟩ := first
    exact goOn value holds

theorem mapM {one : δ → α → Prop} (all : List δ → List α → Prop) (nil : all [] [])
    (cons : ∀ {item items value values}, one item value → all items values → all (item :: items) (value :: values))
    {build : δ → Except ConfigError α} {fault? : δ → Option ConfigError} {items : List δ}
    (each : ∀ item ∈ items, Yields (one item) (fault? item) (build item)) :
    Yields (all items) (items.findSome? fault?) (items.mapM build) := by
  induction items with
  | nil => exact of_ok nil
  | cons item rest ih =>
    obtain ⟨here, later⟩ := List.forall_mem_cons.mp each
    have split : (item :: rest).findSome? fault? = (fault? item).or ((rest.findSome? fault?).or none) := by
      rw [List.findSome?_cons, Option.or_none]
      cases fault? item <;> rfl
    rw [split, List.mapM_cons]
    refine here.bind fun value holds => (ih later).bind fun values hold => ?_
    exact of_ok (cons holds hold)

theorem weaken {better : α → Prop} {fault? : Option ConfigError} (yields : Yields good fault? result)
    (holds : ∀ value, good value → better value) : Yields better fault? result := by
  cases fault? with
  | some error => exact yields
  | none =>
    obtain ⟨value, found, ready⟩ := yields
    exact ⟨value, found, holds value ready⟩

theorem wrap {better : β → Prop} {fault? : Option ConfigError} (first : Yields good fault? result) {change : α → β}
    (holds : ∀ value, good value → better (change value)) : Yields better fault? (do return change (← result)) := by
  have changed : Yields better (fault?.or none) (do return change (← result)) :=
    first.bind fun value ready => of_ok (holds value ready)
  rwa [Option.or_none] at changed

end Yields

theorem clausesOfRules_eq (definitions : List RuleDefinition) :
    clausesOfRules definitions = definitions.flatMap (·.clauses none) := by
  induction definitions with
  | nil => rfl
  | cons definition rest ih => rw [clausesOfRules, ih, List.flatMap_cons]

theorem clausesOfMatchers_eq (definitions : List MatcherDefinition) :
    clausesOfMatchers definitions = definitions.flatMap (·.clauses) := by
  induction definitions with
  | nil => rfl
  | cons definition rest ih => rw [clausesOfMatchers, ih, List.flatMap_cons]

theorem findSome?_flatMap {α β γ : Type} (find? : β → Option γ) (parts : α → List β) (items : List α) :
    (items.flatMap parts).findSome? find? = items.findSome? fun item => (parts item).findSome? find? := by
  induction items with
  | nil => rfl
  | cons item rest ih =>
    rw [List.flatMap_cons, List.findSome?_append, ih, List.findSome?_cons]
    cases (parts item).findSome? find? <;> rfl

private theorem error?_parts {α β : Type} {component : Component} (fresh : component.phase = .uninitialised)
    (parts : Attempt α) (build : Component → α → β) :
    (parts.andThen (build component) fun parts => component.attempt (build · parts)).error? = parts.error? :=
  (Attempt.error?_andThen fun _ => Component.error?_attempt fresh _).trans (Option.or_none ..)

namespace Clause

/-- Why a clause that can be built cannot be initialised. -/
def fault? (builder : Builder) : Clause → Option ConfigError
  | .pattern _ => none
  | .script component expression =>
    match builder.evaluator? with
    | none => none
    | some evaluator =>
      match evaluator.check expression with
      | .ok () => none
      | .error cause => some (.scriptRejected component cause)
  | .composition component size => if size = 0 then some (.emptyComposition component) else none

end Clause

private theorem composition_error? {builder : Builder} {α β : Type} {component : Component}
    (fresh : component.phase = .uninitialised) {initialise : α → Attempt α} {parts : List α} {size : Nat} {clauses : List Clause} (build : Component → List α → β)
    (sameSize : parts.length = size)
    (faults : parts.findSome? (fun part => (initialise part).error?) = clauses.findSome? (Clause.fault? builder)) :
    (if component.isInitialised then .ok (build component parts)
      else if parts.isEmpty then .fail (build component parts) (.emptyComposition component.id)
      else (Attempt.each initialise parts).andThen (build component) fun parts =>
        component.attempt (build · parts) : Attempt β).error? =
      (Clause.composition component.id size :: clauses).findSome? (Clause.fault? builder) := by
  rw [if_neg (Bool.eq_false_iff.mp (Component.idle_of_fresh fresh)), List.findSome?_cons, Clause.fault?]
  by_cases empty : size = 0
  · rw [if_pos empty, if_pos (List.isEmpty_iff_length_eq_zero.mpr (sameSize.trans empty))]
    rfl
  · rw [if_neg empty, if_neg fun nil => empty (sameSize.symm.trans (List.isEmpty_iff_length_eq_zero.mp nil)),
      error?_parts fresh, Attempt.error?_each, faults]

variable [PatternLanguage]

namespace Clause

/-- Why a clause cannot be built. -/
def refusal? (builder : Builder) : Clause → Option ConfigError
  | .pattern source =>
    match PatternLanguage.compile source with
    | .ok _ => none
    | .error problem => some (.invalidPattern source problem)
  | .script _ _ => if builder.evaluator?.isSome then none else some (.missing .evaluator)
  | .composition _ _ => none

theorem refusal?_clauses (builder : Builder) (given : Option String) (definition : RuleDefinition) :
    (definition.clauses given).findSome? (refusal? builder) =
      (definition.clauses none).findSome? (refusal? builder) := by
  cases definition <;> rfl

end Clause

namespace Builder

theorem rules_eq (builder : Builder) (definitions : List RuleDefinition) :
    builder.rules definitions = definitions.mapM builder.rule := by
  induction definitions with
  | nil => rfl
  | cons definition rest ih => rw [rules, ih, List.mapM_cons]

theorem matchers_eq (builder : Builder) (definitions : List MatcherDefinition) :
    builder.matchers definitions = definitions.mapM builder.matcher := by
  induction definitions with
  | nil => rfl
  | cons definition rest ih => rw [matchers, ih, List.mapM_cons]

end Builder

/-- How a rule as it is described comes into being: it goes wrong where its clauses do. -/
structure RuleDefinition.Describes (definition : RuleDefinition) (builder : Builder) (rule : Rule) : Prop where
  reached : rule.Reached
  faults : ∀ given : Option String,
    (rule.withId (given.getD rule.id)).initialise.error? = (definition.clauses given).findSome? (Clause.fault? builder)

structure MatcherDefinition.Describes (definition : MatcherDefinition) (builder : Builder) (matcher : Matcher) : Prop where
  reached : matcher.Reached
  faults : matcher.initialise.error? = definition.clauses.findSome? (Clause.fault? builder)

variable {builder : Builder}

theorem RuleDefinition.Describes.error? {definition : RuleDefinition} {rule : Rule}
    (describes : definition.Describes builder rule) :
    rule.initialise.error? = (definition.clauses none).findSome? (Clause.fault? builder) := by
  have faults := describes.faults none
  rwa [Option.getD_none, rule.withId_id] at faults

private theorem parts_yield {α δ : Type} {reached : α → Prop} {error? : α → Option ConfigError}
    {clauses : δ → List Clause} {build : δ → Except ConfigError α} {definitions : List δ}
    (each : ∀ definition ∈ definitions,
      Yields (fun value => reached value ∧ error? value = (clauses definition).findSome? (Clause.fault? builder))
        ((clauses definition).findSome? (Clause.refusal? builder)) (build definition)) :
    Yields (fun values => (∀ value ∈ values, reached value) ∧ values.length = definitions.length ∧
        values.findSome? error? = (definitions.flatMap clauses).findSome? (Clause.fault? builder))
      ((definitions.flatMap clauses).findSome? (Clause.refusal? builder)) (definitions.mapM build) := by
  simp only [findSome?_flatMap]
  refine Yields.mapM (fun definitions values => (∀ value ∈ values, reached value) ∧
    values.length = definitions.length ∧ values.findSome? error? =
      definitions.findSome? fun definition => (clauses definition).findSome? (Clause.fault? builder)) ?_ ?_ each
  · exact ⟨nofun, rfl, rfl⟩
  · rintro definition rest value values ⟨ready, fault⟩ ⟨allReady, size, faults⟩
    refine ⟨List.forall_mem_cons.mpr ⟨ready, allReady⟩, congrArg (· + 1) size, ?_⟩
    rw [List.findSome?_cons, List.findSome?_cons, fault, faults]

private theorem pattern_yields (source : String) :
    Yields (fun _ => True) ([Clause.pattern source].findSome? (Clause.refusal? builder)) (Pattern.compile source) := by
  rw [Pattern.compile]
  split
  next accepts compiled =>
    have clear : Clause.refusal? builder (.pattern source) = none := by rw [Clause.refusal?, compiled]
    rw [List.findSome?_cons, clear]
    exact .of_ok trivial
  next problem refused =>
    rw [List.findSome?_cons, Clause.refusal?, refused]
    exact rfl

private theorem condition_yields (tested : ConditionDefinition) :
    Yields (fun _ => True) (tested.clauses.findSome? (Clause.refusal? builder)) tested.build := by
  cases tested with
  | requesterPattern source | principalPattern source => exact (pattern_yields source).wrap fun _ _ => trivial
  | _ => exact .of_ok trivial

private theorem valueCondition_yields (tested : ValueConditionDefinition) :
    Yields (fun _ => True) (tested.clauses.findSome? (Clause.refusal? builder)) tested.build := by
  cases tested with
  | valuePattern source | scopePattern source => exact (pattern_yields source).wrap fun _ _ => trivial
  | _ => exact .of_ok trivial

private theorem script_yields (expression : String) (custom : Option Json) :
    Yields (fun script => ∀ {α : Type} (name : String) (build : Component → α),
        (Component.attemptChecked { id := name } (script.check name) build).error? =
          [Clause.script name expression].findSome? (Clause.fault? builder))
      ([Clause.script "script" expression].findSome? (Clause.refusal? builder)) (builder.script expression custom) := by
  obtain ⟨evaluator?⟩ := builder
  cases evaluator? with
  | none => exact rfl
  | some evaluator =>
    refine .of_ok fun name build => ?_
    simp only [Script.check, List.findSome?_cons, List.findSome?_nil, Clause.fault?]
    cases evaluator.check expression <;> rfl

private theorem rules_yield {definitions : List RuleDefinition} (each : ∀ definition ∈ definitions,
      Yields (definition.Describes builder) ((definition.clauses none).findSome? (Clause.refusal? builder))
        (builder.rule definition)) :
    Yields (fun rules => (∀ rule ∈ rules, rule.Reached) ∧ rules.length = definitions.length ∧
        rules.findSome? (·.initialise.error?) = (clausesOfRules definitions).findSome? (Clause.fault? builder))
      ((clausesOfRules definitions).findSome? (Clause.refusal? builder)) (builder.rules definitions) := by
  rw [clausesOfRules_eq, builder.rules_eq]
  exact parts_yield fun definition member => (each definition member).weaken fun rule describes =>
    ⟨describes.reached, describes.error?⟩

private theorem matchers_yield {definitions : List MatcherDefinition} (each : ∀ definition ∈ definitions,
      Yields (definition.Describes builder) (definition.clauses.findSome? (Clause.refusal? builder))
        (builder.matcher definition)) :
    Yields (fun matchers => (∀ matcher ∈ matchers, matcher.Reached) ∧ matchers.length = definitions.length ∧
        matchers.findSome? (·.initialise.error?) = (clausesOfMatchers definitions).findSome? (Clause.fault? builder))
      ((clausesOfMatchers definitions).findSome? (Clause.refusal? builder)) (builder.matchers definitions) := by
  rw [clausesOfMatchers_eq, builder.matchers_eq]
  exact parts_yield fun definition member => (each definition member).weaken fun matcher describes =>
    ⟨describes.reached, describes.faults⟩

/-- Building finds the first clause that is refused, and initialising the first one at fault. -/
theorem build_yields :
    (∀ definition : RuleDefinition,
      Yields (definition.Describes builder) ((definition.clauses none).findSome? (Clause.refusal? builder))
        (builder.rule definition)) ∧
    ∀ definition : MatcherDefinition,
      Yields (definition.Describes builder) (definition.clauses.findSome? (Clause.refusal? builder))
        (builder.matcher definition) := by
  refine definition_induction _ _ ?any ?fixed ?condition ?ruleAnd ?ruleOr ?ruleNot ?ruleScript ?attributeMatches
    ?valueCondition ?fromRule ?matcherScript ?matcherAnd ?matcherOr ?matcherNot
  -- The outermost component of an activation rule is renamed before it is initialised, so each case is for any name.
  case any => exact .of_ok ⟨.withId "any" (.leaf _), fun given => rfl⟩
  case fixed => exact fun outcome => .of_ok ⟨.leaf _, fun given => rfl⟩
  case condition =>
    intro tested
    refine (condition_yields tested).wrap fun condition _ => ⟨.leaf _, fun given => ?_⟩
    cases tested <;> rfl
  case ruleAnd =>
    intro definitions ih
    refine (rules_yield ih).wrap ?_
    rintro children ⟨reached, size, faults⟩
    refine ⟨.allOf reached, fun given => ?_⟩
    change (Rule.and { id := given.getD "and" } children).initialise.error? = _
    rw [Rule.initialise, initialiseRules_eq]
    exact composition_error? rfl Rule.and size faults
  case ruleOr =>
    intro definitions ih
    refine (rules_yield ih).wrap ?_
    rintro children ⟨reached, size, faults⟩
    refine ⟨.anyOf reached, fun given => ?_⟩
    change (Rule.or { id := given.getD "or" } children).initialise.error? = _
    rw [Rule.initialise, initialiseRules_eq]
    exact composition_error? rfl Rule.or size faults
  case ruleNot =>
    intro definition ih
    refine ih.wrap fun child describes => ⟨.negation describes.reached, fun given => ?_⟩
    exact (error?_parts rfl child.initialise Rule.not).trans describes.error?
  case ruleScript =>
    intro expression custom
    exact (script_yields expression custom).wrap fun script checked =>
      ⟨.leaf _, fun given => checked (given.getD "script") (Rule.atom · (.ofScript script))⟩
  case attributeMatches =>
    intro attributeId definition ih
    refine ih.wrap fun matcher describes => ⟨.ofMatcher attributeId describes.reached, fun given => ?_⟩
    exact (error?_parts rfl matcher.initialise (Rule.attributeMatches · attributeId)).trans describes.faults
  case valueCondition =>
    intro tested
    refine (valueCondition_yields tested).wrap fun condition _ => ⟨.leaf _, ?_⟩
    cases tested <;> rfl
  case fromRule =>
    intro definition ih
    refine ih.wrap fun rule describes => ⟨.ofRule describes.reached, ?_⟩
    exact (error?_parts rfl rule.initialise Matcher.fromRule).trans describes.error?
  case matcherScript =>
    intro expression custom
    exact (script_yields expression custom).wrap fun script checked =>
      ⟨.leaf _, checked "script" (Matcher.atom · (.ofScript script))⟩
  case matcherAnd =>
    intro definitions ih
    refine (matchers_yield ih).wrap ?_
    rintro children ⟨reached, size, faults⟩
    refine ⟨.allOf reached, ?_⟩
    change (Matcher.and { id := "and" } children).initialise.error? = _
    rw [Matcher.initialise, initialiseMatchers_eq]
    exact composition_error? rfl Matcher.and size faults
  case matcherOr =>
    intro definitions ih
    refine (matchers_yield ih).wrap ?_
    rintro children ⟨reached, size, faults⟩
    refine ⟨.anyOf reached, ?_⟩
    change (Matcher.or { id := "or" } children).initialise.error? = _
    rw [Matcher.initialise, initialiseMatchers_eq]
    exact composition_error? rfl Matcher.or size faults
  case matcherNot =>
    intro definition ih
    refine ih.wrap fun child describes => ⟨.negation describes.reached, ?_⟩
    exact (error?_parts rfl child.initialise Matcher.not).trans describes.faults

end AttributeRelease
