import AttributeRelease.Expression.Language
import AttributeRelease.Proofs.Dependencies
import AttributeRelease.Proofs.Grants
import AttributeRelease.Regex.Language

/-! The fate of a value does not depend on the other values that are around. Without predicates, a
request with fewer values is released what was released before, as far as it still has it. Only
attributes that some rule asks about have to be kept. -/

namespace AttributeRelease

/-- The part of a selection that is among some values. -/
def Selection.within (values : ValueSet) : Selection → Selection
  | .values selected => .values (values.filter selected.contains)
  | .undecided => .undecided

private theorem combine_within {attr : Attribute} {values : ValueSet} {accepts : List Bool → Bool}
    (part : values.toList.Sublist attr.values.toList)
    (gathered : Option (List ValueSet)) :
    Selection.combine values accepts (gathered.map fun sets => sets.map fun selected => values.filter selected.contains) =
      (Selection.combine attr.values accepts gathered).within values := by
  cases gathered with
  | none => rfl
  | some sets =>
    refine congrArg Selection.values (ValueSet.filter_congr fun value member => ?_)
    have same : (sets.map fun selected => values.filter selected.contains).map (·.contains value) =
        sets.map (·.contains value) := by
      rw [List.map_map]
      refine List.map_congr_left fun selected _ => ?_
      exact ValueSet.contains_filter member
    rw [ValueSet.contains_filter (part.subset member), same]

section

variable [PatternLanguage]

section
variable {request : Request} {attr : Attribute} {values : ValueSet}

private theorem gather_within {matchers : List Matcher}
    (children : ∀ matcher ∈ matchers, ∀ selection, matcher.select request attr = .ok selection →
      matcher.select request { attr with values } = .ok (selection.within values))
    {gathered : Option (List ValueSet)} (done : gather (matchers.map (Matcher.select · request attr)) = .ok gathered) :
    gather (matchers.map (Matcher.select · request { attr with values })) =
      .ok (gathered.map fun sets => sets.map fun selected => values.filter selected.contains) := by
  induction matchers generalizing gathered with
  | nil =>
    cases done
    rfl
  | cons matcher rest ih =>
    obtain ⟨here, later⟩ := List.forall_mem_cons.mp children
    rw [List.map_cons] at done ⊢
    cases selected : matcher.select request attr with
    | error error =>
      rw [selected] at done
      cases done
    | ok selection =>
      rw [here selection selected]
      rw [selected] at done
      cases selection with
      | undecided =>
        cases done
        rfl
      | values first =>
        rw [gather] at done
        cases others : gather (rest.map (Matcher.select · request attr)) with
        | error error =>
          rw [others] at done
          cases done
        | ok sets =>
          rw [others] at done
          cases done
          rw [Selection.within, gather, ih later others]
          cases sets <;> rfl

private theorem combined_within {accepts : List Bool → Bool} (part : values.toList.Sublist attr.values.toList)
    {matchers : List Matcher}
    (children : ∀ matcher ∈ matchers, ∀ selection, matcher.select request attr = .ok selection →
      matcher.select request { attr with values } = .ok (selection.within values)) {selection : Selection}
    (done : (gather (matchers.map (Matcher.select · request attr))).map (Selection.combine attr.values accepts) =
      .ok selection) :
    (gather (matchers.map (Matcher.select · request { attr with values }))).map (Selection.combine values accepts) =
      .ok (selection.within values) := by
  cases gathered : gather (matchers.map (Matcher.select · request attr)) with
  | error error =>
    rw [gathered] at done
    cases done
  | ok sets =>
    rw [gathered] at done
    cases done
    rw [gather_within children gathered]
    exact congrArg Except.ok (combine_within part sets)

theorem select_within (part : values.toList.Sublist attr.values.toList) :
    ∀ matcher : Matcher, matcher.Each RuleLeaf.IsOurs MatcherLeaf.IsOurs →
      ∀ selection, matcher.select request attr = .ok selection →
        matcher.select request { attr with values } = .ok (selection.within values) := by
  refine matcher_induction _ ?atom ?fromRule ?and ?or ?not
  case atom =>
    intro component leaf ours selection selected
    rw [Matcher.select_atom, guarded_eq_ok_iff] at selected ⊢
    refine ⟨selected.1, ?_⟩
    have answer : leaf.answer request { attr with values } = leaf.answer request attr := leaf.answer_agree ours rfl rfl
    rw [answer]
    cases sifted : sift (.predicate component.id attr.id) (leaf.answer request attr) attr.values.toList with
    | error error =>
      rw [sifted] at selected
      cases selected.2
    | ok others =>
      rw [sifted] at selected
      cases selected.2
      obtain ⟨answers, rfl⟩ := sift_eq_ok_iff.mp sifted
      rw [sift_eq_ok_iff.mpr ⟨fun value member => answers value (part.subset member), rfl⟩]
      refine congrArg (fun kept => Except.ok (Selection.values kept)) ?_
      rw [ValueSet.ofList_filter, ValueSet.ofList_filter]
      refine ValueSet.filter_congr fun value member => ?_
      rw [ValueSet.contains_filter (part.subset member)]
  case fromRule =>
    intro component rule ours selection selected
    rw [Matcher.select_fromRule, guarded_eq_ok_iff] at selected ⊢
    refine ⟨selected.1, ?_⟩
    cases selected.2
    refine congrArg Except.ok ?_
    cases rule.evaluate request with
    | yes =>
      refine congrArg Selection.values (ValueSet.filter_eq_self fun value member => ?_).symm
      exact ValueSet.contains_iff.mpr (part.subset member)
    | no =>
      have none : values.toList.filter (∅ : ValueSet).contains = [] := by simp [ValueSet.contains]
      exact congrArg Selection.values (ValueSet.ext none.symm)
    | undecided => rfl
  case and | or =>
    intro component children ih ours selection selected
    have narrowed := fun child member => ih child member (eachMatcher_iff.mp ours child member)
    simp only [Matcher.select_and, Matcher.select_or, guarded_eq_ok_iff] at selected ⊢
    exact ⟨selected.1, combined_within part narrowed selected.2⟩
  case not =>
    intro component child ih ours selection selected
    have narrowed : ∀ matcher ∈ [child], ∀ selection, matcher.select request attr = .ok selection →
        matcher.select request { attr with values } = .ok (selection.within values) := by
      simpa using ih ours
    rw [Matcher.select_not, guarded_eq_ok_iff] at selected ⊢
    exact ⟨selected.1, combined_within part narrowed selected.2⟩

end

/-- What a request still has of an attribute, unless that is nothing. -/
def Request.left? (request : Request) (attr : Attribute) : Option Attribute :=
  (request.attribute? attr.id).bind fun left => attr.only? left.values.contains

namespace Engine

section
variable {engine : Engine} {before after : Request}

private theorem activation_agree (ours : engine.WithoutPredicates) (agree : Request.Agree engine.matchedIds before after)
    {policy : Policy} (member : policy ∈ engine.policies) :
    policy.activation.evaluate after = policy.activation.evaluate before := by
  refine evaluate_and_select_agree.1 _ (ours policy member).1 (agree.mono fun id asked => ?_)
  exact mem_matchedIds.mpr ⟨policy, member, Or.inl asked⟩

private theorem select_left (ours : engine.WithoutPredicates) (agree : Request.Agree engine.matchedIds before after)
    {policy : Policy} (member : policy ∈ engine.policies) {rule : AttributeRule} (inside : rule ∈ policy.rules)
    {attr : Attribute} {values : ValueSet} (part : values.toList.Sublist attr.values.toList) {selection : Selection}
    (selected : rule.matcher.select before attr = .ok selection) :
    rule.matcher.select after { attr with values } = .ok (selection.within values) := by
  have matcherOurs := (ours policy member).2 rule inside
  rw [evaluate_and_select_agree.2 _ matcherOurs (agree.mono fun id asked => ?_)]
  · exact select_within part _ matcherOurs selection selected
  · exact mem_matchedIds.mpr ⟨policy, member, Or.inr ⟨rule, inside, asked⟩⟩

private theorem not_fails_of_reduced (ours : engine.WithoutPredicates)
    (agree : Request.Agree engine.matchedIds before after) {fixed : List String}
    (reduced : Reduced fixed before.attributes after.attributes) (runs : ¬ engine.Fails before) :
    ¬ engine.Fails after := by
  rintro ⟨policy, member, active, rule, inside, left, found, error, failed⟩
  obtain ⟨leftMember, sameId⟩ := Request.mem_of_attribute? found
  obtain ⟨attr, attrMember, values, part, rfl⟩ := reduced.source leftMember
  have foundBefore : before.attribute? rule.attributeId = some attr :=
    Request.attribute?_eq_some_iff.mpr ⟨attrMember, sameId⟩
  have activeBefore := (activation_agree ours agree member).symm.trans active
  cases selected : rule.matcher.select before attr with
  | error error =>
    exact runs ⟨policy, member, activeBefore, rule, inside, attr, foundBefore, error, selected⟩
  | ok selection =>
    have kept := select_left ours agree member inside part selected
    exact nomatch kept.symm.trans failed

private theorem marks_of_reduced (ours : engine.WithoutPredicates)
    (agree : Request.Agree engine.matchedIds before after) (runs : ¬ engine.Fails before) {attr : Attribute}
    (attrMember : attr ∈ before.attributes) {values : ValueSet} (part : values.toList.Sublist attr.values.toList)
    {value : Value} (present : value ∈ values) (effect : Effect) :
    engine.Marks after effect { attr with values } value ↔ engine.Marks before effect attr value := by
  unfold Marks
  refine exists_congr fun policy => and_congr_right fun member => ?_
  rw [activation_agree ours agree member]
  refine and_congr_right fun active => exists_congr fun rule => and_congr_right fun inside => ?_
  refine and_congr_right fun _ => and_congr_right fun sameId => ?_
  have found : before.attribute? rule.attributeId = some attr :=
    Request.attribute?_eq_some_iff.mpr ⟨attrMember, sameId.symm⟩
  rw [AttributeRule.Selects, AttributeRule.Selects]
  cases selected : rule.matcher.select before attr with
  | error error => exact absurd ⟨policy, member, active, rule, inside, attr, found, error, selected⟩ runs
  | ok selection =>
    rw [select_left ours agree member inside part selected]
    cases selection with
    | values chosen => simp [Selection.within, present]
    | undecided => simp [Selection.within, present, ValueSet.mem_def.mpr (part.subset present)]

private theorem granted_of_reduced (ours : engine.WithoutPredicates)
    (agree : Request.Agree engine.matchedIds before after) {fixed : List String}
    (reduced : Reduced fixed before.attributes after.attributes) (runs : ¬ engine.Fails before) :
    engine.granted after = (engine.granted before).filterMap after.left? := by
  rw [granted, granted, List.filterMap_filterMap]
  conv_lhs => rw [← reduced.attributes_eq, List.filterMap_filterMap]
  refine List.filterMap_congr fun attr member => ?_
  have restricted : (attr.only? fun value => decide (engine.Grants before attr value)).bind after.left? =
      (after.attribute? attr.id).bind fun left =>
        attr.only? fun value => decide (engine.Grants before attr value) && left.values.contains value := by
    cases found : after.attribute? attr.id with
    | none =>
      refine Option.bind_eq_none_iff.mpr fun kept made => ?_
      obtain ⟨rfl, _⟩ := Attribute.only?_eq_some_iff.mp made
      rw [Request.left?, found, Option.bind_none]
    | some left =>
      rw [Option.bind_some, ← Attribute.only?_only?]
      refine Option.bind_congr fun kept made => ?_
      obtain ⟨rfl, _⟩ := Attribute.only?_eq_some_iff.mp made
      rw [Request.left?, found, Option.bind_some]
  rw [restricted]
  refine Option.bind_congr fun left found => ?_
  obtain ⟨leftMember, sameId⟩ := Request.mem_of_attribute? found
  obtain ⟨origin, originMember, values, part, rfl⟩ := reduced.source leftMember
  have same : origin = attr := by
    have foundOrigin := Request.attribute?_of_mem originMember
    rw [show origin.id = attr.id from sameId, Request.attribute?_of_mem member] at foundOrigin
    exact (Option.some.inj foundOrigin).symm
  subst same
  rw [Attribute.only?_of_sublist part]
  refine Attribute.only?_congr fun value inside => ?_
  by_cases present : value ∈ values
  · have granted : engine.Grants after { origin with values } value ↔ engine.Grants before origin value := by
      rw [Grants, Grants, marks_of_reduced ours agree runs originMember part present,
        marks_of_reduced ours agree runs originMember part present]
    simp [granted, ValueSet.contains, present]
  · simp [ValueSet.contains, present]

private theorem left?_of_granted (attributes : after.attributes = engine.granted before) {attr : Attribute}
    (member : attr ∈ engine.granted before) : after.left? attr = some attr := by
  have found : after.attribute? attr.id = some attr := Request.attribute?_of_mem (attributes ▸ member)
  obtain ⟨origin, _, kept⟩ := List.mem_filterMap.mp member
  obtain ⟨rfl, value, inside, isGranted⟩ := Attribute.only?_eq_some_iff.mp kept
  have present : value ∈ origin.values.filter fun value => decide (engine.Grants before origin value) :=
    ValueSet.mem_filter.mpr ⟨inside, isGranted⟩
  rw [Request.left?, found, Option.bind_some]
  refine Attribute.only?_eq_some_iff.mpr ⟨?_, value, present, ValueSet.contains_iff.mpr present⟩
  rw [ValueSet.filter_eq_self fun value present => ValueSet.contains_iff.mpr present]

end

/-- Without predicates, an engine that filters a request also filters one that has lost values or
attributes, except for those that some rule asks about. It releases what it released before, as far
as it is left. If no rule asks about an attribute, then what was released is released again. -/
theorem filter_of_reduced (engine : Engine) (valid : engine.validate = .ok ()) (ours : engine.WithoutPredicates)
    (before : FilterContext) (released : List Attribute) (filtered : (engine.filter before).1 = .ok released) :
    (∀ after : FilterContext, after.request.facts = before.request.facts →
        Reduced engine.matchedIds before.request.attributes after.request.attributes →
        (engine.filter after).1 = .ok (released.filterMap after.request.left?)) ∧
      (engine.matchedIds = [] → ∀ again : FilterContext,
        again.request = .ofAttributes before.request.facts released → (engine.filter again).1 = .ok released) := by
  have usable := (validate_isOk_iff.mp valid).1
  obtain ⟨runs, rfl⟩ : ¬ engine.Fails before.request ∧ engine.granted before.request = released := by
    rcases filter_cases usable before with ⟨_, error, failed⟩ | ⟨runs, done⟩
    · exact nomatch failed.symm.trans filtered
    · exact ⟨runs, Except.ok.inj (done.symm.trans filtered)⟩
  have narrowed (after : FilterContext) (facts : after.request.facts = before.request.facts)
      (reduced : Reduced engine.matchedIds before.request.attributes after.request.attributes) :
      (engine.filter after).1 = .ok ((engine.granted before.request).filterMap after.request.left?) := by
    have agree : Request.Agree engine.matchedIds before.request after.request :=
      ⟨facts, fun id member => reduced.find?_fixed member⟩
    rcases filter_cases usable after with ⟨fails, _⟩ | ⟨_, done⟩
    · exact absurd fails (not_fails_of_reduced ours agree reduced runs)
    · rw [done, granted_of_reduced ours agree reduced runs]
  refine ⟨narrowed, fun noneMatched again same => ?_⟩
  have reduced : Reduced engine.matchedIds before.request.attributes (engine.granted before.request) := by
    rw [noneMatched]
    exact Reduced.of_only? _ _
  have attributes : again.request.attributes = engine.granted before.request := by
    rw [same]
    exact mergeAttributes_of_distinct (before.request.distinct.sublist reduced.ids)
  have facts : again.request.facts = before.request.facts := by rw [same]; rfl
  rw [narrowed again facts (attributes ▸ reduced)]
  refine congrArg Except.ok ?_
  rw [List.filterMap_congr fun attr member => left?_of_granted attributes member, List.filterMap_some]

end Engine

end

attribute [local instance] Regex.language Script.Expr.language

namespace Engine

/-- Staff may be known by their addresses, except for the one at home. -/
def staffDirectory : Engine :=
  let ready (id : String) : Component := ⟨id, .initialised⟩
  let staff : Matcher := .atom (ready "exact") (.ofCondition (.exact (.string "staff")))
  let script := { expression := "value == \"home\"", evaluator := Interpreter.evaluator {} }
  { component := ready "release"
    policies := [
      { component := ready "directory"
        activation := .attributeMatches (ready "staff") "role" staff
        rules := [{ attributeId := "mail", matcher := .not (ready "not") (.atom (ready "at home") (.ofScript script)) }] }] }

private theorem eq_ok_of_toOption {ε α : Type} {result : Except ε α} {value : α} (done : result.toOption = some value) :
    result = .ok value := by
  cases result with
  | error error => cases done
  | ok other =>
    cases done
    rfl

/-- Of three addresses two are released, and one of them still is if another is all that is lost
with it. What `contested` releases it releases again. -/
theorem filter_of_reduced_staffDirectory :
    let role : Attribute := { id := "role", values := .ofList [.string "student", .string "staff"] }
    let mails (texts : List String) : Attribute := { id := "mail", values := .ofList (texts.map .string) }
    staffDirectory.validate = .ok () ∧ staffDirectory.matchedIds = ["role"] ∧
      (staffDirectory.filter { request := .ofAttributes default [mails ["work", "home", "office"], role] }).1 =
        .ok [mails ["work", "office"]] ∧
      (staffDirectory.filter { request := .ofAttributes default [mails ["home", "office"], role] }).1 =
        .ok [mails ["office"]] ∧
      contested.validate = .ok () ∧ contested.matchedIds = [] ∧
      (contested.filter { request := .ofAttributes default [mails ["work"]] }).1 = .ok [mails ["work"]] := by
  intro role mails
  have staffOurs : staffDirectory.WithoutPredicates := by
    simp [WithoutPredicates, Each, staffDirectory, Rule.Each, Matcher.Each, MatcherLeaf.IsOurs,
      Interpreter.seesOnlyIds]
  have contestedOurs : contested.WithoutPredicates := by
    simp [WithoutPredicates, Each, contested, Rule.Each, Matcher.Each, RuleLeaf.IsOurs, MatcherLeaf.IsOurs]
  have filtered : (staffDirectory.filter
      { request := .ofAttributes default [mails ["work", "home", "office"], role] }).1 =
        .ok [mails ["work", "office"]] := eq_ok_of_toOption (by decide +kernel)
  have part : (mails ["home", "office"]).values.toList.Sublist (mails ["work", "home", "office"]).values.toList := by
    decide
  have reduced : Reduced ["role"] [mails ["work", "home", "office"], role] [mails ["home", "office"], role] :=
    .cut (by decide) part (.keep .nil)
  obtain ⟨left, _⟩ := filter_of_reduced staffDirectory rfl staffOurs _ _ filtered
  have contestedFiltered : (contested.filter { request := unknownRequester }).1 = .ok [mails ["work"]] := rfl
  obtain ⟨_, again⟩ := filter_of_reduced contested rfl contestedOurs _ _ contestedFiltered
  exact ⟨rfl, rfl, filtered, left { request := .ofAttributes default [mails ["home", "office"], role] } rfl reduced,
    rfl, rfl, again rfl _ rfl⟩

end Engine

end AttributeRelease
