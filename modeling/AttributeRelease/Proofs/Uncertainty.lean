import AttributeRelease.Proofs.Evaluation
import AttributeRelease.Proofs.Trees
import AttributeRelease.Regex.Language

/-! What a part no longer decides is decided by nothing above it. Two requests are compared of
which the second tells less: leaves keep their outcome or lose it, and so do whole trees. Negation
is no exception, and neither is the step from a rule into a matcher or back. -/

namespace AttributeRelease

/-- The second outcome is the first, or nothing is decided any more. -/
def Tristate.Fades (before after : Tristate) : Prop :=
  after = before ∨ after = .undecided

/-- What the second selects, the first selects as well. An undecided matcher and one that fails
select nothing. -/
def Selection.Fades (before after : Except FilterError Selection) : Prop :=
  ∀ selected, after = .ok (.values selected) → before = .ok (.values selected)

/-- A node that is not usable decides nothing on either request. -/
private theorem fades_if {usable : Prop} [Decidable usable] {first second : Tristate}
    (inner : Tristate.Fades first second) :
    Tristate.Fades (if usable then first else .undecided) (if usable then second else .undecided) := by
  split
  · exact inner
  · exact Or.inl rfl

private theorem negate_fades {first second : Tristate} (inner : Tristate.Fades first second) :
    Tristate.Fades first.negate second.negate := by
  rcases inner with rfl | rfl
  · exact Or.inl rfl
  · exact Or.inr rfl

private theorem guarded_fades {component : Component} {first second : Except FilterError Selection}
    (inner : Selection.Fades first second) : Selection.Fades (component.guarded first) (component.guarded second) := by
  intro selected made
  obtain ⟨usable, decided⟩ := guarded_eq_ok_iff.mp made
  exact guarded_eq_ok_iff.mpr ⟨usable, inner selected decided⟩

private theorem outcomeOf_fades {first second : Except FilterError Selection} (inner : Selection.Fades first second) :
    Tristate.Fades (Rule.outcomeOf first) (Rule.outcomeOf second) := by
  rcases second with error | (selected | _)
  · exact Or.inr rfl
  · exact Or.inl (congrArg Rule.outcomeOf (inner selected rfl).symm)
  · exact Or.inr rfl

section

variable [PatternLanguage]

mutual
/-- Every leaf of a rule keeps its outcome from one request to another, or loses it. The leaves of
a matcher are those that are asked about the attribute that the matcher is for. -/
def Rule.LeavesFade (before after : Request) : Rule → Prop
  | .atom component leaf =>
    Tristate.Fades ((Rule.atom component leaf).evaluate before) ((Rule.atom component leaf).evaluate after)
  | .and _ children => RulesFade before after children
  | .or _ children => RulesFade before after children
  | .not _ child => child.LeavesFade before after
  | .attributeMatches _ attributeId matcher =>
    ∀ attr, before.attribute? attributeId = some attr → matcher.LeavesFade before after attr

def RulesFade (before after : Request) : List Rule → Prop
  | [] => True
  | rule :: rest => rule.LeavesFade before after ∧ RulesFade before after rest

def Matcher.LeavesFade (before after : Request) (attr : Attribute) : Matcher → Prop
  | .atom component leaf =>
    Selection.Fades ((Matcher.atom component leaf).select before attr) ((Matcher.atom component leaf).select after attr)
  | .fromRule _ rule => rule.LeavesFade before after
  | .and _ children => MatchersFade before after attr children
  | .or _ children => MatchersFade before after attr children
  | .not _ child => child.LeavesFade before after attr

def MatchersFade (before after : Request) (attr : Attribute) : List Matcher → Prop
  | [] => True
  | matcher :: rest => matcher.LeavesFade before after attr ∧ MatchersFade before after attr rest
end

variable {before after : Request}

theorem rulesFade_iff {rules : List Rule} :
    RulesFade before after rules ↔ ∀ rule ∈ rules, rule.LeavesFade before after := by
  induction rules with
  | nil => simp [RulesFade]
  | cons rule rest ih => rw [RulesFade, ih, List.forall_mem_cons]

theorem matchersFade_iff {attr : Attribute} {matchers : List Matcher} :
    MatchersFade before after attr matchers ↔ ∀ matcher ∈ matchers, matcher.LeavesFade before after attr := by
  induction matchers with
  | nil => simp [MatchersFade]
  | cons matcher rest ih => rw [MatchersFade, ih, List.forall_mem_cons]

private theorem chain_fades {goOn : Tristate} (decided : goOn ≠ .undecided) {rules : List Rule}
    (children : ∀ rule ∈ rules, Tristate.Fades (rule.evaluate before) (rule.evaluate after)) :
    Tristate.Fades (Tristate.chain goOn (rules.map (Rule.evaluate · before)))
      (Tristate.chain goOn (rules.map (Rule.evaluate · after))) := by
  induction rules with
  | nil => exact Or.inl rfl
  | cons rule rest ih =>
    obtain ⟨here, later⟩ := List.forall_mem_cons.mp children
    simp only [List.map_cons, Tristate.chain_cons]
    rcases here with same | lost
    · rw [same]
      split
      · exact ih later
      · exact Or.inl rfl
    · rw [lost, if_neg decided.symm]
      exact Or.inr rfl

private theorem combine_fades {values : ValueSet} {accepts : List Bool → Bool} {attr : Attribute}
    {matchers : List Matcher}
    (children : ∀ matcher ∈ matchers, Selection.Fades (matcher.select before attr) (matcher.select after attr)) :
    Selection.Fades ((gather (matchers.map (Matcher.select · before attr))).map (Selection.combine values accepts))
      ((gather (matchers.map (Matcher.select · after attr))).map (Selection.combine values accepts)) := by
  intro selected made
  obtain ⟨sets, gathered, same⟩ := combine_eq_values_iff.mp made
  refine combine_eq_values_iff.mpr ⟨sets, gather_eq_some_iff.mpr ?_, same⟩
  replace gathered := gather_eq_some_iff.mp gathered
  clear made same
  induction matchers generalizing sets with
  | nil => exact gathered
  | cons matcher rest ih =>
    obtain ⟨here, later⟩ := List.forall_mem_cons.mp children
    cases sets with
    | nil => cases gathered
    | cons first others =>
      obtain ⟨head, tail⟩ := List.cons.inj gathered
      rw [List.map_cons, List.map_cons, here first head, ih later others tail]

theorem leaves_fade (same : after.attributes = before.attributes) :
    (∀ rule : Rule, rule.LeavesFade before after → Tristate.Fades (rule.evaluate before) (rule.evaluate after)) ∧
    ∀ matcher : Matcher, ∀ attr, matcher.LeavesFade before after attr →
      Selection.Fades (matcher.select before attr) (matcher.select after attr) := by
  have sameAttribute (id : String) : after.attribute? id = before.attribute? id := by
    rw [Request.attribute?, Request.attribute?, same]
  refine tree_induction _ _ ?ruleAtom ?ruleAnd ?ruleOr ?ruleNot ?attributeMatches ?matcherAtom ?fromRule ?matcherAnd
    ?matcherOr ?matcherNot
  case ruleAtom => exact fun component leaf leaves => leaves
  case ruleAnd =>
    intro component children ih leaves
    rw [Rule.evaluate_and, Rule.evaluate_and]
    exact fades_if (chain_fades (by decide) fun child member => ih child member (rulesFade_iff.mp leaves child member))
  case ruleOr =>
    intro component children ih leaves
    rw [Rule.evaluate_or, Rule.evaluate_or]
    exact fades_if (chain_fades (by decide) fun child member => ih child member (rulesFade_iff.mp leaves child member))
  case ruleNot =>
    intro component child ih leaves
    rw [Rule.evaluate_not, Rule.evaluate_not]
    exact fades_if (negate_fades (ih leaves))
  case attributeMatches =>
    intro component attributeId matcher ih leaves
    rw [Rule.evaluate_attributeMatches, Rule.evaluate_attributeMatches, sameAttribute]
    apply fades_if
    cases found : before.attribute? attributeId with
    | none => exact Or.inl rfl
    | some attr => exact outcomeOf_fades (ih attr (leaves attr found))
  case matcherAtom => exact fun component leaf attr leaves => leaves
  case fromRule =>
    intro component rule ih attr leaves
    rw [Matcher.select_fromRule, Matcher.select_fromRule]
    apply guarded_fades
    rcases ih leaves with kept | lost
    · rw [kept]
      exact fun _ made => made
    · rw [lost]
      intro selected made
      cases made
  case matcherAnd =>
    intro component children ih attr leaves
    rw [Matcher.select_and, Matcher.select_and]
    exact guarded_fades (combine_fades fun child member => ih child member attr (matchersFade_iff.mp leaves child member))
  case matcherOr =>
    intro component children ih attr leaves
    rw [Matcher.select_or, Matcher.select_or]
    exact guarded_fades (combine_fades fun child member => ih child member attr (matchersFade_iff.mp leaves child member))
  case matcherNot =>
    intro component child ih attr leaves
    rw [Matcher.select_not, Matcher.select_not]
    have inner : ∀ matcher ∈ [child], Selection.Fades (matcher.select before attr) (matcher.select after attr) := by
      simpa using ih attr leaves
    exact guarded_fades (combine_fades inner)

/-- A rule of which leaves are lost, each of them on its own, keeps its outcome or loses it. No outcome turns into
its opposite, and what was undecided stays so. -/
theorem lost_leaves_never_invert (rule : Rule) (before after : Request) (same : after.attributes = before.attributes)
    (leaves : rule.LeavesFade before after) :
    (rule.evaluate after = rule.evaluate before ∨ rule.evaluate after = .undecided) ∧
      (rule.evaluate before = .yes → rule.evaluate after ≠ .no) ∧
      (rule.evaluate before = .no → rule.evaluate after ≠ .yes) ∧
      (rule.evaluate before = .undecided → rule.evaluate after = .undecided) := by
  rcases (leaves_fade same).1 rule leaves with kept | lost
  · refine ⟨.inl kept, ?_, ?_, ?_⟩
    · exact fun held inverted => nomatch held.symm.trans (kept.symm.trans inverted)
    · exact fun refused inverted => nomatch refused.symm.trans (kept.symm.trans inverted)
    · exact kept.trans
  · refine ⟨.inr lost, ?_, ?_, fun _ => lost⟩
    · exact fun _ inverted => nomatch lost.symm.trans inverted
    · exact fun _ inverted => nomatch lost.symm.trans inverted

end

attribute [local instance] Regex.language

/-- Holds unless the shop asks for somebody who has an address at home. -/
def homeRule : Rule :=
  let node (id : String) : Component := ⟨id, .initialised⟩
  .or (node "or") [
    .not (node "not") (.attributeMatches (node "attribute-matches") "mail" (.and (node "and") [
      .fromRule (node "from-rule") (.atom (node "requester") (.ofCondition (.requester { value := "shop" }))),
      .atom (node "exact") (.ofCondition (.exact (.string "home")))])),
    .atom (node "any") (.fixed .yes)]

/-- The second part of the rule decides for the shop. For a requester that is not known it is not reached. -/
theorem lost_leaves_never_invert_home :
    let mail : Attribute := { id := "mail", values := .ofList [.string "work", .string "home"] }
    let shop : Request := .ofAttributes { requestTime := .epoch, requester := some "shop" } [mail]
    let unknown : Request := .ofAttributes { requestTime := .epoch } [mail]
    homeRule.validate = .ok () ∧ homeRule.LeavesFade shop unknown ∧ homeRule.evaluate shop = .yes ∧
      homeRule.evaluate unknown ≠ .no ∧ homeRule.evaluate unknown = .undecided := by
  intro mail shop unknown
  have held : homeRule.evaluate shop = .yes := rfl
  have leaves : homeRule.LeavesFade shop unknown := by
    refine ⟨fun attr found => ?_, .inl rfl, trivial⟩
    cases Option.some.inj (found : some mail = some attr)
    exact ⟨.inr rfl, fun _ selected => selected, trivial⟩
  obtain ⟨_, notRefused, _⟩ := lost_leaves_never_invert homeRule shop unknown rfl leaves
  exact ⟨rfl, leaves, held, notRefused held, rfl⟩

end AttributeRelease
