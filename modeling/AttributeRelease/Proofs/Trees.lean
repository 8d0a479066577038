import AttributeRelease.Engine.Basic

/-! Rules and matchers hold each other, so what is proved of one kind of tree is proved of both
at once. This module has the induction for that, and properties of all the leaves of a tree. -/

namespace AttributeRelease

variable [PatternLanguage]

/-- A property of rules and one of matchers hold everywhere if each node hands them on from its
parts. -/
theorem tree_induction (ofRule : Rule → Prop) (ofMatcher : Matcher → Prop)
    (ruleAtom : ∀ component leaf, ofRule (.atom component leaf))
    (ruleAnd : ∀ component children, (∀ child ∈ children, ofRule child) → ofRule (.and component children))
    (ruleOr : ∀ component children, (∀ child ∈ children, ofRule child) → ofRule (.or component children))
    (ruleNot : ∀ component child, ofRule child → ofRule (.not component child))
    (attributeMatches : ∀ component attributeId matcher, ofMatcher matcher →
      ofRule (.attributeMatches component attributeId matcher))
    (matcherAtom : ∀ component leaf, ofMatcher (.atom component leaf))
    (fromRule : ∀ component rule, ofRule rule → ofMatcher (.fromRule component rule))
    (matcherAnd : ∀ component children, (∀ child ∈ children, ofMatcher child) → ofMatcher (.and component children))
    (matcherOr : ∀ component children, (∀ child ∈ children, ofMatcher child) → ofMatcher (.or component children))
    (matcherNot : ∀ component child, ofMatcher child → ofMatcher (.not component child)) :
    (∀ rule, ofRule rule) ∧ ∀ matcher, ofMatcher matcher := by
  have noRule : ∀ child ∈ ([] : List Rule), ofRule child := fun _ member => nomatch member
  have noMatcher : ∀ child ∈ ([] : List Matcher), ofMatcher child := fun _ member => nomatch member
  have rules : ∀ first rest, ofRule first → (∀ child ∈ rest, ofRule child) → ∀ child ∈ first :: rest, ofRule child :=
    fun _ _ here later => List.forall_mem_cons.mpr ⟨here, later⟩
  have matchers : ∀ first rest, ofMatcher first → (∀ child ∈ rest, ofMatcher child) →
      ∀ child ∈ first :: rest, ofMatcher child :=
    fun _ _ here later => List.forall_mem_cons.mpr ⟨here, later⟩
  constructor
  · exact @Rule.rec _ ofRule ofMatcher (fun children => ∀ child ∈ children, ofRule child)
      (fun children => ∀ child ∈ children, ofMatcher child) ruleAtom ruleAnd ruleOr ruleNot attributeMatches
      matcherAtom fromRule matcherAnd matcherOr matcherNot noRule rules noMatcher matchers
  · exact @Matcher.rec _ ofRule ofMatcher (fun children => ∀ child ∈ children, ofRule child)
      (fun children => ∀ child ∈ children, ofMatcher child) ruleAtom ruleAnd ruleOr ruleNot attributeMatches
      matcherAtom fromRule matcherAnd matcherOr matcherNot noRule rules noMatcher matchers

theorem matcher_induction (ofMatcher : Matcher → Prop)
    (atom : ∀ component leaf, ofMatcher (.atom component leaf))
    (fromRule : ∀ component rule, ofMatcher (.fromRule component rule))
    (and : ∀ component children, (∀ child ∈ children, ofMatcher child) → ofMatcher (.and component children))
    (or : ∀ component children, (∀ child ∈ children, ofMatcher child) → ofMatcher (.or component children))
    (not : ∀ component child, ofMatcher child → ofMatcher (.not component child)) (matcher : Matcher) :
    ofMatcher matcher :=
  (tree_induction (fun _ => True) ofMatcher (fun _ _ => trivial) (fun _ _ _ => trivial) (fun _ _ _ => trivial)
    (fun _ _ _ => trivial) (fun _ _ _ _ => trivial) atom (fun component rule _ => fromRule component rule)
    and or not).2 matcher

theorem rule_induction (ofRule : Rule → Prop)
    (atom : ∀ component leaf, ofRule (.atom component leaf))
    (and : ∀ component children, (∀ child ∈ children, ofRule child) → ofRule (.and component children))
    (or : ∀ component children, (∀ child ∈ children, ofRule child) → ofRule (.or component children))
    (not : ∀ component child, ofRule child → ofRule (.not component child))
    (attributeMatches : ∀ component attributeId matcher, ofRule (.attributeMatches component attributeId matcher))
    (rule : Rule) : ofRule rule :=
  (tree_induction ofRule (fun _ => True) atom and or not
    (fun component attributeId matcher _ => attributeMatches component attributeId matcher) (fun _ _ => trivial)
    (fun _ _ _ => trivial) (fun _ _ _ => trivial) (fun _ _ _ => trivial) fun _ _ _ => trivial).1 rule

mutual
/-- Every leaf of a rule has a property, those of the matchers in it included. -/
def Rule.Each (ofRule : RuleLeaf → Prop) (ofMatcher : MatcherLeaf → Prop) : Rule → Prop
  | .atom _ leaf => ofRule leaf
  | .and _ children => EachRule ofRule ofMatcher children
  | .or _ children => EachRule ofRule ofMatcher children
  | .not _ child => child.Each ofRule ofMatcher
  | .attributeMatches _ _ matcher => matcher.Each ofRule ofMatcher

def EachRule (ofRule : RuleLeaf → Prop) (ofMatcher : MatcherLeaf → Prop) : List Rule → Prop
  | [] => True
  | rule :: rest => rule.Each ofRule ofMatcher ∧ EachRule ofRule ofMatcher rest

def Matcher.Each (ofRule : RuleLeaf → Prop) (ofMatcher : MatcherLeaf → Prop) : Matcher → Prop
  | .atom _ leaf => ofMatcher leaf
  | .fromRule _ rule => rule.Each ofRule ofMatcher
  | .and _ children => EachMatcher ofRule ofMatcher children
  | .or _ children => EachMatcher ofRule ofMatcher children
  | .not _ child => child.Each ofRule ofMatcher

def EachMatcher (ofRule : RuleLeaf → Prop) (ofMatcher : MatcherLeaf → Prop) : List Matcher → Prop
  | [] => True
  | matcher :: rest => matcher.Each ofRule ofMatcher ∧ EachMatcher ofRule ofMatcher rest
end

section
variable {ofRule : RuleLeaf → Prop} {ofMatcher : MatcherLeaf → Prop}

theorem eachRule_iff {rules : List Rule} :
    EachRule ofRule ofMatcher rules ↔ ∀ rule ∈ rules, rule.Each ofRule ofMatcher := by
  induction rules with
  | nil => simp [EachRule]
  | cons rule rest ih => rw [EachRule, ih, List.forall_mem_cons]

theorem eachMatcher_iff {matchers : List Matcher} :
    EachMatcher ofRule ofMatcher matchers ↔ ∀ matcher ∈ matchers, matcher.Each ofRule ofMatcher := by
  induction matchers with
  | nil => simp [EachMatcher]
  | cons matcher rest ih => rw [EachMatcher, ih, List.forall_mem_cons]

end

def Engine.Each (ofRule : RuleLeaf → Prop) (ofMatcher : MatcherLeaf → Prop) (engine : Engine) : Prop :=
  ∀ policy ∈ engine.policies, policy.activation.Each ofRule ofMatcher ∧
    ∀ rule ∈ policy.rules, rule.matcher.Each ofRule ofMatcher

end AttributeRelease
