import AttributeRelease.Proofs.Admission

/-! No operation leads to an initialised composition without children. -/

namespace AttributeRelease

variable [PatternLanguage]

mutual
/-- No composition in a rule is initialised and empty. -/
def Rule.Filled : Rule → Prop
  | .atom _ _ => True
  | .and component children => (component.isInitialised = true → children ≠ []) ∧ FilledRules children
  | .or component children => (component.isInitialised = true → children ≠ []) ∧ FilledRules children
  | .not _ child => child.Filled
  | .attributeMatches _ _ matcher => matcher.Filled

def FilledRules : List Rule → Prop
  | [] => True
  | rule :: rest => rule.Filled ∧ FilledRules rest

def Matcher.Filled : Matcher → Prop
  | .atom _ _ => True
  | .fromRule _ rule => rule.Filled
  | .and component children => (component.isInitialised = true → children ≠ []) ∧ FilledMatchers children
  | .or component children => (component.isInitialised = true → children ≠ []) ∧ FilledMatchers children
  | .not _ child => child.Filled

def FilledMatchers : List Matcher → Prop
  | [] => True
  | matcher :: rest => matcher.Filled ∧ FilledMatchers rest
end

theorem filledRules_iff {rules : List Rule} : FilledRules rules ↔ ∀ rule ∈ rules, rule.Filled := by
  induction rules with
  | nil => simp [FilledRules]
  | cons rule rest ih => rw [FilledRules, ih, List.forall_mem_cons]

theorem filledMatchers_iff {matchers : List Matcher} :
    FilledMatchers matchers ↔ ∀ matcher ∈ matchers, matcher.Filled := by
  induction matchers with
  | nil => simp [FilledMatchers]
  | cons matcher rest ih => rw [FilledMatchers, ih, List.forall_mem_cons]

/-- Of what initialisation asks for, this is the part that concerns compositions. -/
theorem filled_of_admitted :
    (∀ rule : Rule, rule.Admitted → rule.Filled) ∧ ∀ matcher : Matcher, matcher.Admitted → matcher.Filled := by
  refine tree_induction _ _ ?ruleAtom ?ruleAnd ?ruleOr ?ruleNot ?attributeMatches ?matcherAtom ?fromRule ?matcherAnd
    ?matcherOr ?matcherNot
  case ruleAtom | matcherAtom => exact fun _ _ _ => trivial
  case ruleAnd | ruleOr =>
    intro component children ih admitted
    obtain ⟨root, below⟩ := List.forall_mem_cons.mp admitted
    have parts := forall_mem_nodesOfRules.mp below
    exact ⟨root, filledRules_iff.mpr fun child member => ih child member (parts child member)⟩
  case matcherAnd | matcherOr =>
    intro component children ih admitted
    obtain ⟨root, below⟩ := List.forall_mem_cons.mp admitted
    have parts := forall_mem_nodesOfMatchers.mp below
    exact ⟨root, filledMatchers_iff.mpr fun child member => ih child member (parts child member)⟩
  case ruleNot | fromRule | matcherNot => exact fun _ _ ih admitted => ih (List.forall_mem_cons.mp admitted).2
  case attributeMatches => exact fun _ _ _ ih admitted => ih (List.forall_mem_cons.mp admitted).2

theorem Rule.Reached.filled {rule : Rule} (reached : rule.Reached) : rule.Filled :=
  filled_of_admitted.1 rule reached.admitted

end AttributeRelease
