import AttributeRelease.Policy.AttributeRule
import AttributeRelease.Proofs.Trees

/-! Equality of rules and matchers is equality of what it looks at. Each component has a form without ids, phases
of life and whatever is known by name only, and two components are equal if their forms are. -/

namespace AttributeRelease

/-- Zero without a sign. -/
def Double.unsigned (number : Double) : Double := if number.isZero then ⟨0, by decide⟩ else number

theorem Double.same_iff {left right : Double} : left.same right = true ↔ left.unsigned = right.unsigned := by
  have bits : left.bits = right.bits ↔ left = right := by
    cases left
    cases right
    exact ⟨fun same => by cases same; rfl, congrArg Double.bits⟩
  have apart {zero filled : Double} (isZero : zero.isZero = true) (isFilled : ¬ filled.isZero = true) : zero ≠ filled :=
    fun same => isFilled (same ▸ isZero)
  have unsignedZero : (⟨0, by decide⟩ : Double).isZero = true := by decide
  rw [same, unsigned, unsigned, Bool.or_eq_true, Bool.and_eq_true, beq_iff_eq, bits]
  -- A zero and another number differ, and so does the zero without a sign from the other number.
  by_cases leftZero : left.isZero = true
  · by_cases rightZero : right.isZero = true
    · simp [leftZero, rightZero]
    · simp [leftZero, rightZero, apart leftZero rightZero, apart unsignedZero rightZero]
  · by_cases rightZero : right.isZero = true
    · simp [leftZero, rightZero, (apart rightZero leftZero).symm, (apart unsignedZero leftZero).symm]
    · simp [leftZero, rightZero]

namespace Json

mutual
/-- A value in which no zero has a sign. -/
def unsigned : Json → Json
  | .number value => .number value.unsigned
  | .array items => .array (unsignedItems items)
  | .object fields => .object (unsignedFields fields)
  | json => json

def unsignedItems : List Json → List Json
  | [] => []
  | item :: rest => item.unsigned :: unsignedItems rest

def unsignedFields : List (String × Json) → List (String × Json)
  | [] => []
  | (name, value) :: rest => (name, value.unsigned) :: unsignedFields rest
end

mutual
theorem same_iff (left right : Json) : left.same right = true ↔ left.unsigned = right.unsigned := by
  cases left with
  | number value => cases right <;> simp [same, unsigned, Double.same_iff]
  | array items =>
    cases right with
    | array others => rw [same, sameItems_iff, unsigned, unsigned, array.injEq]
    | _ => simp [same, unsigned]
  | object fields =>
    cases right with
    | object others => rw [same, sameFields_iff, unsigned, unsigned, object.injEq]
    | _ => simp [same, unsigned]
  | _ => cases right <;> simp [same, unsigned]

theorem sameItems_iff (lefts rights : List Json) :
    sameItems lefts rights = true ↔ unsignedItems lefts = unsignedItems rights := by
  cases lefts with
  | nil => cases rights <;> simp [sameItems, unsignedItems]
  | cons left lefts =>
    cases rights with
    | nil => simp [sameItems, unsignedItems]
    | cons right rights =>
      rw [sameItems, Bool.and_eq_true, same_iff left right, sameItems_iff lefts rights, unsignedItems, unsignedItems,
        List.cons.injEq]

theorem sameFields_iff (lefts rights : List (String × Json)) :
    sameFields lefts rights = true ↔ unsignedFields lefts = unsignedFields rights := by
  cases lefts with
  | nil =>
    cases rights with
    | nil => simp [sameFields]
    | cons field rights => simp [sameFields, unsignedFields]
  | cons field lefts =>
    obtain ⟨name, left⟩ := field
    cases rights with
    | nil => simp [sameFields, unsignedFields]
    | cons field rights =>
      obtain ⟨other, right⟩ := field
      rw [sameFields, Bool.and_eq_true, Bool.and_eq_true, beq_iff_eq, same_iff left right, sameFields_iff lefts rights,
        unsignedFields, unsignedFields, List.cons.injEq, Prod.mk.injEq]
end

end Json

def Evaluator.known (evaluator : Evaluator) : Evaluator :=
  { evaluator with check := fun _ => .error .disabled, evaluate := fun _ _ => .error .disabled }

theorem Evaluator.same_iff {left right : Evaluator} : left.same right = true ↔ left.known = right.known := by
  simp [same, known]

def Script.known (script : Script) : Script :=
  { script with evaluator := script.evaluator.known, custom := script.custom.map Json.unsigned }

theorem Script.same_iff {left right : Script} : left.same right = true ↔ left.known = right.known := by
  obtain ⟨expression, evaluator, custom⟩ := left
  obtain ⟨other, otherEvaluator, otherCustom⟩ := right
  rw [same, Bool.and_eq_true, Bool.and_eq_true, beq_iff_eq, Evaluator.same_iff]
  cases custom <;> cases otherCustom <;> simp [known, and_assoc, Json.same_iff]

private theorem isEqv_iff_map {α β : Type} {same : α → α → Bool} {form : α → β} {lefts : List α}
    (each : ∀ left ∈ lefts, ∀ right, same left right = true ↔ form left = form right) (rights : List α) :
    lefts.isEqv rights same = true ↔ lefts.map form = rights.map form := by
  induction lefts generalizing rights with
  | nil => cases rights <;> simp [List.isEqv]
  | cons left lefts ih =>
    obtain ⟨here, later⟩ := List.forall_mem_cons.mp each
    cases rights with
    | nil => simp [List.isEqv]
    | cons right rights => rw [List.isEqv, Bool.and_eq_true, here, ih later, List.map_cons, List.map_cons, List.cons.injEq]

theorem equivalence_of_iff {α β : Type} {same : α → α → Bool} {known : α → β}
    (form : ∀ left right, same left right = true ↔ known left = known right) :
    Equivalence fun left right => same left right = true where
  refl item := (form item item).mpr rfl
  symm equal := (form _ _).mpr ((form _ _).mp equal).symm
  trans first second := (form _ _).mpr (((form _ _).mp first).trans ((form _ _).mp second))

variable [PatternLanguage]

/-- What equality sees of a leaf. Predicates are known by their names. -/
def RuleLeaf.known : RuleLeaf → RuleLeaf
  | .ofPredicate predicate => .ofPredicate { predicate with test := fun _ => .ok false }
  | .ofScript script => .ofScript script.known
  | leaf => leaf

def MatcherLeaf.known : MatcherLeaf → MatcherLeaf
  | .ofPredicate predicate => .ofPredicate { predicate with test := fun _ _ _ => .ok false }
  | .ofScript script => .ofScript script.known
  | leaf => leaf

theorem RuleLeaf.same_iff {left right : RuleLeaf} : left.same right = true ↔ left.known = right.known := by
  cases left <;> cases right <;> simp [same, known, Script.same_iff]

theorem MatcherLeaf.same_iff {left right : MatcherLeaf} : left.same right = true ↔ left.known = right.known := by
  cases left <;> cases right <;> simp [same, known, Script.same_iff]

section
variable (component : Component → Component) (ofRule : RuleLeaf → RuleLeaf) (ofMatcher : MatcherLeaf → MatcherLeaf)

mutual
/-- The tree with other components and leaves. -/
def Rule.rebuild : Rule → Rule
  | .atom own leaf => .atom (component own) (ofRule leaf)
  | .and own children => .and (component own) (rebuildRules children)
  | .or own children => .or (component own) (rebuildRules children)
  | .not own child => .not (component own) child.rebuild
  | .attributeMatches own attributeId matcher => .attributeMatches (component own) attributeId matcher.rebuild

def rebuildRules : List Rule → List Rule
  | [] => []
  | rule :: rest => rule.rebuild :: rebuildRules rest

def Matcher.rebuild : Matcher → Matcher
  | .atom own leaf => .atom (component own) (ofMatcher leaf)
  | .fromRule own rule => .fromRule (component own) rule.rebuild
  | .and own children => .and (component own) (rebuildMatchers children)
  | .or own children => .or (component own) (rebuildMatchers children)
  | .not own child => .not (component own) child.rebuild

def rebuildMatchers : List Matcher → List Matcher
  | [] => []
  | matcher :: rest => matcher.rebuild :: rebuildMatchers rest
end

theorem rebuildRules_eq (rules : List Rule) :
    rebuildRules component ofRule ofMatcher rules = rules.map (Rule.rebuild component ofRule ofMatcher) := by
  induction rules with
  | nil => rfl
  | cons rule rest ih => rw [rebuildRules, ih, List.map_cons]

theorem rebuildMatchers_eq (matchers : List Matcher) :
    rebuildMatchers component ofRule ofMatcher matchers = matchers.map (Matcher.rebuild component ofRule ofMatcher) := by
  induction matchers with
  | nil => rfl
  | cons matcher rest ih => rw [rebuildMatchers, ih, List.map_cons]

end

def Component.plain (_ : Component) : Component := ⟨"", .initialised⟩

/-- What equality sees of a tree. -/
def Rule.known (rule : Rule) : Rule := rule.rebuild Component.plain RuleLeaf.known MatcherLeaf.known

def Matcher.known (matcher : Matcher) : Matcher := matcher.rebuild Component.plain RuleLeaf.known MatcherLeaf.known

theorem Rule.known_eq : Rule.known = Rule.rebuild Component.plain RuleLeaf.known MatcherLeaf.known := rfl

theorem Matcher.known_eq : Matcher.known = Matcher.rebuild Component.plain RuleLeaf.known MatcherLeaf.known := rfl

theorem sameRules_eq (lefts rights : List Rule) : sameRules lefts rights = lefts.isEqv rights Rule.same := by
  induction lefts generalizing rights with
  | nil => cases rights <;> simp [sameRules]
  | cons left lefts ih =>
    cases rights with
    | nil => simp [sameRules]
    | cons right rights => rw [sameRules, ih, List.isEqv]

theorem sameMatchers_eq (lefts rights : List Matcher) : sameMatchers lefts rights = lefts.isEqv rights Matcher.same := by
  induction lefts generalizing rights with
  | nil => cases rights <;> simp [sameMatchers]
  | cons left lefts ih =>
    cases rights with
    | nil => simp [sameMatchers]
    | cons right rights => rw [sameMatchers, ih, List.isEqv]

/-- Trees are equal if and only if equality sees the same of both. -/
theorem same_iff_known :
    (∀ left right : Rule, left.same right = true ↔ left.known = right.known) ∧
      ∀ left right : Matcher, left.same right = true ↔ left.known = right.known := by
  refine tree_induction _ _ ?ruleAtom ?ruleAnd ?ruleOr ?ruleNot ?attributeMatches ?matcherAtom ?fromRule ?matcherAnd
    ?matcherOr ?matcherNot
  case ruleAtom =>
    intro _ leaf right
    cases right <;> simp [Rule.same, Rule.known, Rule.rebuild, RuleLeaf.same_iff, Component.plain]
  case ruleAnd | ruleOr =>
    intro _ children ih right
    have inside := isEqv_iff_map ih
    cases right <;> simp [Rule.same, sameRules_eq, Rule.known_eq, Rule.rebuild, rebuildRules_eq, Component.plain, inside]
  case ruleNot =>
    intro _ child ih right
    cases right <;> simp [Rule.same, Rule.known_eq, Rule.rebuild, Component.plain, ih]
  case attributeMatches =>
    intro _ attributeId matcher ih right
    cases right <;> simp [Rule.same, Rule.known_eq, Rule.rebuild, Component.plain, ih, Matcher.known_eq]
  case matcherAtom =>
    intro _ leaf right
    cases right <;> simp [Matcher.same, Matcher.known, Matcher.rebuild, MatcherLeaf.same_iff, Component.plain]
  case fromRule =>
    intro _ rule ih right
    cases right <;> simp [Matcher.same, Matcher.known_eq, Matcher.rebuild, Component.plain, ih, Rule.known_eq]
  case matcherAnd | matcherOr =>
    intro _ children ih right
    have inside := isEqv_iff_map ih
    cases right <;> simp [Matcher.same, sameMatchers_eq, Matcher.known_eq, Matcher.rebuild, rebuildMatchers_eq,
      Component.plain, inside]
  case matcherNot =>
    intro _ child ih right
    cases right <;> simp [Matcher.same, Matcher.known_eq, Matcher.rebuild, Component.plain, ih]

def AttributeRule.known (rule : AttributeRule) : AttributeRule :=
  { attributeId := rule.attributeId, effect := rule.effect, matcher := rule.matcher.known }

theorem AttributeRule.same_iff (left right : AttributeRule) : left.same right = true ↔ left.known = right.known := by
  rw [same, Bool.and_eq_true, Bool.and_eq_true, beq_iff_eq, beq_iff_eq, same_iff_known.2]
  simp [known, and_assoc]

end AttributeRelease
