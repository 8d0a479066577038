import AttributeRelease.Expression.Language
import AttributeRelease.Proofs.Attempts
import AttributeRelease.Proofs.FilterRun
import AttributeRelease.Proofs.Sameness
import AttributeRelease.Proofs.Validity
import AttributeRelease.Regex.Language
import AttributeRelease.Script.Interpreter

/-! Equal components that are valid behave alike, up to the id of a matcher in an error. -/

namespace AttributeRelease

def FilterError.anonymous : FilterError → FilterError
  | .predicate _ attributeId message => .predicate "" attributeId message
  | error => error

theorem sift_mapError (failure : String → FilterError) (change : FilterError → FilterError)
    (answer : Value → Except String Bool) (values : List Value) :
    (sift failure answer values).mapError change = sift (fun message => change (failure message)) answer values := by
  induction values with
  | nil => rfl
  | cons value rest ih =>
    rw [sift, sift]
    cases answer value with
    | error message => rfl
    | ok selected =>
      rw [← ih]
      cases sift failure answer rest <;> rfl

theorem gather_mapError (change : FilterError → FilterError) (results : List (Except FilterError Selection)) :
    gather (results.map (·.mapError change)) = (gather results).mapError change := by
  induction results with
  | nil => rfl
  | cons first rest ih =>
    rcases first with error | (selected | _)
    · rfl
    · change (gather (rest.map (·.mapError change))).map _ = _
      rw [ih, gather]
      cases gather rest <;> rfl
    · rfl

theorem map_mapError {ε δ α β : Type} (change : ε → δ) (next : α → β) (result : Except ε α) :
    (result.map next).mapError change = (result.mapError change).map next := by
  cases result <;> rfl

theorem guarded_plain {α : Type} (component : Component) (inner : Except FilterError α) :
    component.plain.guarded inner = inner := rfl

theorem outcomeOf_mapError (change : FilterError → FilterError) (result : Except FilterError Selection) :
    Rule.outcomeOf (result.mapError change) = Rule.outcomeOf result := by
  cases result <;> rfl

/-- What predicates of a name and evaluators of a number do. -/
structure Library where
  requestTest : String → Request → Except String Bool
  valueTest : String → Request → Attribute → Value → Except String Bool
  evaluator : Nat → Evaluator

/-- An item agrees in form with whatever is equal to it and has the same custom objects. What comes after these in a
list of custom objects is then the same, too. -/
def Matches {α β : Type} (same : α → α → Bool) (ours : α → Prop) (customs : α → List (Option Json)) (form : α → β)
    (left : α) : Prop :=
  ∀ right leftRest rightRest, same left right = true → ours left → ours right →
    customs left ++ leftRest = customs right ++ rightRest → form left = form right ∧ leftRest = rightRest

private theorem Matches.list {α β : Type} {same : α → α → Bool} {ours : α → Prop} {customs : α → List (Option Json)}
    {form : α → β} {lefts : List α} (each : ∀ left ∈ lefts, Matches same ours customs form left) :
    Matches (fun lefts rights => lefts.isEqv rights same) (fun items => ∀ item ∈ items, ours item)
      (List.flatMap customs) (List.map form) lefts := by
  induction lefts with
  | nil =>
    intro rights leftRest rightRest equal _ _ objects
    cases rights with
    | nil => exact ⟨rfl, objects⟩
    | cons right rights => cases equal
  | cons left lefts ih =>
    intro rights leftRest rightRest equal leftOurs rightOurs objects
    cases rights with
    | nil => cases equal
    | cons right rights =>
      change (left :: lefts).isEqv (right :: rights) same = true at equal
      rw [List.isEqv, Bool.and_eq_true] at equal
      rw [List.forall_mem_cons] at each leftOurs rightOurs
      rw [List.flatMap_cons, List.flatMap_cons, List.append_assoc, List.append_assoc] at objects
      obtain ⟨here, later⟩ := each.1 right _ _ equal.1 leftOurs.1 rightOurs.1 objects
      obtain ⟨there, rest⟩ := ih each.2 rights _ _ equal.2 leftOurs.2 rightOurs.2 later
      exact ⟨by rw [List.map_cons, List.map_cons, here, there], rest⟩

private theorem Script.eq_of_same {library : Library} {left right : Script} (same : left.same right = true)
    (leftOurs : left.evaluator = library.evaluator left.evaluator.number)
    (rightOurs : right.evaluator = library.evaluator right.evaluator.number) (customs : left.custom = right.custom) :
    left = right := by
  rw [Script.same, Bool.and_eq_true, Bool.and_eq_true, beq_iff_eq, Evaluator.same, beq_iff_eq] at same
  obtain ⟨⟨expressions, numbers⟩, _⟩ := same
  have evaluators : left.evaluator = right.evaluator := by rw [leftOurs, rightOurs, numbers]
  cases left
  cases right
  cases expressions
  cases evaluators
  cases customs
  rfl

section

variable [PatternLanguage]

/-- The same tree without names, ready for use. -/
def Rule.plain (rule : Rule) : Rule := rule.rebuild Component.plain (fun leaf => leaf) (fun leaf => leaf)

def Matcher.plain (matcher : Matcher) : Matcher := matcher.rebuild Component.plain (fun leaf => leaf) (fun leaf => leaf)

theorem Rule.plain_eq : Rule.plain = Rule.rebuild Component.plain (fun leaf => leaf) (fun leaf => leaf) := rfl

theorem Matcher.plain_eq : Matcher.plain = Matcher.rebuild Component.plain (fun leaf => leaf) (fun leaf => leaf) := rfl

theorem evaluate_and_select_plain (request : Request) :
    (∀ rule : Rule, rule.validate = .ok () → rule.plain.evaluate request = rule.evaluate request) ∧
    ∀ matcher : Matcher, matcher.validate = .ok () →
      ∀ attr, matcher.plain.select request attr = (matcher.select request attr).mapError FilterError.anonymous := by
  have ready {component : Component} (usable : component.ensureUsable = .ok ()) : component.isInitialised = true :=
    Component.isInitialised_iff.mpr usable
  have plain (component : Component) : component.plain.isInitialised = true := rfl
  refine tree_induction _ _ ?ruleAtom ?ruleAnd ?ruleOr ?ruleNot ?attributeMatches ?matcherAtom ?fromRule ?matcherAnd
    ?matcherOr ?matcherNot
  case ruleAtom =>
    intro component leaf valid
    rw [Rule.plain, Rule.rebuild, Rule.evaluate_atom, Rule.evaluate_atom, plain, ready valid]
  case ruleAnd | ruleOr =>
    intro component children ih valid
    rw [Rule.validate, bind_isOk_iff, validateRules_isOk_iff] at valid
    have same : (children.map Rule.plain).map (Rule.evaluate · request) = children.map (Rule.evaluate · request) := by
      rw [List.map_map]
      exact List.map_congr_left fun child member => ih child member (valid.2 child member)
    rw [Rule.plain_eq] at same
    simp only [Rule.plain_eq, Rule.rebuild, rebuildRules_eq, Rule.evaluate_and, Rule.evaluate_or, plain, ready valid.1,
      same]
  case ruleNot =>
    intro component child ih valid
    rw [Rule.validate, bind_isOk_iff] at valid
    rw [Rule.plain, Rule.rebuild, ← Rule.plain_eq, Rule.evaluate_not, Rule.evaluate_not, plain, ready valid.1,
      ih valid.2]
  case attributeMatches =>
    intro component attributeId matcher ih valid
    rw [Rule.validate, bind_isOk_iff] at valid
    rw [Rule.plain, Rule.rebuild, ← Matcher.plain_eq, Rule.evaluate_attributeMatches, Rule.evaluate_attributeMatches,
      plain, ready valid.1]
    -- The outcome of a failed matcher is undecided, whatever the error says.
    cases request.attribute? attributeId with
    | none => rfl
    | some attr => simp only [ih valid.2 attr, outcomeOf_mapError]
  case matcherAtom =>
    intro component leaf valid attr
    rw [Matcher.plain, Matcher.rebuild, Matcher.select_atom, Matcher.select_atom, guarded_plain, guarded_of_usable valid,
      map_mapError, sift_mapError]
    rfl
  case fromRule =>
    intro component rule ih valid attr
    rw [Matcher.validate, bind_isOk_iff] at valid
    rw [Matcher.plain, Matcher.rebuild, ← Rule.plain_eq, Matcher.select_fromRule, Matcher.select_fromRule, guarded_plain,
      guarded_of_usable valid.1, ih valid.2]
    rfl
  case matcherAnd | matcherOr =>
    intro component children ih valid attr
    rw [Matcher.validate, bind_isOk_iff, validateMatchers_isOk_iff] at valid
    have same : (children.map Matcher.plain).map (Matcher.select · request attr) =
        (children.map (Matcher.select · request attr)).map (·.mapError FilterError.anonymous) := by
      rw [List.map_map, List.map_map]
      exact List.map_congr_left fun child member => ih child member (valid.2 child member) attr
    rw [Matcher.plain_eq] at same
    simp only [Matcher.plain_eq, Matcher.rebuild, rebuildMatchers_eq, Matcher.select_and, Matcher.select_or,
      guarded_plain, guarded_of_usable valid.1, map_mapError, same, gather_mapError]
  case matcherNot =>
    intro component child ih valid attr
    rw [Matcher.validate, bind_isOk_iff] at valid
    rw [Matcher.plain, Matcher.rebuild, ← Matcher.plain_eq, Matcher.select_not, Matcher.select_not, guarded_plain,
      guarded_of_usable valid.1, map_mapError, ← gather_mapError, List.map_singleton, List.map_singleton,
      List.map_singleton, ih valid.2]

/-- Whatever the leaf knows by name is from the library. -/
def RuleLeaf.From (library : Library) : RuleLeaf → Prop
  | .ofPredicate predicate => predicate.test = library.requestTest predicate.name
  | .ofScript script => script.evaluator = library.evaluator script.evaluator.number
  | _ => True

def MatcherLeaf.From (library : Library) : MatcherLeaf → Prop
  | .ofPredicate predicate => predicate.test = library.valueTest predicate.name
  | .ofScript script => script.evaluator = library.evaluator script.evaluator.number
  | _ => True

def Rule.From (library : Library) (rule : Rule) : Prop := rule.Each (RuleLeaf.From library) (MatcherLeaf.From library)

def Matcher.From (library : Library) (matcher : Matcher) : Prop :=
  matcher.Each (RuleLeaf.From library) (MatcherLeaf.From library)

def RuleLeaf.customs : RuleLeaf → List (Option Json)
  | .ofScript script => [script.custom]
  | _ => []

def MatcherLeaf.customs : MatcherLeaf → List (Option Json)
  | .ofScript script => [script.custom]
  | _ => []

mutual
/-- The custom objects of all scripts in a rule, from left to right. -/
def Rule.customs : Rule → List (Option Json)
  | .atom _ leaf => leaf.customs
  | .and _ children => customsOfRules children
  | .or _ children => customsOfRules children
  | .not _ child => child.customs
  | .attributeMatches _ _ matcher => matcher.customs

def customsOfRules : List Rule → List (Option Json)
  | [] => []
  | rule :: rest => rule.customs ++ customsOfRules rest

def Matcher.customs : Matcher → List (Option Json)
  | .atom _ leaf => leaf.customs
  | .fromRule _ rule => rule.customs
  | .and _ children => customsOfMatchers children
  | .or _ children => customsOfMatchers children
  | .not _ child => child.customs

def customsOfMatchers : List Matcher → List (Option Json)
  | [] => []
  | matcher :: rest => matcher.customs ++ customsOfMatchers rest
end

theorem customsOfRules_eq (rules : List Rule) : customsOfRules rules = rules.flatMap Rule.customs := by
  induction rules with
  | nil => rfl
  | cons rule rest ih => rw [customsOfRules, ih, List.flatMap_cons]

theorem customsOfMatchers_eq (matchers : List Matcher) :
    customsOfMatchers matchers = matchers.flatMap Matcher.customs := by
  induction matchers with
  | nil => rfl
  | cons matcher rest ih => rw [customsOfMatchers, ih, List.flatMap_cons]

variable (library : Library)

private theorem RuleLeaf.matches (left : RuleLeaf) :
    Matches RuleLeaf.same (RuleLeaf.From library) RuleLeaf.customs (fun leaf => leaf) left := by
  intro right leftRest rightRest same leftOurs rightOurs customs
  cases left <;> cases right <;> try (simp [RuleLeaf.same] at same; done)
  case fixed.fixed | ofCondition.ofCondition => exact ⟨congrArg _ (beq_iff_eq.mp same), customs⟩
  case ofPredicate.ofPredicate first second =>
    obtain ⟨name, test⟩ := first
    obtain ⟨other, otherTest⟩ := second
    cases beq_iff_eq.mp same
    cases Eq.trans leftOurs rightOurs.symm
    exact ⟨rfl, customs⟩
  case ofScript.ofScript first second =>
    obtain ⟨custom, rest⟩ := List.cons.inj customs
    exact ⟨congrArg ofScript (Script.eq_of_same same leftOurs rightOurs custom), rest⟩

private theorem MatcherLeaf.matches (left : MatcherLeaf) :
    Matches MatcherLeaf.same (MatcherLeaf.From library) MatcherLeaf.customs (fun leaf => leaf) left := by
  intro right leftRest rightRest same leftOurs rightOurs customs
  cases left <;> cases right <;> try (simp [MatcherLeaf.same] at same; done)
  case ofCondition.ofCondition => exact ⟨congrArg _ (beq_iff_eq.mp same), customs⟩
  case ofPredicate.ofPredicate first second =>
    obtain ⟨name, test⟩ := first
    obtain ⟨other, otherTest⟩ := second
    cases beq_iff_eq.mp same
    cases Eq.trans leftOurs rightOurs.symm
    exact ⟨rfl, customs⟩
  case ofScript.ofScript first second =>
    obtain ⟨custom, rest⟩ := List.cons.inj customs
    exact ⟨congrArg ofScript (Script.eq_of_same same leftOurs rightOurs custom), rest⟩

/-- Trees that are equal and have the same custom objects differ in names only. -/
theorem trees_match :
    (∀ left : Rule, Matches Rule.same (Rule.From library) Rule.customs Rule.plain left) ∧
      ∀ left : Matcher, Matches Matcher.same (Matcher.From library) Matcher.customs Matcher.plain left := by
  refine tree_induction _ _ ?ruleAtom ?ruleAnd ?ruleOr ?ruleNot ?attributeMatches ?matcherAtom ?fromRule ?matcherAnd
    ?matcherOr ?matcherNot
  case ruleAtom =>
    intro component leaf right leftRest rightRest same leftOurs rightOurs objects
    cases right with
    | atom other second =>
      rw [Rule.same] at same
      obtain ⟨leaves, rest⟩ := leaf.matches library second _ _ same leftOurs rightOurs objects
      exact ⟨congrArg (Rule.atom component.plain) leaves, rest⟩
    | _ => simp [Rule.same] at same
  case ruleAnd | ruleOr =>
    intro component children ih right leftRest rightRest same leftOurs rightOurs objects
    cases right <;> try (simp [Rule.same] at same; done)
    next other others =>
      rw [Rule.same, sameRules_eq] at same
      rw [Rule.From, Rule.Each, eachRule_iff] at leftOurs rightOurs
      rw [Rule.customs, Rule.customs, customsOfRules_eq, customsOfRules_eq] at objects
      obtain ⟨forms, rest⟩ := Matches.list ih others _ _ same leftOurs rightOurs objects
      rw [Rule.plain, Rule.plain, Rule.rebuild, Rule.rebuild, rebuildRules_eq, rebuildRules_eq, ← Rule.plain_eq, forms]
      exact ⟨rfl, rest⟩
  case ruleNot =>
    intro component child ih right leftRest rightRest same leftOurs rightOurs objects
    cases right with
    | not other second =>
      rw [Rule.same] at same
      obtain ⟨forms, rest⟩ := ih second _ _ same leftOurs rightOurs objects
      exact ⟨congrArg (Rule.not component.plain) forms, rest⟩
    | _ => simp [Rule.same] at same
  case attributeMatches =>
    intro component attributeId matcher ih right leftRest rightRest same leftOurs rightOurs objects
    cases right with
    | attributeMatches other otherId second =>
      rw [Rule.same, Bool.and_eq_true, beq_iff_eq] at same
      obtain ⟨rfl, inside⟩ := same
      obtain ⟨forms, rest⟩ := ih second _ _ inside leftOurs rightOurs objects
      exact ⟨congrArg (Rule.attributeMatches component.plain attributeId) forms, rest⟩
    | _ => simp [Rule.same] at same
  case matcherAtom =>
    intro component leaf right leftRest rightRest same leftOurs rightOurs objects
    cases right with
    | atom other second =>
      rw [Matcher.same] at same
      obtain ⟨leaves, rest⟩ := leaf.matches library second _ _ same leftOurs rightOurs objects
      exact ⟨congrArg (Matcher.atom component.plain) leaves, rest⟩
    | _ => simp [Matcher.same] at same
  case fromRule =>
    intro component rule ih right leftRest rightRest same leftOurs rightOurs objects
    cases right with
    | fromRule other second =>
      rw [Matcher.same] at same
      obtain ⟨forms, rest⟩ := ih second _ _ same leftOurs rightOurs objects
      exact ⟨congrArg (Matcher.fromRule component.plain) forms, rest⟩
    | _ => simp [Matcher.same] at same
  case matcherAnd | matcherOr =>
    intro component children ih right leftRest rightRest same leftOurs rightOurs objects
    cases right <;> try (simp [Matcher.same] at same; done)
    next other others =>
      rw [Matcher.same, sameMatchers_eq] at same
      rw [Matcher.From, Matcher.Each, eachMatcher_iff] at leftOurs rightOurs
      rw [Matcher.customs, Matcher.customs, customsOfMatchers_eq, customsOfMatchers_eq] at objects
      obtain ⟨forms, rest⟩ := Matches.list ih others _ _ same leftOurs rightOurs objects
      rw [Matcher.plain, Matcher.plain, Matcher.rebuild, Matcher.rebuild, rebuildMatchers_eq, rebuildMatchers_eq,
        ← Matcher.plain_eq, forms]
      exact ⟨rfl, rest⟩
  case matcherNot =>
    intro component child ih right leftRest rightRest same leftOurs rightOurs objects
    cases right with
    | not other second =>
      rw [Matcher.same] at same
      obtain ⟨forms, rest⟩ := ih second _ _ same leftOurs rightOurs objects
      exact ⟨congrArg (Matcher.not component.plain) forms, rest⟩
    | _ => simp [Matcher.same] at same

variable {library}

theorem Rule.evaluate_eq_of_same {left right : Rule} (same : left.same right = true) (leftValid : left.validate = .ok ())
    (rightValid : right.validate = .ok ()) (leftOurs : left.From library) (rightOurs : right.From library)
    (objects : left.customs = right.customs) (request : Request) : left.evaluate request = right.evaluate request := by
  have forms := (trees_match library).1 left right [] [] same leftOurs rightOurs (by rw [objects])
  rw [← (evaluate_and_select_plain request).1 left leftValid, forms.1,
    (evaluate_and_select_plain request).1 right rightValid]

theorem Matcher.select_eq_of_same {left right : Matcher} (same : left.same right = true)
    (leftValid : left.validate = .ok ()) (rightValid : right.validate = .ok ()) (leftOurs : left.From library)
    (rightOurs : right.From library) (objects : left.customs = right.customs) (request : Request) (attr : Attribute) :
    (left.select request attr).mapError FilterError.anonymous =
      (right.select request attr).mapError FilterError.anonymous := by
  have forms := (trees_match library).2 left right [] [] same leftOurs rightOurs (by rw [objects])
  rw [← (evaluate_and_select_plain request).2 left leftValid, forms.1,
    (evaluate_and_select_plain request).2 right rightValid]

theorem AttributeRule.apply_eq_of_same {left right : AttributeRule} (same : left.same right = true)
    (leftValid : left.validate = .ok ()) (rightValid : right.validate = .ok ()) (leftOurs : left.matcher.From library)
    (rightOurs : right.matcher.From library) (objects : left.matcher.customs = right.matcher.customs)
    (request : Request) :
    (left.apply request).mapError FilterError.anonymous = (right.apply request).mapError FilterError.anonymous := by
  rw [AttributeRule.same, Bool.and_eq_true, Bool.and_eq_true, beq_iff_eq, beq_iff_eq] at same
  obtain ⟨⟨ids, effects⟩, matchers⟩ := same
  cases present : request.attribute? left.attributeId with
  | none => rw [apply_of_absent present, apply_of_absent (ids ▸ present)]
  | some attr =>
    have selections := Matcher.select_eq_of_same matchers leftValid rightValid leftOurs rightOurs objects request attr
    rw [apply_of_present present, apply_of_present (ids ▸ present), map_mapError, map_mapError, selections, effects]

variable (library)

/-- Equality is an equivalence, and what is equal behaves alike: valid rules give one outcome, and valid matchers and
rules for attributes one selection, or errors that differ in the id of a matcher only. The custom objects have to be
the very same, since equality does not tell zeros of different signs apart. -/
theorem equal_components_behave_alike :
    ((Equivalence fun left right : Rule => left.same right = true) ∧
      (Equivalence fun left right : Matcher => left.same right = true) ∧
      Equivalence fun left right : AttributeRule => left.same right = true) ∧
    (∀ left right : Rule, left.same right = true → left.validate = .ok () → right.validate = .ok () →
      left.From library → right.From library → left.customs = right.customs → ∀ request,
        left.evaluate request = right.evaluate request) ∧
    (∀ left right : Matcher, left.same right = true → left.validate = .ok () → right.validate = .ok () →
      left.From library → right.From library → left.customs = right.customs → ∀ request attr,
        (left.select request attr).mapError FilterError.anonymous =
          (right.select request attr).mapError FilterError.anonymous) ∧
    ∀ left right : AttributeRule, left.same right = true → left.validate = .ok () → right.validate = .ok () →
      left.matcher.From library → right.matcher.From library → left.matcher.customs = right.matcher.customs →
      ∀ request,
        (left.apply request).mapError FilterError.anonymous =
          (right.apply request).mapError FilterError.anonymous := by
  refine ⟨⟨equivalence_of_iff same_iff_known.1, equivalence_of_iff same_iff_known.2,
    equivalence_of_iff AttributeRule.same_iff⟩, ?rules, ?matchers, ?attributeRules⟩
  case rules =>
    intro left right same leftValid rightValid leftOurs rightOurs objects
    exact Rule.evaluate_eq_of_same same leftValid rightValid leftOurs rightOurs objects
  case matchers =>
    intro left right same leftValid rightValid leftOurs rightOurs objects
    exact Matcher.select_eq_of_same same leftValid rightValid leftOurs rightOurs objects
  case attributeRules =>
    intro left right same leftValid rightValid leftOurs rightOurs objects
    exact AttributeRule.apply_eq_of_same same leftValid rightValid leftOurs rightOurs objects

end

attribute [local instance] Regex.language Script.Expr.language

/-- Long values of the attribute, if guests are admitted. -/
def guestMatcher (id : String) : Matcher :=
  let long : ValuePredicate := ⟨"long", fun _ _ value => .ok (decide (8 < value.text.length))⟩
  let script : Script :=
    { expression := "custom.guests", evaluator := Interpreter.evaluator {}, custom := some (.object [("guests", .bool true)]) }
  .and ⟨id, .initialised⟩ [.atom ⟨id, .initialised⟩ (.ofPredicate long),
    .fromRule ⟨id, .initialised⟩ (.atom ⟨id, .initialised⟩ (.ofScript script))]

def guestRule (id : String) : Rule := .attributeMatches ⟨id, .initialised⟩ "mail" (guestMatcher id)

def guestMail (id : String) : AttributeRule := { givenId := some id, attributeId := "mail", matcher := guestMatcher id }

def guestLibrary : Library where
  requestTest _ _ := .ok false
  valueTest _ _ _ value := .ok (decide (8 < value.text.length))
  evaluator _ := Interpreter.evaluator {}

theorem equal_components_behave_alike_guests :
    (∀ request, (guestRule "first").evaluate request = (guestRule "second").evaluate request) ∧
    (∀ request attr, ((guestMatcher "first").select request attr).mapError FilterError.anonymous =
      ((guestMatcher "second").select request attr).mapError FilterError.anonymous) ∧
    ∀ request, ((guestMail "first").apply request).mapError FilterError.anonymous =
      ((guestMail "second").apply request).mapError FilterError.anonymous := by
  have equal : (guestMatcher "first").same (guestMatcher "second") = true := by
    simp [guestMatcher, Matcher.same, sameMatchers, MatcherLeaf.same, Rule.same, RuleLeaf.same, Script.same,
      Evaluator.same, Json.same_iff]
  have ours (id : String) : (guestMatcher id).From guestLibrary := by
    simp [guestMatcher, Matcher.From, Matcher.Each, EachMatcher, Rule.Each, MatcherLeaf.From, RuleLeaf.From, guestLibrary]
  have equalRules : (guestRule "first").same (guestRule "second") = true := by
    simpa [guestRule, Rule.same] using equal
  have equalMail : (guestMail "first").same (guestMail "second") = true := by
    simpa [guestMail, AttributeRule.same] using equal
  obtain ⟨_, rules, matchers, attributeRules⟩ := equal_components_behave_alike guestLibrary
  exact ⟨rules _ _ equalRules rfl rfl (ours "first") (ours "second") rfl,
    matchers _ _ equal rfl rfl (ours "first") (ours "second") rfl,
    attributeRules _ _ equalMail rfl rfl (ours "first") (ours "second") rfl⟩

/-- The script tells its custom object, which is no answer. -/
def zeroMatcher (number : Double) : Matcher :=
  .atom ⟨"script", .initialised⟩ (.ofScript
    { expression := "custom", evaluator := Interpreter.evaluator {}, custom := some (.number number) })

/-- The two zeros are equal as custom objects, and not the same to a script. -/
theorem equal_matchers_tell_zeros_apart :
    let plus := zeroMatcher ⟨0, by decide⟩
    let minus := zeroMatcher ⟨0x8000000000000000, by decide⟩
    let attr : Attribute := { id := "mail", values := .ofList [.string "a@example.org"] }
    plus.same minus = true ∧ plus.validate = .ok () ∧ minus.validate = .ok () ∧
      (∃ library, plus.From library ∧ minus.From library) ∧
      (plus.select default attr).mapError FilterError.anonymous =
        .error (.predicate "" "mail" "script returned non-boolean result 0.0") ∧
      (minus.select default attr).mapError FilterError.anonymous =
        .error (.predicate "" "mail" "script returned non-boolean result -0.0") := by
  intro plus minus attr
  have zeros : (⟨0, by decide⟩ : Double).same ⟨0x8000000000000000, by decide⟩ = true := by decide
  refine ⟨?_, rfl, rfl, ⟨guestLibrary, rfl, rfl⟩, ?_, ?_⟩
  · simp [plus, minus, zeroMatcher, Matcher.same, MatcherLeaf.same, Script.same, Evaluator.same, Json.same, zeros]
  · with_unfolding_all rfl
  · with_unfolding_all rfl

end AttributeRelease
