import AttributeRelease.Proofs.ValueSets
import AttributeRelease.Rule.Evaluation

/-! Outcomes and selections without the record of calls. A rule is described by the outcomes of
its children, and a matcher by what its children select, so that later proofs need not run a tree. -/

namespace AttributeRelease

namespace Filtering

variable {α β : Type}

/-- How a computation ends. -/
def result (computation : Filtering α) : Except FilterError α := computation.run.value

@[simp] theorem result_pure (value : α) : result (pure value) = .ok value := rfl

@[simp] theorem result_lift (traced : Traced α) : result (traced : Filtering α) = .ok traced.value := rfl

@[simp] theorem result_bind (first : Filtering α) (next : α → Filtering β) :
    result (first >>= next) = (result first).bind fun value => result (next value) := by
  unfold result
  rw [ExceptT.run_bind, Traced.value_bind]
  cases first.run.value <;> rfl

end Filtering

/-- What a node gives if it is usable. -/
def Component.guarded {α : Type} (component : Component) (inner : Except FilterError α) : Except FilterError α :=
  match component.ensureUsable with
  | .ok () => inner
  | .error cause => .error (.configuration cause)

theorem result_usable {α : Type} (component : Component) (next : Filtering α) :
    Filtering.result (usable component >>= fun _ => next) = component.guarded (Filtering.result next) := by
  rw [Filtering.result_bind, usable, Component.guarded]
  cases component.ensureUsable <;> rfl

theorem guarded_of_usable {α : Type} {component : Component} (usable : component.ensureUsable = .ok ())
    (inner : Except FilterError α) : component.guarded inner = inner := by
  rw [Component.guarded, usable]

theorem guarded_eq_ok_iff {α : Type} {component : Component} {inner : Except FilterError α} {value : α} :
    component.guarded inner = .ok value ↔ component.ensureUsable = .ok () ∧ inner = .ok value := by
  rw [Component.guarded]
  cases component.ensureUsable <;> simp

/-- The first outcome that is not the one to go on with, or else that one. -/
def Tristate.chain (goOn : Tristate) (outcomes : List Tristate) : Tristate :=
  (outcomes.find? (· ≠ goOn)).getD goOn

theorem Tristate.chain_cons (goOn first : Tristate) (rest : List Tristate) :
    chain goOn (first :: rest) = if first = goOn then chain goOn rest else first := by
  unfold chain
  by_cases same : first = goOn
  · simp [same]
  · simp [same]

/-- The values that are answered with yes. The first one without an answer ends that. -/
def sift (failure : String → FilterError) (answer : Value → Except String Bool) :
    List Value → Except FilterError (List Value)
  | [] => .ok []
  | value :: rest =>
    match answer value with
    | .error message => .error (failure message)
    | .ok selected => (sift failure answer rest).map fun others => if selected then value :: others else others

def isYes : Except String Bool → Bool
  | .ok selected => selected
  | .error _ => false

theorem sift_eq_ok_iff {failure : String → FilterError} {answer : Value → Except String Bool}
    {values selected : List Value} :
    sift failure answer values = .ok selected ↔
      (∀ value ∈ values, ∃ yes, answer value = .ok yes) ∧ selected = values.filter fun value => isYes (answer value) := by
  induction values generalizing selected with
  | nil => simp [sift, eq_comm]
  | cons value rest ih =>
    rw [sift, List.forall_mem_cons]
    cases answered : answer value with
    | error message => simp
    | ok yes =>
      have kept : (value :: rest).filter (fun value => isYes (answer value)) =
          if yes then value :: rest.filter (fun value => isYes (answer value))
          else rest.filter fun value => isYes (answer value) := by
        rw [List.filter_cons, answered, isYes]
      rw [kept]
      cases sifted : sift failure answer rest with
      | error error =>
        constructor
        · intro impossible
          cases impossible
        · rintro ⟨⟨_, answers⟩, _⟩
          rw [ih.mpr ⟨answers, rfl⟩] at sifted
          cases sifted
      | ok others =>
        obtain ⟨answers, same⟩ := ih.mp sifted
        simp only [Except.map, ← same, Except.ok.injEq]
        exact ⟨fun here => ⟨⟨⟨yes, rfl⟩, answers⟩, here.symm⟩, fun here => here.2.symm⟩

theorem sift_eq_error_iff {failure : String → FilterError} {answer : Value → Except String Bool} {values : List Value}
    {error : FilterError} :
    sift failure answer values = .error error ↔
      ∃ earlier value later message, values = earlier ++ value :: later ∧
        (∀ before ∈ earlier, ∃ yes, answer before = .ok yes) ∧ answer value = .error message ∧ error = failure message := by
  induction values with
  | nil => simp [sift]
  | cons first rest ih =>
    rw [sift]
    cases answered : answer first with
    | error message =>
      constructor
      · intro failed
        cases failed
        exact ⟨[], first, rest, message, rfl, nofun, answered, rfl⟩
      · rintro ⟨earlier, value, later, other, split, before, unanswered, rfl⟩
        cases earlier with
        | nil =>
          cases split
          cases answered.symm.trans unanswered
          rfl
        | cons head tail =>
          cases split
          obtain ⟨yes, here⟩ := before first List.mem_cons_self
          cases answered.symm.trans here
    | ok yes =>
      have rests : (sift failure answer rest).map (fun others => if yes then first :: others else others) =
          .error error ↔ sift failure answer rest = .error error := by
        cases sift failure answer rest <;> simp [Except.map]
      refine rests.trans (ih.trans ?_)
      constructor
      · rintro ⟨earlier, value, later, message, rfl, before, failed⟩
        exact ⟨first :: earlier, value, later, message, rfl, List.forall_mem_cons.mpr ⟨⟨yes, answered⟩, before⟩, failed⟩
      · rintro ⟨earlier, value, later, message, split, before, failed⟩
        cases earlier with
        | nil =>
          cases split
          cases answered.symm.trans failed.1
        | cons head tail =>
          cases split
          exact ⟨tail, value, later, message, rfl, (List.forall_mem_cons.mp before).2, failed⟩

/-- The sets that children select, unless one of them is undecided or fails. The first one that
does either ends it. -/
def gather : List (Except FilterError Selection) → Except FilterError (Option (List ValueSet))
  | [] => .ok (some [])
  | .ok (.values selected) :: rest => (gather rest).map (Option.map (selected :: ·))
  | .ok .undecided :: _ => .ok none
  | .error error :: _ => .error error

theorem gather_eq_some_iff {results : List (Except FilterError Selection)} {sets : List ValueSet} :
    gather results = .ok (some sets) ↔ results = sets.map fun selected => .ok (.values selected) := by
  induction results generalizing sets with
  | nil => cases sets <;> simp [gather]
  | cons first rest ih =>
    rcases first with error | (selected | _)
    · cases sets <;> simp [gather]
    · rw [gather]
      cases sets with
      | nil =>
        rcases gather rest with error | (_ | _) <;> simp [Except.map]
      | cons head tail =>
        have step : (gather rest).map (Option.map (selected :: ·)) = .ok (some (head :: tail)) ↔
            selected = head ∧ gather rest = .ok (some tail) := by
          rcases gather rest with error | (_ | _) <;> simp [Except.map]
        rw [step, ih, List.map_cons, List.cons.injEq, Except.ok.injEq, Selection.values.injEq]
    · cases sets <;> simp [gather]

theorem gather_ok {results : List (Except FilterError Selection)}
    (succeed : ∀ result ∈ results, ∃ selection, result = .ok selection) : ∃ sets, gather results = .ok sets := by
  induction results with
  | nil => exact ⟨_, rfl⟩
  | cons first rest ih =>
    obtain ⟨⟨selection, rfl⟩, later⟩ := List.forall_mem_cons.mp succeed
    obtain ⟨sets, gathered⟩ := ih later
    cases selection with
    | undecided => exact ⟨none, rfl⟩
    | values selected => exact ⟨sets.map (selected :: ·), by rw [gather, gathered]; rfl⟩

/-- There are votes, and all of them are yes. -/
def unanimous (votes : List Bool) : Bool := !votes.isEmpty && !votes.contains false

/-- The values whose membership in each of some sets passes a test. -/
def Selection.combine (values : ValueSet) (accepts : List Bool → Bool) : Option (List ValueSet) → Selection
  | none => .undecided
  | some sets => .values (values.filter fun value => accepts (sets.map (·.contains value)))

theorem combine_eq_values_iff {values selected : ValueSet} {accepts : List Bool → Bool}
    {gathered : Except FilterError (Option (List ValueSet))} :
    gathered.map (Selection.combine values accepts) = .ok (.values selected) ↔
      ∃ sets, gathered = .ok (some sets) ∧
        (values.filter fun value => accepts (sets.map (·.contains value))) = selected := by
  rcases gathered with error | (_ | sets) <;> simp [Except.map, Selection.combine]

variable [PatternLanguage]

def RuleLeaf.evaluate (leaf : RuleLeaf) (request : Request) : Tristate := (leaf.run request).value

namespace Rule

variable (request : Request) (component : Component)

theorem evaluate_atom (leaf : RuleLeaf) :
    (atom component leaf).evaluate request =
      if component.isInitialised then leaf.evaluate request else .undecided := by
  rw [evaluate, run]
  split <;> rfl

private theorem runAll_value (children : List Rule) :
    (runAll request children).value = Tristate.chain .yes (children.map (evaluate · request)) := by
  induction children with
  | nil => simp [runAll, Tristate.chain]
  | cons child rest ih =>
    rw [runAll, Traced.value_bind]
    have outcome : (child.run request).value = child.evaluate request := rfl
    rw [outcome]
    cases found : child.evaluate request with
    | yes => simpa [Tristate.chain, found] using ih
    | no => simp [Tristate.chain, found]
    | undecided => simp [Tristate.chain, found]

private theorem runAny_value (children : List Rule) :
    (runAny request children).value = Tristate.chain .no (children.map (evaluate · request)) := by
  induction children with
  | nil => simp [runAny, Tristate.chain]
  | cons child rest ih =>
    rw [runAny, Traced.value_bind]
    have outcome : (child.run request).value = child.evaluate request := rfl
    rw [outcome]
    cases found : child.evaluate request with
    | yes => simp [Tristate.chain, found]
    | no => simpa [Tristate.chain, found] using ih
    | undecided => simp [Tristate.chain, found]

theorem evaluate_and (children : List Rule) :
    (and component children).evaluate request =
      if component.isInitialised then Tristate.chain .yes (children.map (evaluate · request)) else .undecided := by
  rw [evaluate, run]
  split
  · exact runAll_value request children
  · rfl

theorem evaluate_or (children : List Rule) :
    (or component children).evaluate request =
      if component.isInitialised then Tristate.chain .no (children.map (evaluate · request)) else .undecided := by
  rw [evaluate, run]
  split
  · exact runAny_value request children
  · rfl

theorem evaluate_not (child : Rule) :
    (not component child).evaluate request =
      if component.isInitialised then (child.evaluate request).negate else .undecided := by
  rw [evaluate, run]
  split <;> rfl

def outcomeOf : Except FilterError Selection → Tristate
  | .ok (.values selected) => .ofBool !selected.isEmpty
  | _ => .undecided

theorem evaluate_attributeMatches (attributeId : String) (matcher : Matcher) :
    (attributeMatches component attributeId matcher).evaluate request =
      if component.isInitialised then
        match request.attribute? attributeId with
        | none => .no
        | some attr => outcomeOf (matcher.select request attr)
      else .undecided := by
  rw [evaluate, run]
  split
  · cases request.attribute? attributeId with
    | none => rfl
    | some attr =>
      have selection : (matcher.run request attr).run.value = matcher.select request attr := rfl
      simp only [Traced.value_bind, selection]
      cases matcher.select request attr with
      | error _ => rfl
      | ok selected => cases selected <;> rfl
  · rfl

/-- A rule that is not initialised decides nothing. -/
theorem evaluate_of_idle {rule : Rule} (idle : rule.component.isInitialised = false) (request : Request) :
    rule.evaluate request = .undecided := by
  have unusable : ¬ rule.component.isInitialised = true := Bool.eq_false_iff.mp idle
  cases rule with
  | atom component leaf => exact (evaluate_atom ..).trans (if_neg unusable)
  | and component children => exact (evaluate_and ..).trans (if_neg unusable)
  | or component children => exact (evaluate_or ..).trans (if_neg unusable)
  | not component child => exact (evaluate_not ..).trans (if_neg unusable)
  | attributeMatches component attributeId matcher => exact (evaluate_attributeMatches ..).trans (if_neg unusable)

end Rule

def MatcherLeaf.answer (leaf : MatcherLeaf) (request : Request) (attr : Attribute) (value : Value) :
    Except String Bool := (leaf.accepts request attr value).value

namespace Matcher

variable (request : Request) (attr : Attribute) (component : Component)

private theorem select_eq_result (matcher : Matcher) :
    matcher.select request attr = Filtering.result (matcher.run request attr) := rfl

private theorem leaf_result (id : String) (leaf : MatcherLeaf) (values : List Value) :
    Filtering.result (leaf.run request attr id values) =
      sift (.predicate id attr.id) (leaf.answer request attr) values := by
  induction values with
  | nil => rfl
  | cons value rest ih =>
    rw [MatcherLeaf.run, Filtering.result_bind, Filtering.result_lift, sift, MatcherLeaf.answer]
    simp only [Except.bind]
    cases (leaf.accepts request attr value).value with
    | error message => rfl
    | ok selected =>
      simp only [Filtering.result_bind, Filtering.result_pure, ih]
      cases sift (.predicate id attr.id) (leaf.answer request attr) rest <;> rfl

theorem select_atom (leaf : MatcherLeaf) :
    (atom component leaf).select request attr = component.guarded
      ((sift (.predicate component.id attr.id) (leaf.answer request attr) attr.values.toList).map
        fun selected => .values (.ofList selected)) := by
  rw [select_eq_result, run, result_usable, Filtering.result_bind, leaf_result]
  cases sift (.predicate component.id attr.id) (leaf.answer request attr) attr.values.toList <;> rfl

theorem select_fromRule (rule : Rule) :
    (fromRule component rule).select request attr = component.guarded (.ok
      (match rule.evaluate request with
        | .yes => .values attr.values
        | .no => .values ∅
        | .undecided => .undecided)) := by
  rw [select_eq_result, run, result_usable, Filtering.result_bind, Filtering.result_lift]
  have outcome : (rule.run request).value = rule.evaluate request := rfl
  simp only [Except.bind, outcome]
  cases rule.evaluate request <;> rfl

private theorem selectAll_result (selected : ValueSet) (children : List Matcher) :
    Filtering.result (selectAll request attr selected children) =
      (gather (children.map (select · request attr))).map (Selection.combine selected (!·.contains false)) := by
  induction children generalizing selected with
  | nil =>
    rw [selectAll, Filtering.result_pure]
    simp [gather, Except.map, Selection.combine, ValueSet.filter_eq_self]
  | cons child rest ih =>
    rw [selectAll, Filtering.result_bind, ← select_eq_result, List.map_cons]
    cases child.select request attr with
    | error error => rfl
    | ok selection =>
      cases selection with
      | undecided => rfl
      | values values =>
        simp only [Except.bind, ih, gather, ValueSet.inter]
        cases gather (rest.map (select · request attr)) with
        | error error => rfl
        | ok sets => cases sets <;> simp [Except.map, Selection.combine]

private theorem selectAny_result (selected : ValueSet) (children : List Matcher) :
    Filtering.result (selectAny request attr selected children) =
      (gather (children.map (select · request attr))).map fun sets =>
        Selection.combine attr.values (·.contains true) (sets.map (selected :: ·)) := by
  induction children generalizing selected with
  | nil =>
    rw [selectAny, Filtering.result_pure]
    refine congrArg (fun kept => Except.ok (Selection.values kept)) (ValueSet.filter_congr ?_)
    intro value _
    simp [ValueSet.contains]
  | cons child rest ih =>
    rw [selectAny, Filtering.result_bind, ← select_eq_result, List.map_cons]
    cases child.select request attr with
    | error error => rfl
    | ok selection =>
      cases selection with
      | undecided => rfl
      | values values =>
        simp only [Except.bind, ih, gather]
        cases gather (rest.map (select · request attr)) with
        | error error => rfl
        | ok sets =>
          cases sets with
          | none => rfl
          | some sets =>
            simp only [Except.map, Selection.combine, Option.map_some]
            refine congrArg (fun kept => Except.ok (Selection.values kept)) (ValueSet.filter_congr ?_)
            intro value _
            have either : (selected.union values).contains value = (selected.contains value || values.contains value) := by
              simp [ValueSet.contains]
            simp [either, Bool.or_assoc]

/-- A conjunction selects what all of its children select. Without children it selects nothing. -/
theorem select_and (children : List Matcher) :
    (and component children).select request attr = component.guarded
      ((gather (children.map (select · request attr))).map (Selection.combine attr.values unanimous)) := by
  rw [select_eq_result, run, result_usable]
  cases children with
  | nil =>
    have noneKept : (attr.values.filter fun _ => unanimous []) = ∅ := ValueSet.filter_eq_empty fun _ _ => rfl
    simp [gather, Except.map, Selection.combine, noneKept]
  | cons child rest =>
    rw [List.isEmpty_cons, if_neg Bool.false_ne_true, selectAll_result]
    refine congrArg component.guarded ?_
    cases gathered : gather ((child :: rest).map (select · request attr)) with
    | error error => rfl
    | ok sets =>
      cases sets with
      | none => rfl
      | some sets =>
        have voters : sets.isEmpty = false := by
          cases sets with
          | nil => cases gather_eq_some_iff.mp gathered
          | cons => rfl
        simp [Except.map, Selection.combine, unanimous, voters]

theorem select_or (children : List Matcher) :
    (or component children).select request attr = component.guarded
      ((gather (children.map (select · request attr))).map (Selection.combine attr.values (·.contains true))) := by
  rw [select_eq_result, run, result_usable, selectAny_result]
  cases gather (children.map (select · request attr)) with
  | error error => rfl
  | ok sets =>
    cases sets with
    | none => rfl
    | some sets => simp [Except.map, Selection.combine, ValueSet.contains]

theorem select_not (child : Matcher) :
    (not component child).select request attr = component.guarded
      ((gather ([child].map (select · request attr))).map (Selection.combine attr.values (!·.contains true))) := by
  rw [select_eq_result, run, result_usable, Filtering.result_bind, ← select_eq_result, List.map_cons, List.map_nil]
  cases child.select request attr with
  | error error => rfl
  | ok selection =>
    cases selection with
    | undecided => rfl
    | values excluded =>
      simp [gather, Except.bind, Except.map, Selection.combine, ValueSet.diff, ValueSet.contains]

/-- A matcher that is not usable selects nothing and says why. -/
theorem select_of_unusable {matcher : Matcher} {cause : ConfigError}
    (unusable : matcher.component.ensureUsable = .error cause) (request : Request) (attr : Attribute) :
    matcher.select request attr = .error (.configuration cause) := by
  have guard {component : Component} (unusable : component.ensureUsable = .error cause)
      (inner : Except FilterError Selection) : component.guarded inner = .error (.configuration cause) := by
    rw [Component.guarded, unusable]
  cases matcher with
  | atom component leaf => exact (select_atom ..).trans (guard unusable _)
  | fromRule component rule => exact (select_fromRule ..).trans (guard unusable _)
  | and component children => exact (select_and ..).trans (guard unusable _)
  | or component children => exact (select_or ..).trans (guard unusable _)
  | not component child => exact (select_not ..).trans (guard unusable _)

theorem select_subset {matcher : Matcher} {request : Request} {attr : Attribute} {selected : ValueSet}
    (done : matcher.select request attr = .ok (.values selected)) {value : Value} (member : value ∈ selected) :
    value ∈ attr.values := by
  have combined {component : Component} {accepts : List Bool → Bool}
      {gathered : Except FilterError (Option (List ValueSet))}
      (done : component.guarded (gathered.map (Selection.combine attr.values accepts)) = .ok (.values selected)) :
      value ∈ attr.values := by
    obtain ⟨_, found⟩ := guarded_eq_ok_iff.mp done
    obtain ⟨_, _, rfl⟩ := combine_eq_values_iff.mp found
    exact (ValueSet.mem_filter.mp member).1
  cases matcher with
  | atom component leaf =>
    rw [select_atom] at done
    obtain ⟨_, found⟩ := guarded_eq_ok_iff.mp done
    cases sifted : sift (.predicate component.id attr.id) (leaf.answer request attr) attr.values.toList with
    | error error =>
      rw [sifted] at found
      cases found
    | ok kept =>
      rw [sifted] at found
      cases found
      obtain ⟨_, rfl⟩ := sift_eq_ok_iff.mp sifted
      exact (List.mem_filter.mp (ValueSet.mem_ofList.mp member)).1
  | fromRule component rule =>
    rw [select_fromRule] at done
    obtain ⟨_, found⟩ := guarded_eq_ok_iff.mp done
    cases outcome : rule.evaluate request with
    | yes =>
      rw [outcome] at found
      cases found
      exact member
    | no =>
      rw [outcome] at found
      cases found
      exact absurd member (ValueSet.not_mem_empty value)
    | undecided =>
      rw [outcome] at found
      cases found
  | and component children => exact combined (select_and .. ▸ done)
  | or component children => exact combined (select_or .. ▸ done)
  | not component child => exact combined (select_not .. ▸ done)

end Matcher

end AttributeRelease
