import AttributeRelease.Proofs.Calls
import AttributeRelease.Proofs.Evaluation
import AttributeRelease.Proofs.Trees
import AttributeRelease.Proofs.Validity
import AttributeRelease.Regex.Language

/-! A matcher runs its leaves from left to right. If all of them decide, a formula over what they select
gives the selection of the matcher, value by value. The first leaf that does not decide ends the run,
and nothing above it has a say in that. -/

namespace AttributeRelease

private theorem bind_eq_self {α : Type} {first : Filtering α} {next : α → Filtering α}
    (same : ∀ value, Filtering.result first = .ok value → next value = pure value) : (first >>= next) = first := by
  refine ExceptT.ext ?_
  rw [ExceptT.run_bind]
  refine Traced.bind_eq_self ?_
  cases found : first.run.value with
  | error error => rfl
  | ok value => exact congrArg ExceptT.run (same value found)

private theorem usable_bind {component : Component} (ready : component.ensureUsable = .ok ()) {α : Type}
    (next : Unit → Filtering α) : (usable component >>= next) = next () := by
  rw [usable, ready]
  rfl

section

variable [PatternLanguage]

namespace Matcher

mutual
/-- The leaves from left to right. A rule belongs to the leaf that asks it. -/
def leaves : Matcher → List Matcher
  | .atom component leaf => [.atom component leaf]
  | .fromRule component rule => [.fromRule component rule]
  | .and _ children => leavesOfAll children
  | .or _ children => leavesOfAll children
  | .not _ child => child.leaves

def leavesOfAll : List Matcher → List Matcher
  | [] => []
  | matcher :: rest => matcher.leaves ++ leavesOfAll rest
end

mutual
/-- The formula of a matcher over its leaves. It is false for a conjunction of nothing. -/
def formula (leaf : Matcher → Bool) : Matcher → Bool
  | .atom component inner => leaf (.atom component inner)
  | .fromRule component rule => leaf (.fromRule component rule)
  | .and _ children => !children.isEmpty && formulaOfAll leaf children
  | .or _ children => formulaOfAny leaf children
  | .not _ child => !child.formula leaf

def formulaOfAll (leaf : Matcher → Bool) : List Matcher → Bool
  | [] => true
  | matcher :: rest => matcher.formula leaf && formulaOfAll leaf rest

def formulaOfAny (leaf : Matcher → Bool) : List Matcher → Bool
  | [] => false
  | matcher :: rest => matcher.formula leaf || formulaOfAny leaf rest
end

/-- The nodes that a run of a tree comes down to. -/
def IsLeaf : Matcher → Prop
  | .atom _ _ => True
  | .fromRule _ _ => True
  | _ => False

theorem leavesOfAll_eq (matchers : List Matcher) : leavesOfAll matchers = matchers.flatMap leaves := by
  induction matchers with
  | nil => rfl
  | cons matcher rest ih => rw [leavesOfAll, ih, List.flatMap_cons]

theorem formulaOfAll_eq (leaf : Matcher → Bool) (matchers : List Matcher) :
    formulaOfAll leaf matchers = matchers.all (formula leaf) := by
  induction matchers with
  | nil => rfl
  | cons matcher rest ih => rw [formulaOfAll, ih, List.all_cons]

theorem formulaOfAny_eq (leaf : Matcher → Bool) (matchers : List Matcher) :
    formulaOfAny leaf matchers = matchers.any (formula leaf) := by
  induction matchers with
  | nil => rfl
  | cons matcher rest ih => rw [formulaOfAny, ih, List.any_cons]

section
variable (request : Request) (attr : Attribute)

def Decides (matcher : Matcher) : Prop := ∃ selected, matcher.select request attr = .ok (.values selected)

def selects (value : Value) (matcher : Matcher) : Bool :=
  match matcher.select request attr with
  | .ok (.values selected) => selected.contains value
  | _ => false

/-- The predicates that a matcher calls, in the order of the calls. -/
def calls (matcher : Matcher) : List String := (matcher.run request attr).run.calls

/-- The values for which the formula holds. -/
def selected (matcher : Matcher) : ValueSet :=
  attr.values.filter fun value => matcher.formula (selects request attr value)

/-- Runs leaves until one of them does not decide. -/
def runLeaves : List Matcher → Filtering Bool
  | [] => return true
  | leaf :: rest => do
    match ← leaf.run request attr with
    | .values _ => runLeaves rest
    | .undecided => return false

theorem runLeaves_append (first second : List Matcher) :
    runLeaves request attr (first ++ second) = do
      if ← runLeaves request attr first then runLeaves request attr second else return false := by
  induction first with
  | nil => simp [runLeaves]
  | cons leaf rest ih =>
    simp only [List.cons_append, runLeaves, bind_assoc]
    refine bind_congr fun selection => ?_
    cases selection with
    | values selected => exact ih
    | undecided => simp

theorem selects_eq {matcher : Matcher} {selected : ValueSet}
    (decided : matcher.select request attr = .ok (.values selected)) (value : Value) :
    matcher.selects request attr value = selected.contains value := by
  rw [selects, decided]

theorem selected_of_leaf {leaf : Matcher} (alone : leaf.IsLeaf) {found : ValueSet}
    (decided : leaf.select request attr = .ok (.values found)) : leaf.selected request attr = found := by
  have inOrder : found.toList.Sublist attr.values.toList := by
    cases leaf with
    | atom component inner =>
      rw [select_atom] at decided
      obtain ⟨_, made⟩ := guarded_eq_ok_iff.mp decided
      obtain ⟨kept, sifted, same⟩ := map_eq_ok_iff.mp made
      cases same
      obtain ⟨_, rfl⟩ := sift_eq_ok_iff.mp sifted
      rw [ValueSet.ofList_filter]
      exact List.filter_sublist
    | fromRule component rule =>
      rw [select_fromRule] at decided
      obtain ⟨_, made⟩ := guarded_eq_ok_iff.mp decided
      cases outcome : rule.evaluate request <;> rw [outcome] at made <;> cases made
      · exact List.Sublist.refl _
      · exact List.nil_sublist _
    | and | or | not => cases alone
  have each : leaf.selected request attr = attr.values.filter fun value => leaf.selects request attr value := by
    cases leaf with
    | atom | fromRule => rfl
    | and | or | not => cases alone
  rw [each, funext (selects_eq request attr decided)]
  exact ValueSet.filter_contains_of_sublist inOrder

private abbrev Follows (matcher : Matcher) : Prop :=
  matcher.run request attr = do
    if ← runLeaves request attr matcher.leaves then return .values (matcher.selected request attr)
    else return .undecided

private theorem follows_of_leaf {leaf : Matcher} (alone : leaf.IsLeaf) : leaf.Follows request attr := by
  have single : leaf.leaves = [leaf] := by
    cases leaf with
    | atom | fromRule => rfl
    | and | or | not => cases alone
  rw [Follows, single, runLeaves, bind_assoc]
  refine (bind_eq_self fun selection found => ?_).symm
  cases selection with
  | undecided => rfl
  | values kept =>
    rw [selected_of_leaf request attr alone found]
    rfl

private theorem selectAll_follows {children : List Matcher} (each : ∀ child ∈ children, child.Follows request attr)
    {found : ValueSet} (inside : ∀ value ∈ found, value ∈ attr.values) :
    selectAll request attr found children = do
      if ← runLeaves request attr (children.flatMap leaves) then
        return .values (found.filter fun value => children.all (formula (selects request attr value)))
      else return .undecided := by
  induction children generalizing found with
  | nil => simp [selectAll, runLeaves, ValueSet.filter_eq_self]
  | cons child rest ih =>
    obtain ⟨here, later⟩ := List.forall_mem_cons.mp each
    rw [selectAll, here, List.flatMap_cons, runLeaves_append, bind_assoc, bind_assoc]
    refine bind_congr fun decided => ?_
    cases decided with
    | false => rfl
    | true =>
      have both : (found.inter (child.selected request attr)).filter
            (fun value => rest.all (formula (selects request attr value))) =
          found.filter fun value => (child :: rest).all (formula (selects request attr value)) := by
        rw [ValueSet.inter, ValueSet.filter_filter]
        refine ValueSet.filter_congr fun value member => ?_
        rw [List.all_cons, selected, ValueSet.contains_filter (inside value member)]
      rw [if_pos rfl, if_pos rfl, pure_bind, ← both]
      exact ih later fun value member => inside value (ValueSet.mem_inter.mp member).1

private theorem selectAny_follows {children : List Matcher} (each : ∀ child ∈ children, child.Follows request attr)
    (found : ValueSet) :
    selectAny request attr found children = do
      if ← runLeaves request attr (children.flatMap leaves) then
        return .values (attr.values.filter fun value =>
          found.contains value || children.any (formula (selects request attr value)))
      else return .undecided := by
  induction children generalizing found with
  | nil => simp [selectAny, runLeaves, ValueSet.inter]
  | cons child rest ih =>
    obtain ⟨here, later⟩ := List.forall_mem_cons.mp each
    rw [selectAny, here, List.flatMap_cons, runLeaves_append, bind_assoc, bind_assoc]
    refine bind_congr fun decided => ?_
    cases decided with
    | false => rfl
    | true =>
      have either : (attr.values.filter fun value =>
            (found.union (child.selected request attr)).contains value ||
              rest.any (formula (selects request attr value))) =
          attr.values.filter fun value =>
            found.contains value || (child :: rest).any (formula (selects request attr value)) := by
        refine ValueSet.filter_congr fun value member => ?_
        rw [List.any_cons, ← Bool.or_assoc, ValueSet.contains_union, selected, ValueSet.contains_filter member]
      rw [if_pos rfl, if_pos rfl, pure_bind, ← either]
      exact ih later _

theorem run_eq_runLeaves : ∀ matcher : Matcher, matcher.validate = .ok () → matcher.Follows request attr := by
  refine matcher_induction _ ?atom ?fromRule ?and ?or ?not
  case atom => exact fun component leaf _ => follows_of_leaf request attr trivial
  case fromRule => exact fun component rule _ => follows_of_leaf request attr trivial
  case and =>
    intro component children ih valid
    obtain ⟨ready, parts⟩ := bind_isOk_iff.mp valid
    have each child member := ih child member (validateMatchers_isOk_iff.mp parts child member)
    rw [Follows, run, usable_bind ready, leaves, leavesOfAll_eq]
    cases children with
    | nil =>
      have noneSelected : (and component []).selected request attr = ∅ := ValueSet.filter_eq_empty fun _ _ => rfl
      simp [runLeaves, noneSelected]
    | cons child rest =>
      rw [List.isEmpty_cons, if_neg Bool.false_ne_true, selectAll_follows request attr each fun _ member => member]
      simp [selected, formula, formulaOfAll_eq]
  case or =>
    intro component children ih valid
    obtain ⟨ready, parts⟩ := bind_isOk_iff.mp valid
    have each child member := ih child member (validateMatchers_isOk_iff.mp parts child member)
    rw [Follows, run, usable_bind ready, leaves, leavesOfAll_eq, selectAny_follows request attr each]
    simp [selected, formula, formulaOfAny_eq, ValueSet.contains]
  case not =>
    intro component child ih valid
    obtain ⟨ready, part⟩ := bind_isOk_iff.mp valid
    rw [Follows, run, usable_bind ready, ih part, bind_assoc, leaves]
    refine bind_congr fun decided => ?_
    cases decided with
    | false => rfl
    | true =>
      have rest : attr.values.diff (child.selected request attr) = (not component child).selected request attr := by
        refine ValueSet.filter_congr fun value member => ?_
        rw [formula, selected, ValueSet.contains_filter member]
      rw [if_pos rfl, if_pos rfl, pure_bind]
      exact congrArg (fun kept => pure (Selection.values kept)) rest

variable {request attr}

theorem runLeaves_of_decided {found : List Matcher} (decided : ∀ leaf ∈ found, leaf.Decides request attr) :
    (runLeaves request attr found).run = ⟨.ok true, found.flatMap (calls request attr)⟩ := by
  induction found with
  | nil => rfl
  | cons leaf rest ih =>
    obtain ⟨⟨selected, here⟩, later⟩ := List.forall_mem_cons.mp decided
    change (leaf.run request attr).run.value = .ok (.values selected) at here
    replace ih := ih later
    rw [runLeaves, ExceptT.run_bind]
    refine Traced.ext ?_ ?_
    · rw [Traced.value_bind, here]
      simp only [ih]
    · rw [Traced.calls_bind, here, List.flatMap_cons]
      simp only [ih]
      rfl

theorem runLeaves_of_undecided {leaf : Matcher} (stuck : ¬ leaf.Decides request attr) (right : List Matcher) :
    (runLeaves request attr (leaf :: right)).run =
      ⟨(leaf.select request attr).map fun _ => false, leaf.calls request attr⟩ := by
  have outcome : (leaf.run request attr).run.value = leaf.select request attr := rfl
  rw [runLeaves, ExceptT.run_bind]
  refine Traced.ext ?_ ?_
  · rw [Traced.value_bind, outcome]
    rcases found : leaf.select request attr with error | (selected | _)
    · rfl
    · exact absurd ⟨selected, found⟩ stuck
    · rfl
  · rw [Traced.calls_bind, outcome]
    rcases found : leaf.select request attr with error | (selected | _)
    · exact List.append_nil _
    · exact absurd ⟨selected, found⟩ stuck
    · exact List.append_nil _

theorem run_of_decided {matcher : Matcher} (valid : matcher.validate = .ok ())
    (decided : ∀ leaf ∈ matcher.leaves, leaf.Decides request attr) :
    (matcher.run request attr).run =
      ⟨.ok (.values (matcher.selected request attr)), matcher.leaves.flatMap (calls request attr)⟩ := by
  rw [run_eq_runLeaves request attr matcher valid, ExceptT.run_bind, runLeaves_of_decided decided]
  exact Traced.ext rfl (List.append_nil _)

theorem run_of_undecided {matcher : Matcher} (valid : matcher.validate = .ok ()) {left right : List Matcher}
    {leaf : Matcher} (split : matcher.leaves = left ++ leaf :: right)
    (decided : ∀ earlier ∈ left, earlier.Decides request attr) (stuck : ¬ leaf.Decides request attr) :
    (matcher.run request attr).run = ⟨leaf.select request attr, (left ++ [leaf]).flatMap (calls request attr)⟩ := by
  have leftRun := runLeaves_of_decided decided
  have leafRun := runLeaves_of_undecided stuck right
  have together : (runLeaves request attr (left ++ leaf :: right)).run =
      ⟨(leaf.select request attr).map fun _ => false, (left ++ [leaf]).flatMap (calls request attr)⟩ := by
    rw [runLeaves_append, ExceptT.run_bind, leftRun]
    refine Traced.ext ?_ ?_
    · simp only [Traced.value_bind, if_true, leafRun]
    · simp only [Traced.calls_bind, if_true, leafRun, List.flatMap_append, List.flatMap_singleton]
  rw [run_eq_runLeaves request attr matcher valid, ExceptT.run_bind, split, together]
  rcases found : leaf.select request attr with error | (selected | _)
  · exact Traced.ext rfl (List.append_nil _)
  · exact absurd ⟨selected, found⟩ stuck
  · exact Traced.ext rfl (List.append_nil _)

theorem select_eq_error_iff {matcher : Matcher} (valid : matcher.validate = .ok ()) {error : FilterError} :
    matcher.select request attr = .error error ↔
      ∃ left leaf right, matcher.leaves = left ++ leaf :: right ∧ (∀ earlier ∈ left, earlier.Decides request attr) ∧
        leaf.select request attr = .error error := by
  constructor
  · intro failed
    by_cases every : ∀ leaf ∈ matcher.leaves, leaf.Decides request attr
    · have selected := congrArg Traced.value (run_of_decided valid every)
      cases failed.symm.trans selected
    · classical
      have someStuck : (matcher.leaves.find? fun leaf => ¬ leaf.Decides request attr).isSome = true := by
        simpa using every
      obtain ⟨leaf, found⟩ := Option.isSome_iff_exists.mp someStuck
      obtain ⟨stuck, left, right, split, before⟩ := List.find?_eq_some_iff_append.mp found
      have decided : ∀ earlier ∈ left, earlier.Decides request attr := by simpa using before
      have ended := congrArg Traced.value (run_of_undecided valid split decided (by simpa using stuck))
      exact ⟨left, leaf, right, split, decided, ended.symm.trans failed⟩
  · rintro ⟨left, leaf, right, split, decided, failed⟩
    have stuck : ¬ leaf.Decides request attr := by
      rintro ⟨selected, decided⟩
      cases failed.symm.trans decided
    exact (congrArg Traced.value (run_of_undecided valid split decided stuck)).trans failed

/-- How a leaf ends without a decision: it asks a rule that is undecided, or it is a predicate or a script
that has no answer for a value. -/
inductive Indecision (request : Request) (attr : Attribute) : Matcher → Except FilterError Selection → Prop where
  | rule (component : Component) {rule : Rule} (undecided : rule.evaluate request = .undecided) :
      Indecision request attr (.fromRule component rule) (.ok .undecided)
  | predicate (component : Component) (predicate : ValuePredicate) (message : String) :
      Indecision request attr (.atom component (.ofPredicate predicate))
        (.error (.predicate component.id attr.id message))
  | script (component : Component) (script : Script) (message : String) :
      Indecision request attr (.atom component (.ofScript script)) (.error (.predicate component.id attr.id message))

theorem leaf_of_mem_leaves : ∀ matcher : Matcher, matcher.validate = .ok () → ∀ leaf ∈ matcher.leaves,
    leaf.IsLeaf ∧ leaf.validate = .ok () := by
  refine matcher_induction _ ?atom ?fromRule ?and ?or ?not
  case atom | fromRule =>
    intro component inner valid leaf member
    cases List.mem_singleton.mp member
    exact ⟨trivial, valid⟩
  case and | or =>
    intro component children ih valid leaf member
    rw [leaves, leavesOfAll_eq, List.mem_flatMap] at member
    obtain ⟨child, inside, member⟩ := member
    exact ih child inside (validateMatchers_isOk_iff.mp (bind_isOk_iff.mp valid).2 child inside) leaf member
  case not => exact fun component child ih valid => ih (bind_isOk_iff.mp valid).2

theorem indecision_of_leaf {leaf : Matcher} (alone : leaf.IsLeaf) (valid : leaf.validate = .ok ())
    (stuck : ¬ leaf.Decides request attr) : Indecision request attr leaf (leaf.select request attr) := by
  rw [Decides] at stuck
  cases leaf with
  | fromRule component rule =>
    rw [select_fromRule, guarded_of_usable (bind_isOk_iff.mp valid).1] at stuck ⊢
    cases outcome : rule.evaluate request with
    | undecided => exact .rule component outcome
    | yes | no => exact absurd ⟨_, by rw [outcome]⟩ stuck
  | atom component inner =>
    rw [select_atom, guarded_of_usable valid] at stuck ⊢
    cases sifted : sift (.predicate component.id attr.id) (inner.answer request attr) attr.values.toList with
    | ok kept => exact absurd ⟨_, by rw [sifted]; rfl⟩ stuck
    | error error =>
      obtain ⟨_, _, _, message, _, _, answered, rfl⟩ := sift_eq_error_iff.mp sifted
      cases inner with
      | ofCondition condition => cases answered
      | ofPredicate predicate => exact .predicate component predicate message
      | ofScript script => exact .script component script message
  | and | or | not => cases alone

end

/-- The same matcher up to the order of children, at any depth. -/
inductive Reordered : Matcher → Matcher → Prop where
  | and (component : Component) {children others : List Matcher} (same : children.Perm others) :
      Reordered (.and component children) (.and component others)
  | or (component : Component) {children others : List Matcher} (same : children.Perm others) :
      Reordered (.or component children) (.or component others)
  | insideAnd (component : Component) (left right : List Matcher) {child other : Matcher}
      (inner : Reordered child other) :
      Reordered (.and component (left ++ child :: right)) (.and component (left ++ other :: right))
  | insideOr (component : Component) (left right : List Matcher) {child other : Matcher}
      (inner : Reordered child other) :
      Reordered (.or component (left ++ child :: right)) (.or component (left ++ other :: right))
  | insideNot (component : Component) {child other : Matcher} (inner : Reordered child other) :
      Reordered (.not component child) (.not component other)
  | trans {first second third : Matcher} (before : Reordered first second) (after : Reordered second third) :
      Reordered first third

namespace Reordered

variable {matcher other : Matcher}

theorem formula_eq (reordered : matcher.Reordered other) (leaf : Matcher → Bool) :
    other.formula leaf = matcher.formula leaf := by
  induction reordered with
  | and component same => rw [formula, formula, formulaOfAll_eq, formulaOfAll_eq, same.all_eq, same.isEmpty_eq]
  | or component same => rw [formula, formula, formulaOfAny_eq, formulaOfAny_eq, same.any_eq]
  | insideAnd component left right inner ih => cases left <;> simp [formula, formulaOfAll_eq, ih]
  | insideOr component left right inner ih => simp [formula, formulaOfAny_eq, ih]
  | insideNot component inner ih => rw [formula, formula, ih]
  | trans before after first second => rw [second, first]

theorem leaves_perm (reordered : matcher.Reordered other) : other.leaves.Perm matcher.leaves := by
  induction reordered with
  | and component same | or component same =>
    rw [leaves, leaves, leavesOfAll_eq, leavesOfAll_eq]
    exact same.symm.flatMap_right leaves
  | insideAnd component left right inner ih | insideOr component left right inner ih =>
    simp only [leaves, leavesOfAll_eq, List.flatMap_append, List.flatMap_cons]
    exact (ih.append_right _).append_left _
  | insideNot component inner ih => exact ih
  | trans before after first second => exact second.trans first

theorem validate (reordered : matcher.Reordered other) (valid : matcher.validate = .ok ()) :
    other.validate = .ok () := by
  induction reordered with
  | and component same | or component same =>
    obtain ⟨ready, parts⟩ := bind_isOk_iff.mp valid
    refine bind_isOk_iff.mpr ⟨ready, validateMatchers_isOk_iff.mpr fun child member => ?_⟩
    exact validateMatchers_isOk_iff.mp parts child (same.mem_iff.mpr member)
  | insideAnd component left right inner ih | insideOr component left right inner ih =>
    obtain ⟨ready, parts⟩ := bind_isOk_iff.mp valid
    obtain ⟨before, here, after⟩ := by
      simpa only [List.forall_mem_append, List.forall_mem_cons] using validateMatchers_isOk_iff.mp parts
    refine bind_isOk_iff.mpr ⟨ready, validateMatchers_isOk_iff.mpr ?_⟩
    simpa only [List.forall_mem_append, List.forall_mem_cons] using ⟨before, ih here, after⟩
  | insideNot component inner ih =>
    obtain ⟨ready, part⟩ := bind_isOk_iff.mp valid
    exact bind_isOk_iff.mpr ⟨ready, ih part⟩
  | trans before after first second => exact second (first valid)

end Reordered

/-- A matcher whose leaves all decide selects, in the order of the attribute, the values for which its formula
holds, in whatever order the children stand. Otherwise the leftmost leaf that does not decide is the outcome of
the whole, and only the leaves up to it are run. -/
theorem select_follows_leaves (matcher : Matcher) (valid : matcher.validate = .ok ()) (request : Request)
    (attr : Attribute) :
    ((∀ leaf ∈ matcher.leaves, leaf.Decides request attr) →
      matcher.select request attr =
          .ok (.values (attr.values.filter fun value => matcher.formula (selects request attr value))) ∧
        matcher.calls request attr = matcher.leaves.flatMap (calls request attr) ∧
        ∀ other, matcher.Reordered other → other.select request attr = matcher.select request attr) ∧
    ∀ left leaf right, matcher.leaves = left ++ leaf :: right →
      (∀ earlier ∈ left, earlier.Decides request attr) → ¬ leaf.Decides request attr →
        matcher.select request attr = leaf.select request attr ∧
        Indecision request attr leaf (matcher.select request attr) ∧
        matcher.calls request attr = (left ++ [leaf]).flatMap (calls request attr) := by
  constructor
  · intro decided
    have here := run_of_decided valid decided
    refine ⟨congrArg Traced.value here, congrArg Traced.calls here, fun other reordered => ?_⟩
    have there := run_of_decided (reordered.validate valid) fun leaf member =>
      decided leaf (reordered.leaves_perm.mem_iff.mp member)
    have same : other.selected request attr = matcher.selected request attr :=
      ValueSet.filter_congr fun value _ => reordered.formula_eq (selects request attr value)
    rw [select, select, here, there, same]
  · intro left leaf right split decided stuck
    have here := run_of_undecided valid split decided stuck
    have settled : matcher.select request attr = leaf.select request attr := by rw [select, here]
    obtain ⟨alone, usable⟩ := leaf_of_mem_leaves matcher valid leaf (by simp [split])
    exact ⟨settled, settled ▸ indecision_of_leaf alone usable stuck, congrArg Traced.calls here⟩

end Matcher

end

attribute [local instance] Regex.language

namespace Matcher

/-- Addresses for business, unless the shop asks. What is `last` comes after that. -/
def businessMatcher (last : List Matcher) : Matcher :=
  let node (id : String) : Component := ⟨id, .initialised⟩
  let listed : ValuePredicate := ⟨"listed", fun _ _ value => .ok (value == .string "office")⟩
  .and (node "and") ([
    .or (node "or") [
      .atom (node "value") (.ofCondition (.value { value := "work" })),
      .atom (node "listed") (.ofPredicate listed)],
    .not (node "not") (.fromRule (node "from-rule")
      (.atom (node "requester") (.ofCondition (.requester { value := "shop" }))))] ++ last)

def brokenMatcher : Matcher :=
  .atom ⟨"broken", .initialised⟩ (.ofPredicate ⟨"broken", fun _ _ _ => .error "out of order"⟩)

def addresses : Attribute :=
  { id := "mail", values := .ofList [.string "home", .string "office", .string "work"] }

/-- A bank gets both addresses for business. Of a requester that is not known, the matcher is undecided, and the
predicate that is broken is not called. -/
theorem select_follows_leaves_business :
    let bank : Request := .ofAttributes { requestTime := .epoch, requester := some "bank" } [addresses]
    let unknown : Request := .ofAttributes { requestTime := .epoch } [addresses]
    (businessMatcher []).validate = .ok () ∧ (businessMatcher [brokenMatcher]).validate = .ok () ∧
      (businessMatcher []).select bank addresses = .ok (.values (.ofList [.string "office", .string "work"])) ∧
      (∀ other, (businessMatcher []).Reordered other →
        other.select bank addresses = .ok (.values (.ofList [.string "office", .string "work"]))) ∧
      (businessMatcher [brokenMatcher]).select unknown addresses = .ok .undecided ∧
      (businessMatcher [brokenMatcher]).calls unknown addresses = ["listed", "listed", "listed"] := by
  intro bank unknown
  have decided : ∀ leaf ∈ (businessMatcher []).leaves, leaf.Decides bank addresses := by
    simp only [businessMatcher, leaves, leavesOfAll, List.append_nil, List.nil_append, List.cons_append,
      List.forall_mem_cons]
    exact ⟨⟨_, rfl⟩, ⟨_, rfl⟩, ⟨_, rfl⟩, nofun⟩
  obtain ⟨selected, _, order⟩ := (select_follows_leaves (businessMatcher []) rfl bank addresses).1 decided
  have values : (businessMatcher []).select bank addresses =
      .ok (.values (.ofList [.string "office", .string "work"])) := selected.trans rfl
  have split : (businessMatcher [brokenMatcher]).leaves =
      (businessMatcher []).leaves.take 2 ++ (businessMatcher []).leaves[2] :: [brokenMatcher] := rfl
  obtain ⟨settled, _, called⟩ := (select_follows_leaves (businessMatcher [brokenMatcher]) rfl unknown addresses).2
    _ _ _ split
    (by
      simp only [businessMatcher, leaves, leavesOfAll, List.append_nil, List.nil_append, List.cons_append, List.take,
        List.forall_mem_cons]
      exact ⟨⟨_, rfl⟩, ⟨_, rfl⟩, nofun⟩)
    (by
      rintro ⟨_, impossible⟩
      cases impossible)
  exact ⟨rfl, rfl, values, fun other reordered => (order other reordered).trans values, settled.trans rfl,
    called.trans rfl⟩

end Matcher

end AttributeRelease
