import AttributeRelease.Proofs.Calls
import AttributeRelease.Proofs.Compositions
import AttributeRelease.Regex.Language

/-! Conjunction and disjunction are duals, with all that is cut short in them. So a rule can be brought into
a form in which negations stand at the leaves only, and it still runs as it did: with the same outcome, by the same
calls in the same order. -/

namespace AttributeRelease

namespace Traced

/-- Runs computations in order while they give an outcome. The first other outcome ends that. -/
def chain (goOn : Tristate) : List (Traced Tristate) → Traced Tristate
  | [] => return goOn
  | first :: rest => do
    let outcome ← first
    if outcome = goOn then chain goOn rest else return outcome

theorem chain_append (goOn : Tristate) (first second : List (Traced Tristate)) :
    chain goOn (first ++ second) = do
      let outcome ← chain goOn first
      if outcome = goOn then chain goOn second else return outcome := by
  induction first with
  | nil => simp [chain]
  | cons run rest ih =>
    simp only [List.cons_append, chain, bind_assoc]
    refine bind_congr fun outcome => ?_
    split
    next met => exact ih
    next other => simp [other]

@[simp] theorem chain_singleton (goOn : Tristate) (run : Traced Tristate) : chain goOn [run] = run := by
  refine bind_eq_self ?_
  split
  next met => rw [met]; rfl
  next other => rfl

/-- A part that goes on at the same outcome can be spliced in. -/
theorem chain_flatMap {α : Type} (goOn : Tristate) (parts : α → List (Traced Tristate)) (items : List α) :
    chain goOn (items.flatMap parts) = chain goOn (items.map fun item => chain goOn (parts item)) := by
  induction items with
  | nil => rfl
  | cons item rest ih =>
    rw [List.flatMap_cons, chain_append, List.map_cons, chain, ih]

theorem negate_chain (goOn : Tristate) (runs : List (Traced Tristate)) :
    Tristate.negate <$> chain goOn runs = chain goOn.negate (runs.map (Tristate.negate <$> ·)) := by
  induction runs with
  | nil => rfl
  | cons run rest ih =>
    rw [List.map_cons, chain, chain, map_bind, bind_map_left]
    refine bind_congr fun outcome => ?_
    have met : outcome.negate = goOn.negate ↔ outcome = goOn :=
      ⟨fun same => by simpa using congrArg Tristate.negate same, congrArg Tristate.negate⟩
    rw [← ih]
    by_cases same : outcome = goOn
    · rw [if_pos same, if_pos (met.mpr same)]
    · rw [if_neg same, if_neg (mt met.mp same)]
      rfl

end Traced

namespace Rule

/-- A run, or the run with the opposite outcome. -/
def polar (negated : Bool) (run : Traced Tristate) : Traced Tristate := if negated then Tristate.negate <$> run else run

theorem polar_not (negated : Bool) (run : Traced Tristate) :
    polar (!negated) run = polar negated (Tristate.negate <$> run) := by
  cases negated with
  | true =>
    have twice : Tristate.negate <$> Tristate.negate <$> run = run := by
      rw [← comp_map]
      exact Traced.ext (Tristate.negate_negate run.value) (List.append_nil run.calls)
    exact twice.symm
  | false => rfl

theorem polar_chain (negated goOn : Bool) (runs : List (Traced Tristate)) :
    polar negated (Traced.chain (.ofBool goOn) runs) =
      Traced.chain (.ofBool (negated ^^ goOn)) (runs.map (polar negated)) := by
  cases negated with
  | true =>
    have dual : (Tristate.ofBool goOn).negate = .ofBool (!goOn) := by cases goOn <;> rfl
    rw [polar, if_pos rfl, Traced.negate_chain, dual, Bool.true_xor]
    rfl
  | false =>
    rw [Bool.false_xor]
    exact congrArg (Traced.chain _) (List.map_id' runs).symm

private theorem idle_new (id : String) : (Component.mk id .uninitialised).isInitialised = false :=
  Component.idle_of_fresh rfl

end Rule

section

variable [PatternLanguage]

namespace Rule

theorem runAll_eq (request : Request) (children : List Rule) :
    runAll request children = Traced.chain .yes (children.map (run request)) := by
  induction children with
  | nil => rfl
  | cons child rest ih =>
    rw [runAll, List.map_cons, Traced.chain, ih]
    refine bind_congr fun outcome => ?_
    cases outcome <;> rfl

theorem runAny_eq (request : Request) (children : List Rule) :
    runAny request children = Traced.chain .no (children.map (run request)) := by
  induction children with
  | nil => rfl
  | cons child rest ih =>
    rw [runAny, List.map_cons, Traced.chain, ih]
    refine bind_congr fun outcome => ?_
    cases outcome <;> rfl

mutual
/-- What a rule does if its compositions are ready for use. -/
def meaning (request : Request) : Rule → Traced Tristate
  | .atom component leaf => (Rule.atom component leaf).run request
  | .and _ children => Traced.chain .yes (meanings request children)
  | .or _ children => Traced.chain .no (meanings request children)
  | .not _ child => Tristate.negate <$> child.meaning request
  | .attributeMatches component attributeId matcher => (Rule.attributeMatches component attributeId matcher).run request

def meanings (request : Request) : List Rule → List (Traced Tristate)
  | [] => []
  | rule :: rest => rule.meaning request :: meanings request rest
end

theorem meanings_eq (request : Request) (rules : List Rule) : meanings request rules = rules.map (meaning request) := by
  induction rules with
  | nil => rfl
  | cons rule rest ih => rw [meanings, ih, List.map_cons]

theorem run_and {component : Component} (ready : component.ensureUsable = .ok ()) (request : Request)
    (children : List Rule) :
    (Rule.and component children).run request = Traced.chain .yes (children.map (run request)) := by
  rw [run, if_pos (Component.isInitialised_iff.mpr ready), runAll_eq]

theorem run_or {component : Component} (ready : component.ensureUsable = .ok ()) (request : Request)
    (children : List Rule) :
    (Rule.or component children).run request = Traced.chain .no (children.map (run request)) := by
  rw [run, if_pos (Component.isInitialised_iff.mpr ready), runAny_eq]

theorem run_not {component : Component} (ready : component.ensureUsable = .ok ()) (request : Request) (child : Rule) :
    (Rule.not component child).run request = Tristate.negate <$> child.run request := by
  rw [run, if_pos (Component.isInitialised_iff.mpr ready)]
  rfl

theorem run_eq_meaning (request : Request) : ∀ rule : Rule, rule.validate = .ok () →
    rule.run request = rule.meaning request := by
  refine rule_induction _ ?atom ?and ?or ?not ?attributeMatches
  case atom => exact fun _ _ _ => rfl
  case and | or =>
    intro component children ih valid
    obtain ⟨ready, parts⟩ := bind_isOk_iff.mp valid
    have same : children.map (run request) = children.map (meaning request) :=
      List.map_congr_left fun child member => ih child member (validateRules_isOk_iff.mp parts child member)
    simp only [run_and ready, run_or ready, meaning, meanings_eq, same]
  case not =>
    intro component child ih valid
    obtain ⟨ready, part⟩ := bind_isOk_iff.mp valid
    rw [run_not ready, ih part, meaning]
  case attributeMatches => exact fun _ _ _ _ => rfl

def parts (conjunctive : Bool) : Rule → List Rule
  | .and component children => if conjunctive then children else [.and component children]
  | .or component children => if conjunctive then [.or component children] else children
  | rule => [rule]

def composition (conjunctive : Bool) (children : List Rule) : Rule :=
  if conjunctive then .allOf children else .anyOf children

/-- A conjunction or disjunction into which children of its own kind are spliced. -/
def compose (conjunctive : Bool) (children : List Rule) : Rule :=
  composition conjunctive (children.flatMap (parts conjunctive))

def literal (negated : Bool) (leaf : Rule) : Rule := if negated then .negation leaf else leaf

mutual
/-- The form of a rule, or of its negation, in which negations stand at the leaves only and no composition is
part of another one of its kind. -/
def normalForm (negated : Bool) : Rule → Rule
  | .atom component leaf => literal negated (.atom component leaf)
  | .and _ children => compose (!negated) (normalForms negated children)
  | .or _ children => compose negated (normalForms negated children)
  | .not _ child => child.normalForm (!negated)
  | .attributeMatches component attributeId matcher => literal negated (.attributeMatches component attributeId matcher)

def normalForms (negated : Bool) : List Rule → List Rule
  | [] => []
  | rule :: rest => rule.normalForm negated :: normalForms negated rest
end

theorem normalForms_eq (negated : Bool) (rules : List Rule) :
    normalForms negated rules = rules.map (normalForm negated) := by
  induction rules with
  | nil => rfl
  | cons rule rest ih => rw [normalForms, ih, List.map_cons]

def IsLeaf : Rule → Prop
  | .atom _ _ => True
  | .attributeMatches _ _ _ => True
  | _ => False

def isComposition (conjunctive : Bool) : Rule → Bool
  | .and _ _ => conjunctive
  | .or _ _ => !conjunctive
  | _ => false

/-- Negations stand at leaves only, and no composition is part of another one of its kind. -/
inductive IsNormal : Rule → Prop where
  | leaf {rule : Rule} (alone : rule.IsLeaf) : IsNormal rule
  | not (component : Component) {leaf : Rule} (alone : leaf.IsLeaf) : IsNormal (.not component leaf)
  | and (component : Component) {children : List Rule} (each : ∀ child ∈ children, IsNormal child)
      (spliced : ∀ child ∈ children, child.isComposition true = false) : IsNormal (.and component children)
  | or (component : Component) {children : List Rule} (each : ∀ child ∈ children, IsNormal child)
      (spliced : ∀ child ∈ children, child.isComposition false = false) : IsNormal (.or component children)

theorem IsNormal.parts {rule : Rule} (normal : rule.IsNormal) (conjunctive : Bool) :
    ∀ part ∈ rule.parts conjunctive, part.IsNormal ∧ part.isComposition conjunctive = false := by
  have itself (other : rule.isComposition conjunctive = false) :
      ∀ part ∈ [rule], part.IsNormal ∧ part.isComposition conjunctive = false :=
    List.forall_mem_singleton.mpr ⟨normal, other⟩
  cases normal with
  | leaf alone =>
    cases rule with
    | atom | attributeMatches => exact itself rfl
    | and | or | not => cases alone
  | not component alone => exact itself rfl
  | and component each spliced =>
    cases conjunctive with
    | true => exact fun part member => ⟨each part member, spliced part member⟩
    | false => exact itself rfl
  | or component each spliced =>
    cases conjunctive with
    | true => exact itself rfl
    | false => exact fun part member => ⟨each part member, spliced part member⟩

theorem isNormal_compose (conjunctive : Bool) {children : List Rule} (normal : ∀ child ∈ children, child.IsNormal) :
    (compose conjunctive children).IsNormal := by
  have spliced : ∀ part ∈ children.flatMap (parts conjunctive), part.IsNormal ∧ part.isComposition conjunctive = false :=
    List.forall_mem_flatMap.mpr fun child member => (normal child member).parts conjunctive
  cases conjunctive with
  | true => exact .and _ (fun part member => (spliced part member).1) fun part member => (spliced part member).2
  | false => exact .or _ (fun part member => (spliced part member).1) fun part member => (spliced part member).2

theorem isNormal_literal (negated : Bool) {leaf : Rule} (alone : leaf.IsLeaf) : (literal negated leaf).IsNormal := by
  cases negated with
  | true => exact .not _ alone
  | false => exact .leaf alone

theorem isNormal_normalForm : ∀ (rule : Rule) (negated : Bool), (rule.normalForm negated).IsNormal := by
  refine rule_induction _ ?atom ?and ?or ?not ?attributeMatches
  case atom => exact fun _ _ negated => isNormal_literal negated trivial
  case and | or =>
    intro component children ih negated
    rw [normalForm, normalForms_eq]
    exact isNormal_compose _ (List.forall_mem_map.mpr fun child member => ih child member negated)
  case not => exact fun component child ih negated => ih (!negated)
  case attributeMatches => exact fun _ _ _ negated => isNormal_literal negated trivial

theorem chain_parts (conjunctive : Bool) (request : Request) (rule : Rule) :
    Traced.chain (.ofBool conjunctive) ((rule.parts conjunctive).map (meaning request)) = rule.meaning request := by
  cases rule with
  | and component children =>
    cases conjunctive with
    | true => rw [meaning, meanings_eq]; rfl
    | false => exact Traced.chain_singleton ..
  | or component children =>
    cases conjunctive with
    | true => exact Traced.chain_singleton ..
    | false => rw [meaning, meanings_eq]; rfl
  | atom | not | attributeMatches => exact Traced.chain_singleton ..

theorem meaning_composition (conjunctive : Bool) (request : Request) (children : List Rule) :
    (composition conjunctive children).meaning request =
      Traced.chain (.ofBool conjunctive) (children.map (meaning request)) := by
  rw [← meanings_eq]
  cases conjunctive <;> rfl

theorem meaning_compose (conjunctive : Bool) (request : Request) (children : List Rule) :
    (compose conjunctive children).meaning request =
      Traced.chain (.ofBool conjunctive) (children.map (meaning request)) := by
  rw [compose, meaning_composition, List.map_flatMap, Traced.chain_flatMap]
  simp only [chain_parts]

theorem meaning_literal (negated : Bool) (request : Request) (leaf : Rule) :
    (literal negated leaf).meaning request = polar negated (leaf.meaning request) := by
  cases negated <;> rfl

private theorem meaning_compose_normalForms {request : Request} {children : List Rule} {negated : Bool}
    (each : ∀ child ∈ children, (child.normalForm negated).meaning request = polar negated (child.meaning request))
    (goOn : Bool) :
    (compose (negated ^^ goOn) (normalForms negated children)).meaning request =
      polar negated (Traced.chain (.ofBool goOn) (meanings request children)) := by
  have parts : (children.map (normalForm negated)).map (meaning request) =
      (children.map (meaning request)).map (polar negated) := by
    rw [List.map_map, List.map_map]
    exact List.map_congr_left each
  rw [meaning_compose, normalForms_eq, parts, polar_chain, meanings_eq]

theorem meaning_normalForm (request : Request) : ∀ (rule : Rule) (negated : Bool),
    (rule.normalForm negated).meaning request = polar negated (rule.meaning request) := by
  refine rule_induction _ ?atom ?and ?or ?not ?attributeMatches
  case atom => exact fun _ _ negated => meaning_literal negated request _
  case and =>
    intro component children ih negated
    have parts := meaning_compose_normalForms (fun child member => ih child member negated) true
    rwa [Bool.xor_true] at parts
  case or =>
    intro component children ih negated
    have parts := meaning_compose_normalForms (fun child member => ih child member negated) false
    rwa [Bool.xor_false] at parts
  case not =>
    intro component child ih negated
    rw [normalForm, ih, polar_not, meaning]
  case attributeMatches => exact fun _ _ _ negated => meaning_literal negated request _

/-- Rules whose compositions are new, over leaves that are ready for use. -/
inductive Startable : Rule → Prop where
  | leaf {rule : Rule} (alone : rule.IsLeaf) (valid : rule.validate = .ok ()) : Startable rule
  | negation {child : Rule} (part : Startable child) : Startable (.negation child)
  | allOf {children : List Rule} (nonempty : children ≠ []) (each : ∀ child ∈ children, Startable child) :
      Startable (.allOf children)
  | anyOf {children : List Rule} (nonempty : children ≠ []) (each : ∀ child ∈ children, Startable child) :
      Startable (.anyOf children)

/-- Initialisation of a rule succeeds, and what it leaves does what the rule means. -/
structure Starts (rule : Rule) : Prop where
  finished : rule.initialise = .ok rule.initialise.left
  valid : rule.initialise.left.validate = .ok ()
  run : ∀ request, rule.initialise.left.run request = rule.meaning request

theorem Starts.of_eq {rule ready : Rule} (finished : rule.initialise = .ok ready) (valid : ready.validate = .ok ())
    (run : ∀ request, ready.run request = rule.meaning request) : rule.Starts := by
  have left : rule.initialise.left = ready := congrArg Attempt.left finished
  exact ⟨left ▸ finished, left ▸ valid, left ▸ run⟩

private theorem started_parts {children : List Rule} (each : ∀ child ∈ children, child.Starts) :
    initialiseRules children = .ok (children.map (·.initialise.left)) ∧
      validateRules (children.map (·.initialise.left)) = .ok () ∧
      ∀ request, (children.map (·.initialise.left)).map (run request) = meanings request children := by
  refine ⟨?_, ?_, fun request => ?_⟩
  · rw [initialiseRules_eq]
    exact Attempt.each_ok fun child member => (each child member).finished
  · exact validateRules_isOk_iff.mpr (List.forall_mem_map.mpr fun child member => (each child member).valid)
  · rw [List.map_map, meanings_eq]
    exact List.map_congr_left fun child member => (each child member).run request

theorem Startable.starts {rule : Rule} (startable : rule.Startable) : rule.Starts := by
  induction startable with
  | @leaf rule alone valid =>
    refine .of_eq ?_ valid fun request => run_eq_meaning request _ valid
    cases rule with
    | atom component leaf => rw [initialise, if_pos (Component.isInitialised_iff.mpr valid)]
    | attributeMatches component attributeId matcher =>
      rw [initialise, if_pos (Component.isInitialised_iff.mpr (bind_isOk_iff.mp valid).1)]
    | and | or | not => cases alone
  | @negation child part ih =>
    have finished : (Rule.negation child).initialise = .ok (.not ⟨"not", .initialised⟩ child.initialise.left) := by
      rw [Rule.negation, initialise, idle_new, if_neg Bool.false_ne_true, ih.finished]
      rfl
    refine .of_eq finished ih.valid fun request => ?_
    rw [run_not rfl, ih.run]
    rfl
  | @allOf children nonempty each ih =>
    obtain ⟨started, valid, runs⟩ := started_parts ih
    have finished : (Rule.allOf children).initialise =
        .ok (.and ⟨"and", .initialised⟩ (children.map (·.initialise.left))) := by
      rw [Rule.allOf, initialise, idle_new, if_neg Bool.false_ne_true, if_neg (by simpa using nonempty), started]
      rfl
    refine .of_eq finished valid fun request => ?_
    rw [run_and rfl, runs]
    rfl
  | @anyOf children nonempty each ih =>
    obtain ⟨started, valid, runs⟩ := started_parts ih
    have finished : (Rule.anyOf children).initialise =
        .ok (.or ⟨"or", .initialised⟩ (children.map (·.initialise.left))) := by
      rw [Rule.anyOf, initialise, idle_new, if_neg Bool.false_ne_true, if_neg (by simpa using nonempty), started]
      rfl
    refine .of_eq finished valid fun request => ?_
    rw [run_or rfl, runs]
    rfl

theorem Startable.parts {rule : Rule} (startable : rule.Startable) (conjunctive : Bool) :
    rule.parts conjunctive ≠ [] ∧ ∀ part ∈ rule.parts conjunctive, part.Startable := by
  have itself : [rule] ≠ [] ∧ ∀ part ∈ [rule], part.Startable :=
    ⟨List.cons_ne_nil rule [], List.forall_mem_singleton.mpr startable⟩
  cases startable with
  | leaf alone valid =>
    cases rule with
    | atom | attributeMatches => exact itself
    | and | or | not => cases alone
  | negation part => exact itself
  | allOf nonempty each =>
    cases conjunctive with
    | true => exact ⟨nonempty, each⟩
    | false => exact itself
  | anyOf nonempty each =>
    cases conjunctive with
    | true => exact itself
    | false => exact ⟨nonempty, each⟩

theorem startable_compose (conjunctive : Bool) {children : List Rule} (nonempty : children ≠ [])
    (startable : ∀ child ∈ children, child.Startable) : (compose conjunctive children).Startable := by
  have each : ∀ part ∈ children.flatMap (parts conjunctive), part.Startable :=
    List.forall_mem_flatMap.mpr fun child member => ((startable child member).parts conjunctive).2
  have some : children.flatMap (parts conjunctive) ≠ [] := by
    intro empty
    obtain ⟨child, member⟩ := List.exists_mem_of_ne_nil children nonempty
    exact ((startable child member).parts conjunctive).1 (List.flatMap_eq_nil_iff.mp empty child member)
  cases conjunctive with
  | true => exact .allOf some each
  | false => exact .anyOf some each

theorem startable_literal (negated : Bool) {leaf : Rule} (alone : leaf.IsLeaf) (valid : leaf.validate = .ok ()) :
    (literal negated leaf).Startable := by
  cases negated with
  | true => exact .negation (.leaf alone valid)
  | false => exact .leaf alone valid

theorem startable_normalForm : ∀ rule : Rule, rule.validate = .ok () → rule.Filled →
    ∀ negated, (rule.normalForm negated).Startable := by
  refine rule_induction _ ?atom ?and ?or ?not ?attributeMatches
  case atom => exact fun _ _ valid _ negated => startable_literal negated trivial valid
  case and | or =>
    intro component children ih valid filled negated
    obtain ⟨ready, parts⟩ := bind_isOk_iff.mp valid
    have nonempty : children ≠ [] := filled.1 (Component.isInitialised_iff.mpr ready)
    rw [normalForm, normalForms_eq]
    refine startable_compose _ (mt List.map_eq_nil_iff.mp nonempty) (List.forall_mem_map.mpr fun child member => ?_)
    exact ih child member (validateRules_isOk_iff.mp parts child member) (filledRules_iff.mp filled.2 child member) negated
  case not =>
    intro component child ih valid filled negated
    exact ih (bind_isOk_iff.mp valid).2 filled (!negated)
  case attributeMatches => exact fun _ _ _ valid _ negated => startable_literal negated trivial valid

/-- A rule that is ready for use can be brought into the form that has negations at the leaves only. The form can be
initialised, and then runs as the rule does: with the same outcome, by the same calls in the same order. -/
theorem normalForm_runs_alike {rule : Rule} (reached : rule.Reached) (valid : rule.validate = .ok ()) :
    (rule.normalForm false).IsNormal ∧
      ∃ ready, (rule.normalForm false).initialise.finished = .ok ready ∧ ready.validate = .ok () ∧
        ∀ request, ready.evaluate request = rule.evaluate request ∧
          (ready.run request).calls = (rule.run request).calls := by
  have starts := (startable_normalForm rule valid reached.filled false).starts
  refine ⟨isNormal_normalForm rule false, _, congrArg Attempt.finished starts.finished, starts.valid, fun request => ?_⟩
  have same : (rule.normalForm false).initialise.left.run request = rule.run request := by
    rw [starts.run, meaning_normalForm, run_eq_meaning request rule valid]
    rfl
  exact ⟨congrArg Traced.value same, congrArg Traced.calls same⟩

end Rule

end

attribute [local instance] Regex.language

namespace Rule

/-- Refuses an open shop whose request has expired, unless it is banned. -/
def shopRule : Rule :=
  let predicate (name : String) (answer : Except String Bool) : Rule := .ofLeaf (.ofPredicate ⟨name, fun _ => answer⟩)
  let shop : Rule := .ofLeaf (.ofCondition (.requester { value := "shop" }))
  let assembled : Rule := .negation (.allOf [.allOf [shop, predicate "open" (.ok true)],
    .negation (.anyOf [predicate "banned" (.ok false), .negation (predicate "expired" (.error "no clock"))])])
  assembled.initialise.left

/-- In the form all leaves stand side by side. One of them fails, and is called once and last in both. -/
theorem normalForm_runs_alike_shop :
    let shop : Request := .ofAttributes { requestTime := .epoch, requester := some "shop" } []
    shopRule.Reached ∧ shopRule.validate = .ok () ∧ shopRule.run shop = ⟨.undecided, ["open", "banned", "expired"]⟩ ∧
      ∃ ready, (shopRule.normalForm false).initialise.finished = .ok ready ∧
        ready.evaluate shop = .undecided ∧ (ready.run shop).calls = ["open", "banned", "expired"] := by
  intro shop
  have reached : shopRule.Reached := by
    refine .initialise (.negation (.allOf ?_))
    simp only [List.forall_mem_cons]
    refine ⟨.allOf ?_, .negation (.anyOf ?_), nofun⟩
    · simp only [List.forall_mem_cons]
      exact ⟨.leaf _, .leaf _, nofun⟩
    · simp only [List.forall_mem_cons]
      exact ⟨.leaf _, .negation (.leaf _), nofun⟩
  have ran : shopRule.run shop = ⟨.undecided, ["open", "banned", "expired"]⟩ := rfl
  obtain ⟨_, ready, finished, _, alike⟩ := normalForm_runs_alike reached rfl
  obtain ⟨outcome, calls⟩ := alike shop
  exact ⟨reached, rfl, ran, ready, finished, outcome.trans (congrArg Traced.value ran),
    calls.trans (congrArg Traced.calls ran)⟩

end Rule

end AttributeRelease
