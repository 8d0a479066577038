import AttributeRelease.Proofs.Attempts
import AttributeRelease.Proofs.Trees
import AttributeRelease.Proofs.Validity

/-! Initialisation goes down a tree, and stops at the nodes that are initialised already. It leaves
a valid tree behind, provided that all below such a node is valid. -/

namespace AttributeRelease

namespace Policy

theorem firstRepeated?_eq_some_iff {texts : List String} {text : String} :
    firstRepeated? [] texts = some text ↔
      ∃ before after, texts = before ++ text :: after ∧ before.Nodup ∧ text ∈ before := by
  -- A text counts as repeated also if it is among those seen earlier, so the induction is over these as well.
  have run (seen : List String) : firstRepeated? seen texts = some text ↔ ∃ before after,
      texts = before ++ text :: after ∧ before.Nodup ∧ (∀ other ∈ before, other ∉ seen) ∧
        (text ∈ before ∨ text ∈ seen) := by
    induction texts generalizing seen with
    | nil => simp [firstRepeated?]
    | cons first rest ih =>
      rw [firstRepeated?]
      split
      next old =>
        constructor
        · intro found
          cases found
          exact ⟨[], rest, rfl, List.nodup_nil, by simp, .inr old⟩
        · rintro ⟨before, after, split, _, fresh, _⟩
          cases before with
          | nil =>
            cases split
            rfl
          | cons other before =>
            cases split
            exact absurd old (fresh first (by simp))
      next new =>
        rw [ih]
        constructor
        · rintro ⟨before, after, rfl, distinct, fresh, repeats⟩
          have apart : first ∉ before := fun member => fresh first member (by simp)
          refine ⟨first :: before, after, rfl, List.nodup_cons.mpr ⟨apart, distinct⟩, ?_, ?_⟩
          · exact List.forall_mem_cons.mpr ⟨new, fun other member seen => fresh other member (by simp [seen])⟩
          · simpa [or_assoc, or_left_comm] using repeats
        · rintro ⟨before, after, split, distinct, fresh, repeats⟩
          cases before with
          | nil =>
            cases split
            simp [new] at repeats
          | cons other before =>
            cases split
            obtain ⟨apart, distinct⟩ := List.nodup_cons.mp distinct
            refine ⟨before, after, rfl, distinct, ?_, ?_⟩
            · intro text member seen
              rcases List.mem_cons.mp seen with rfl | seen
              · exact apart member
              · exact fresh text (by simp [member]) seen
            · simpa [or_assoc, or_left_comm] using repeats
  simpa using run []

theorem firstRepeated?_eq_none_iff {texts : List String} : firstRepeated? [] texts = none ↔ texts.Nodup := by
  have run (seen : List String) : firstRepeated? seen texts = none ↔ texts.Nodup ∧ ∀ text ∈ texts, text ∉ seen := by
    induction texts generalizing seen with
    | nil => simp [firstRepeated?]
    | cons text rest ih =>
      have apart : (∀ other ∈ rest, other ∉ text :: seen) ↔ text ∉ rest ∧ ∀ other ∈ rest, other ∉ seen := by
        simp only [List.mem_cons, not_or, forall_and]
        exact and_congr_left fun _ => ⟨fun others member => others text member rfl,
          fun absent other member same => absent (same ▸ member)⟩
      rw [firstRepeated?, List.nodup_cons, List.forall_mem_cons]
      split
      next old => simp [old]
      next new =>
        rw [ih, apart]
        simp only [new, not_false_eq_true, true_and, and_assoc, and_left_comm]
  exact (run []).trans (and_iff_left fun text _ => List.not_mem_nil)

end Policy

private theorem node_ensures {α β : Type} {sound valid : α → Prop} {always done : β → Prop} {component : Component}
    (idle : component.isInitialised = false) {parts : Attempt α} (inner : parts.Ensures sound valid)
    {build : Component → α → β}
    (soundNode : ∀ component parts, always (build component parts) ↔
      (component.isInitialised = true → valid parts) ∧ sound parts)
    (validNode : ∀ component parts, done (build component parts) ↔ component.ensureUsable = .ok () ∧ valid parts) :
    (parts.andThen (build component) fun parts => component.attempt (build · parts)).Ensures always done := by
  have stays (parts : α) (holds : sound parts) : always (build component parts) :=
    (soundNode component parts).mpr ⟨fun initialised => absurd initialised (Bool.eq_false_iff.mp idle), holds⟩
  refine inner.andThen stays fun parts holds ready => component.attempt_ensures (stays parts holds) ?_
  intro after usable
  exact ⟨(soundNode after parts).mpr ⟨fun _ => ready, holds⟩, (validNode after parts).mpr ⟨usable, ready⟩⟩

variable [PatternLanguage]

mutual
/-- Wherever a node of a rule is initialised, its parts are valid. -/
def Rule.Sound : Rule → Prop
  | .atom _ _ => True
  | .and component children =>
    (component.isInitialised = true → validateRules children = .ok ()) ∧ SoundRules children
  | .or component children =>
    (component.isInitialised = true → validateRules children = .ok ()) ∧ SoundRules children
  | .not component child => (component.isInitialised = true → child.validate = .ok ()) ∧ child.Sound
  | .attributeMatches component _ matcher =>
    (component.isInitialised = true → matcher.validate = .ok ()) ∧ matcher.Sound

def SoundRules : List Rule → Prop
  | [] => True
  | rule :: rest => rule.Sound ∧ SoundRules rest

def Matcher.Sound : Matcher → Prop
  | .atom _ _ => True
  | .fromRule component rule => (component.isInitialised = true → rule.validate = .ok ()) ∧ rule.Sound
  | .and component children =>
    (component.isInitialised = true → validateMatchers children = .ok ()) ∧ SoundMatchers children
  | .or component children =>
    (component.isInitialised = true → validateMatchers children = .ok ()) ∧ SoundMatchers children
  | .not component child => (component.isInitialised = true → child.validate = .ok ()) ∧ child.Sound

def SoundMatchers : List Matcher → Prop
  | [] => True
  | matcher :: rest => matcher.Sound ∧ SoundMatchers rest
end

theorem soundRules_iff {rules : List Rule} : SoundRules rules ↔ ∀ rule ∈ rules, rule.Sound := by
  induction rules with
  | nil => simp [SoundRules]
  | cons rule rest ih => rw [SoundRules, ih, List.forall_mem_cons]

theorem soundMatchers_iff {matchers : List Matcher} : SoundMatchers matchers ↔ ∀ matcher ∈ matchers, matcher.Sound := by
  induction matchers with
  | nil => simp [SoundMatchers]
  | cons matcher rest ih => rw [SoundMatchers, ih, List.forall_mem_cons]

theorem Rule.Sound.validate {rule : Rule} (sound : rule.Sound) (initialised : rule.component.isInitialised = true) :
    rule.validate = .ok () := by
  have usable := Component.isInitialised_iff.mp initialised
  cases rule with
  | atom component leaf => exact usable
  | and | or | not | attributeMatches => exact bind_isOk_iff.mpr ⟨usable, sound.1 initialised⟩

theorem Matcher.Sound.validate {matcher : Matcher} (sound : matcher.Sound)
    (initialised : matcher.component.isInitialised = true) : matcher.validate = .ok () := by
  have usable := Component.isInitialised_iff.mp initialised
  cases matcher with
  | atom component leaf => exact usable
  | fromRule | and | or | not => exact bind_isOk_iff.mpr ⟨usable, sound.1 initialised⟩

private theorem rules_ensure {rules : List Rule} (sound : SoundRules rules)
    (each : ∀ rule ∈ rules, rule.Sound → rule.initialise.Ensures Rule.Sound (·.validate = .ok ())) :
    (initialiseRules rules).Ensures SoundRules (validateRules · = .ok ()) := by
  have parts := soundRules_iff.mp sound
  obtain ⟨left, finished⟩ := Attempt.each_ensures parts fun rule member => each rule member (parts rule member)
  rw [initialiseRules_eq]
  exact ⟨soundRules_iff.mpr left, fun done => validateRules_isOk_iff.mpr (finished done)⟩

private theorem matchers_ensure {matchers : List Matcher} (sound : SoundMatchers matchers)
    (each : ∀ matcher ∈ matchers, matcher.Sound →
      matcher.initialise.Ensures Matcher.Sound (·.validate = .ok ())) :
    (initialiseMatchers matchers).Ensures SoundMatchers (validateMatchers · = .ok ()) := by
  have parts := soundMatchers_iff.mp sound
  obtain ⟨left, finished⟩ := Attempt.each_ensures parts fun matcher member => each matcher member (parts matcher member)
  rw [initialiseMatchers_eq]
  exact ⟨soundMatchers_iff.mpr left, fun done => validateMatchers_isOk_iff.mpr (finished done)⟩

/-- A sound tree that has been initialised is valid, and one that could not be is still sound. -/
theorem initialise_ensures :
    (∀ rule : Rule, rule.Sound → rule.initialise.Ensures Rule.Sound (·.validate = .ok ())) ∧
    ∀ matcher : Matcher, matcher.Sound → matcher.initialise.Ensures Matcher.Sound (·.validate = .ok ()) := by
  -- A node that is initialised already is not entered again: there only soundness tells that its parts are valid.
  refine tree_induction _ _ ?ruleAtom ?ruleAnd ?ruleOr ?ruleNot ?attributeMatches ?matcherAtom ?fromRule ?matcherAnd
    ?matcherOr ?matcherNot
  case ruleAtom =>
    intro component leaf sound
    rw [Rule.initialise]
    split
    next initialised => exact .of_ok sound (sound.validate initialised)
    next idle => exact component.attemptChecked_ensures _ trivial fun after usable => ⟨trivial, usable⟩
  case ruleAnd | ruleOr =>
    intro component children ih sound
    rw [Rule.initialise]
    split
    next initialised => exact .of_ok sound (sound.validate initialised)
    next idle =>
      split
      · exact .of_fail sound _
      · exact node_ensures (eq_false_of_ne_true idle) (rules_ensure sound.2 ih) (fun _ _ => Iff.rfl) fun _ _ =>
          bind_isOk_iff
  case ruleNot =>
    intro component child ih sound
    rw [Rule.initialise]
    split
    next initialised => exact .of_ok sound (sound.validate initialised)
    next idle => exact node_ensures (eq_false_of_ne_true idle) (ih sound.2) (fun _ _ => Iff.rfl) fun _ _ => bind_isOk_iff
  case attributeMatches =>
    intro component attributeId matcher ih sound
    rw [Rule.initialise]
    split
    next initialised => exact .of_ok sound (sound.validate initialised)
    next idle => exact node_ensures (eq_false_of_ne_true idle) (ih sound.2) (fun _ _ => Iff.rfl) fun _ _ => bind_isOk_iff
  case matcherAtom =>
    intro component leaf sound
    rw [Matcher.initialise]
    split
    next initialised => exact .of_ok sound (sound.validate initialised)
    next idle => exact component.attemptChecked_ensures _ trivial fun after usable => ⟨trivial, usable⟩
  case matcherAnd | matcherOr =>
    intro component children ih sound
    rw [Matcher.initialise]
    split
    next initialised => exact .of_ok sound (sound.validate initialised)
    next idle =>
      split
      · exact .of_fail sound _
      · exact node_ensures (eq_false_of_ne_true idle) (matchers_ensure sound.2 ih) (fun _ _ => Iff.rfl) fun _ _ =>
          bind_isOk_iff
  case fromRule | matcherNot =>
    intro component part ih sound
    rw [Matcher.initialise]
    split
    next initialised => exact .of_ok sound (sound.validate initialised)
    next idle => exact node_ensures (eq_false_of_ne_true idle) (ih sound.2) (fun _ _ => Iff.rfl) fun _ _ => bind_isOk_iff

namespace AttributeRule

theorem initialise_ensures {rule : AttributeRule} (sound : rule.matcher.Sound) :
    rule.initialise.Ensures (fun after => after.matcher.Sound)
      fun after => after.matcher.validate = .ok () ∧ Text.isBlank after.attributeId = false := by
  rw [initialise]
  split
  next blank => exact ⟨sound, fun finished => nomatch finished⟩
  next filled =>
    refine (AttributeRelease.initialise_ensures.2 rule.matcher sound).andThen (fun _ holds => holds) ?_
    intro matcher holds valid
    exact .of_ok holds ⟨valid, eq_false_of_ne_true filled⟩

theorem id_initialise (rule : AttributeRule) : rule.initialise.left.id = rule.id := by
  rw [initialise]
  split
  · rfl
  · generalize rule.matcher.initialise = attempt
    obtain ⟨matcher, error?⟩ := attempt
    cases error? <;> rfl

end AttributeRule

namespace Policy

theorem matchers_nameRules (policyId : String) (index : Nat) (rules : List AttributeRule) :
    (nameRules policyId index rules).map AttributeRule.matcher = rules.map AttributeRule.matcher := by
  induction rules generalizing index with
  | nil => rfl
  | cons rule rest ih => rw [nameRules, List.map_cons, List.map_cons, ih]

/-- What initialisation checks of a policy. -/
structure Checked (policy : Policy) : Prop where
  valid : policy.validate = .ok ()
  attributeIds : ∀ rule ∈ policy.rules, Text.isBlank rule.attributeId = false
  ruleIds : (policy.rules.map AttributeRule.id).Nodup

/-- A policy whose trees are sound, and which has been checked if it is initialised. -/
structure Sound (policy : Policy) : Prop where
  activation : policy.activation.Sound
  matchers : ∀ rule ∈ policy.rules, rule.matcher.Sound
  checked : policy.component.isInitialised = true → policy.Checked

theorem Sound.of_idle {policy : Policy} (idle : policy.component.isInitialised = false)
    (activation : policy.activation.Sound) (matchers : ∀ rule ∈ policy.rules, rule.matcher.Sound) : policy.Sound :=
  ⟨activation, matchers, fun initialised => absurd initialised (Bool.eq_false_iff.mp idle)⟩

theorem initialiseAttributeRules_ensures {rules : List AttributeRule} (sound : ∀ rule ∈ rules, rule.matcher.Sound) :
    (initialiseAttributeRules rules).Ensures
      (fun after => (∀ rule ∈ after, rule.matcher.Sound) ∧ after.map AttributeRule.id = rules.map AttributeRule.id)
      fun after => ∀ rule ∈ after, rule.matcher.validate = .ok () ∧ Text.isBlank rule.attributeId = false := by
  obtain ⟨left, finished⟩ := Attempt.each_ensures sound fun rule member => AttributeRule.initialise_ensures (sound rule member)
  rw [initialiseAttributeRules_eq]
  exact ⟨⟨left, Attempt.map_left_each fun rule _ => rule.id_initialise⟩, finished⟩

theorem initialise_of_initialised {policy : Policy} (initialised : policy.component.isInitialised = true) :
    policy.initialise = .ok policy := by
  rw [initialise, if_pos initialised]

theorem initialise_ensures {policy : Policy} (sound : policy.Sound) : policy.initialise.Ensures Sound Checked := by
  have matchers : ∀ rule ∈ nameRules policy.id 0 policy.rules, rule.matcher.Sound := by
    intro rule member
    have present := List.mem_map_of_mem (f := AttributeRule.matcher) member
    rw [matchers_nameRules] at present
    obtain ⟨given, inside, same⟩ := List.mem_map.mp present
    exact same ▸ sound.matchers given inside
  rw [initialise]
  split
  next initialised => exact .of_ok sound (sound.checked initialised)
  next idle =>
    have idle := eq_false_of_ne_true idle
    split
    · exact .of_fail sound _
    · dsimp only
      split
      next repeated => exact .of_fail (.of_idle idle sound.activation matchers) _
      next distinct =>
        refine (AttributeRelease.initialise_ensures.1 policy.activation sound.activation).andThen
          (fun activation holds => .of_idle idle holds matchers) fun activation holds valid => ?_
        refine (initialiseAttributeRules_ensures matchers).andThen (fun rules hold => .of_idle idle holds hold.1) ?_
        intro rules ⟨hold, same⟩ ready
        refine policy.component.attempt_ensures (.of_idle idle holds hold) fun after usable => ?_
        have checked : Checked { component := after, activation, rules } :=
          ⟨validate_isOk_iff.mpr ⟨usable, valid, fun rule member => (ready rule member).1⟩,
            fun rule member => (ready rule member).2, same ▸ firstRepeated?_eq_none_iff.mp distinct⟩
        exact ⟨⟨holds, hold, fun _ => checked⟩, checked⟩

end Policy

namespace Engine

theorem initialisePolicies_eq (policies : List Policy) :
    initialisePolicies policies = (policies.map (·.initialise.left),
      policies.filterMap fun policy => policy.initialise.error?.map (policy.id, ·)) := by
  induction policies with
  | nil => rfl
  | cons policy rest ih =>
    rw [initialisePolicies, ih, List.filterMap_cons]
    cases policy.initialise.error? <;> rfl

/-- What initialisation checks of an engine. -/
structure Checked (engine : Engine) : Prop where
  valid : engine.validate = .ok ()
  policies : ∀ policy ∈ engine.policies, policy.Checked

structure Sound (engine : Engine) : Prop where
  policies : ∀ policy ∈ engine.policies, policy.Sound
  checked : engine.component.isInitialised = true → engine.Checked

theorem Sound.of_idle {engine : Engine} (idle : engine.component.isInitialised = false)
    (policies : ∀ policy ∈ engine.policies, policy.Sound) : engine.Sound :=
  ⟨policies, fun initialised => absurd initialised (Bool.eq_false_iff.mp idle)⟩

theorem initialise_ensures {engine : Engine} (sound : engine.Sound) : engine.initialise.Ensures Sound Checked := by
  have ensured (policy : Policy) (member : policy ∈ engine.policies) :=
    Policy.initialise_ensures (sound.policies policy member)
  have left : ∀ policy ∈ engine.policies.map (·.initialise.left), policy.Sound :=
    List.forall_mem_map.mpr fun policy member => (ensured policy member).left
  rw [initialise]
  split
  next initialised => exact .of_ok sound (sound.checked initialised)
  next idle =>
    have idle := eq_false_of_ne_true idle
    split
    next repeated => exact .of_fail sound _
    next distinct =>
      rw [initialisePolicies_eq]
      dsimp only
      split
      next accepted =>
        refine engine.component.attempt_ensures (.of_idle idle left) fun after usable => ?_
        have ready : ∀ policy ∈ engine.policies.map (·.initialise.left), policy.Checked := by
          refine List.forall_mem_map.mpr fun policy member => (ensured policy member).finished ?_
          have notRefused := List.filterMap_eq_nil_iff.mp (List.isEmpty_iff.mp accepted) policy member
          exact Option.map_eq_none_iff.mp notRefused
        have checked : Checked { component := after, policies := engine.policies.map (·.initialise.left) } :=
          ⟨validate_isOk_iff.mpr ⟨usable, fun policy member => (ready policy member).valid⟩, ready⟩
        exact ⟨⟨left, fun _ => checked⟩, checked⟩
      next refused => exact .of_fail (.of_idle idle left) _

end Engine

theorem AttributeRule.error?_initialise (rule : AttributeRule) :
    rule.initialise.error? =
      if Text.isBlank rule.attributeId then some (.missing (.attributeIdOfRule rule.id)) else rule.matcher.initialise.error? := by
  rw [initialise]
  split
  · rfl
  · exact (Attempt.error?_andThen fun _ => rfl).trans (Option.or_none ..)

theorem Policy.error?_initialise {policy : Policy} (fresh : policy.component.phase = .uninitialised) :
    policy.initialise.error? =
      (if Text.isBlank policy.id then some (ConfigError.missing .policyId) else none).or
        (((firstRepeated? [] ((nameRules policy.id 0 policy.rules).map AttributeRule.id)).map
            (ConfigError.duplicateRule · policy.id)).or
          (policy.activation.initialise.error?.or
            ((nameRules policy.id 0 policy.rules).findSome? fun rule => rule.initialise.error?))) := by
  rw [initialise, if_neg (Bool.eq_false_iff.mp (Component.idle_of_fresh fresh))]
  split
  next blank => rfl
  next filled =>
    rw [Option.none_or]
    dsimp only
    split
    next ruleId repeated => rw [repeated]; rfl
    next distinct =>
      rw [distinct, Option.map_none, Option.none_or, ← Attempt.error?_each, ← initialiseAttributeRules_eq]
      refine Attempt.error?_andThen fun activation => ?_
      exact (Attempt.error?_andThen fun rules => Component.error?_attempt fresh _).trans (Option.or_none ..)

theorem Engine.error?_initialise {engine : Engine} (fresh : engine.component.phase = .uninitialised) :
    engine.initialise.error? =
      ((Policy.firstRepeated? [] (engine.policies.map Policy.id)).map (ConfigError.duplicatePolicy · engine.id)).or
        (let refused := engine.policies.filterMap fun policy => policy.initialise.error?.map (policy.id, ·)
          if refused.isEmpty then none else some (.invalidPolicies refused)) := by
  rw [initialise, if_neg (Bool.eq_false_iff.mp (Component.idle_of_fresh fresh))]
  split
  next policyId repeated => rw [repeated]; rfl
  next distinct =>
    rw [distinct, Option.map_none, Option.none_or, initialisePolicies_eq]
    dsimp only
    split
    · exact Component.error?_attempt fresh _
    · rfl

end AttributeRelease
