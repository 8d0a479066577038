import AttributeRelease.Proofs.AttributeForms
import AttributeRelease.Proofs.Descriptions
import AttributeRelease.Service.Definitions

/-! Descriptions of rules, policies and whole services are read back from what is written of them. -/

namespace AttributeRelease

namespace Json

variable {α β : Type} (json : Json) (name : String)

private theorem match_field (read? : Json → Option α) (make : α → β) :
    (match _found : json.field? name with
    | some field => (read? field).map make
    | none => none) = (json.required name read?).map make := by
  rw [required]
  split
  next found => rw [found]; rfl
  next found => rw [found]; rfl

private theorem match_items (read? : List Json → Option α) (make : α → β) :
    (match _found : json.field? name with
    | some (.array items) => (read? items).map make
    | _ => none) = (json.required name fun field => field.items?.bind read?).map make := by
  rw [required]
  split
  next found => rw [found]; rfl
  next others =>
    cases found : json.field? name with
    | none => rfl
    | some field =>
      cases field with
      | array items => exact absurd found (others items)
      | _ => rfl

end Json

theorem typed?_typed (names : String → List String) {name : String} {fields : List (String × Json)}
    (untyped : fields.reverse.lookup "type" = none) :
    (typed name fields).typed? names = some (name, typed name fields) := by
  rw [typed, Json.typed?_ofFields, List.reverse_cons, List.lookup_append, untyped]
  rfl

theorem field?_typed (name field : String) (value : Json) : (typed name [(field, value)]).field? field = some value := by
  rw [typed, Json.field?_ofFields]
  simp

/-- A null object would be read as none. -/
theorem scriptOf?_typed {α : Type} (expression : String) {custom : Option Json} (given : custom ≠ some .null)
    (make : String → Option Json → α) :
    scriptOf? (typed "script" (scriptFields expression custom)) make = some (make expression custom) := by
  have found : (typed "script" (scriptFields expression custom)).field? "custom" = custom := by
    cases custom <;> simp [typed, scriptFields, List.lookup_cons]
  have read : (typed "script" (scriptFields expression custom)).optional "custom" some = some custom := by
    rw [Json.optional, found]
    split
    · rfl
    · exact absurd rfl given
    · rfl
  have text : (typed "script" (scriptFields expression custom)).required "expression" Json.string? = some expression := by
    cases custom <;> simp [typed, scriptFields, Json.required, Json.string?, List.lookup_cons]
  rw [scriptOf?, text, read]
  rfl

theorem exists_of_scriptOf? {α : Type} {json : Json} {make : String → Option Json → α} {script : α}
    (read : scriptOf? json make = some script) :
    ∃ expression custom, custom ≠ some .null ∧ make expression custom = script := by
  obtain ⟨expression, _, read⟩ := Option.bind_eq_some_iff.mp read
  obtain ⟨custom, given, read⟩ := Option.bind_eq_some_iff.mp read
  refine ⟨expression, custom, ?_, Option.some.inj read⟩
  rintro rfl
  rw [Json.optional] at given
  split at given
  case h_3 value null _ =>
    cases given
    exact null rfl
  all_goals cases given

theorem StringMatch.ofJson?_typed (name : String) (expected : StringMatch) :
    ofJson? (typed name expected.toFields) = some expected := by
  simp [ofJson?, typed, toFields, Json.required, Json.defaulted, Json.string?, Json.bool?, List.lookup_cons]

theorem ConditionDefinition.ofFields?_typed (tested : ConditionDefinition) :
    ofFields? tested.typeName (typed tested.typeName tested.toFields) = some tested := by
  cases tested with
  | requesterPattern _ | principalPattern _ => simp [ofFields?, typeName, typed, toFields, Json.required, Json.string?]
  | _ => simp [ofFields?, typeName, toFields, StringMatch.ofJson?_typed]

theorem ValueConditionDefinition.ofFields?_typed (tested : ValueConditionDefinition) :
    ofFields? tested.typeName (typed tested.typeName tested.toFields) = some tested := by
  cases tested with
  | any => rfl
  | exact value => simp [ofFields?, typeName, typed, toFields, Json.required, Value.ofJson?_toJson]
  | valuePattern _ | scopePattern _ => simp [ofFields?, typeName, typed, toFields, Json.required, Json.string?]
  | _ => simp [ofFields?, typeName, toFields, StringMatch.ofJson?_typed]

namespace RuleDefinition

theorem rulesJson_eq (rules : List RuleDefinition) : rulesJson rules = rules.map toJson := by
  induction rules with
  | nil => rfl
  | cons rule rest ih => rw [rulesJson, ih, List.map_cons]

theorem rulesOfJson?_eq : rulesOfJson? = List.mapM ofJson? := by
  refine funext fun items => ?_
  induction items with
  | nil => rw [rulesOfJson?]; rfl
  | cons item rest ih =>
    rw [rulesOfJson?, List.mapM_cons, ih]
    cases ofJson? item with
    | none => rfl
    | some rule => cases rest.mapM ofJson? <;> rfl

/-- The rule of a type with the fields of an object. -/
def ofFields? (type : String) (json : Json) : Option RuleDefinition :=
  match type with
  | "any" => some .any
  | "static" => (json.required "result" Tristate.ofJson?).map .fixed
  | "and" => (json.required "rules" (Json.listOf? ofJson?)).map .and
  | "or" => (json.required "rules" (Json.listOf? ofJson?)).map .or
  | "not" => (json.required "rule" ofJson?).map .not
  | "script" => scriptOf? json .script
  | "attributeMatches" => do
    return .attributeMatches (← json.required "attributeId" Json.string?)
      (← json.required "matcher" MatcherDefinition.ofJson?)
  | _ => (ConditionDefinition.ofFields? type json).map .condition

theorem ofJson?_eq (json : Json) :
    ofJson? json = (json.typed? fieldNames).bind fun told => ofFields? told.1 told.2 := by
  rw [ofJson?]
  split
  all_goals
    rename_i told
    simp only [told, Option.bind_none, Option.bind_some]
  case h_2 | h_3 | h_7 => rfl
  case h_4 | h_5 =>
    simp only [rulesOfJson?_eq]
    exact Json.match_items ..
  case h_6 => exact Json.match_field ..
  case h_8 body =>
    rw [ofFields?]
    split
    next matcher found =>
      have read : body.required "matcher" MatcherDefinition.ofJson? = MatcherDefinition.ofJson? matcher := by
        rw [Json.required, found]
        rfl
      rw [read]
      cases body.required "attributeId" Json.string? <;> cases MatcherDefinition.ofJson? matcher <;> rfl
    next absent =>
      have unread : body.required "matcher" MatcherDefinition.ofJson? = none := by
        rw [Json.required, absent]
        rfl
      rw [unread]
      cases body.required "attributeId" Json.string? <;> rfl
  case h_9 => rw [ofFields?] <;> assumption

theorem ofJson?_typed (name : String) {fields : List (String × Json)} (untyped : fields.reverse.lookup "type" = none) :
    ofJson? (typed name fields) = ofFields? name (typed name fields) := by
  rw [ofJson?_eq, typed?_typed fieldNames untyped, Option.bind_some]

/-- The parts of what was read were read as well. -/
def PartsRead : RuleDefinition → Prop
  | .any | .fixed _ | .condition _ => True
  | .and rules | .or rules => ∀ rule ∈ rules, ∃ json, ofJson? json = some rule
  | .not rule => ∃ json, ofJson? json = some rule
  | .script _ custom => custom ≠ some .null
  | .attributeMatches _ matcher => ∃ json, MatcherDefinition.ofJson? json = some matcher

theorem partsRead_of_ofJson? {json : Json} {rule : RuleDefinition} (read : ofJson? json = some rule) :
    rule.PartsRead := by
  rw [ofJson?_eq] at read
  obtain ⟨⟨type, body⟩, _, read⟩ := Option.bind_eq_some_iff.mp read
  simp only [ofFields?] at read
  split at read
  case h_1 =>
    cases read
    trivial
  case h_2 | h_8 =>
    obtain ⟨_, _, rfl⟩ := Option.map_eq_some_iff.mp read
    trivial
  case h_3 | h_4 =>
    obtain ⟨rules, listed, rfl⟩ := Option.map_eq_some_iff.mp read
    obtain ⟨_, listed⟩ := Json.exists_of_required listed
    exact Json.exists_of_listOf? listed
  case h_5 =>
    obtain ⟨rule, found, rfl⟩ := Option.map_eq_some_iff.mp read
    exact Json.exists_of_required found
  case h_6 =>
    obtain ⟨_, custom, given, rfl⟩ := exists_of_scriptOf? read
    exact given
  case h_7 =>
    obtain ⟨attributeId, _, read⟩ := Option.bind_eq_some_iff.mp read
    obtain ⟨matcher, found, read⟩ := Option.bind_eq_some_iff.mp read
    cases read
    exact Json.exists_of_required found

end RuleDefinition

namespace MatcherDefinition

theorem matchersJson_eq (matchers : List MatcherDefinition) : matchersJson matchers = matchers.map toJson := by
  induction matchers with
  | nil => rfl
  | cons matcher rest ih => rw [matchersJson, ih, List.map_cons]

theorem matchersOfJson?_eq : matchersOfJson? = List.mapM ofJson? := by
  refine funext fun items => ?_
  induction items with
  | nil => rw [matchersOfJson?]; rfl
  | cons item rest ih =>
    rw [matchersOfJson?, List.mapM_cons, ih]
    cases ofJson? item with
    | none => rfl
    | some matcher => cases rest.mapM ofJson? <;> rfl

def ofFields? (type : String) (json : Json) : Option MatcherDefinition :=
  match type with
  | "fromRule" => (json.required "rule" RuleDefinition.ofJson?).map .fromRule
  | "script" => scriptOf? json .script
  | "and" => (json.required "matchers" (Json.listOf? ofJson?)).map .and
  | "or" => (json.required "matchers" (Json.listOf? ofJson?)).map .or
  | "not" => (json.required "matcher" ofJson?).map .not
  | _ => (ValueConditionDefinition.ofFields? type json).map .condition

theorem ofJson?_eq (json : Json) :
    ofJson? json = (json.typed? fieldNames).bind fun told => ofFields? told.1 told.2 := by
  rw [ofJson?]
  split
  all_goals
    rename_i told
    simp only [told, Option.bind_none, Option.bind_some]
  case h_2 | h_6 => exact Json.match_field ..
  case h_3 => rfl
  case h_4 | h_5 =>
    simp only [matchersOfJson?_eq]
    exact Json.match_items ..
  case h_7 => rw [ofFields?] <;> assumption

theorem ofJson?_typed (name : String) {fields : List (String × Json)} (untyped : fields.reverse.lookup "type" = none) :
    ofJson? (typed name fields) = ofFields? name (typed name fields) := by
  rw [ofJson?_eq, typed?_typed fieldNames untyped, Option.bind_some]

def PartsRead : MatcherDefinition → Prop
  | .condition _ => True
  | .fromRule rule => ∃ json, RuleDefinition.ofJson? json = some rule
  | .script _ custom => custom ≠ some .null
  | .and matchers | .or matchers => ∀ matcher ∈ matchers, ∃ json, ofJson? json = some matcher
  | .not matcher => ∃ json, ofJson? json = some matcher

theorem partsRead_of_ofJson? {json : Json} {matcher : MatcherDefinition} (read : ofJson? json = some matcher) :
    matcher.PartsRead := by
  rw [ofJson?_eq] at read
  obtain ⟨⟨type, body⟩, _, read⟩ := Option.bind_eq_some_iff.mp read
  simp only [ofFields?] at read
  split at read
  case h_1 | h_5 =>
    obtain ⟨_, found, rfl⟩ := Option.map_eq_some_iff.mp read
    exact Json.exists_of_required found
  case h_2 =>
    obtain ⟨_, custom, given, rfl⟩ := exists_of_scriptOf? read
    exact given
  case h_3 | h_4 =>
    obtain ⟨matchers, listed, rfl⟩ := Option.map_eq_some_iff.mp read
    obtain ⟨_, listed⟩ := Json.exists_of_required listed
    exact Json.exists_of_listOf? listed
  case h_6 =>
    obtain ⟨_, _, rfl⟩ := Option.map_eq_some_iff.mp read
    trivial

end MatcherDefinition

mutual
/-- No script has a null object, which would be read as none. -/
def RuleDefinition.Fits : RuleDefinition → Prop
  | .any | .fixed _ | .condition _ => True
  | .and rules | .or rules => RulesFit rules
  | .not rule => rule.Fits
  | .script _ custom => custom ≠ some .null
  | .attributeMatches _ matcher => matcher.Fits

def RulesFit : List RuleDefinition → Prop
  | [] => True
  | rule :: rest => rule.Fits ∧ RulesFit rest

def MatcherDefinition.Fits : MatcherDefinition → Prop
  | .condition _ => True
  | .fromRule rule => rule.Fits
  | .script _ custom => custom ≠ some .null
  | .and matchers | .or matchers => MatchersFit matchers
  | .not matcher => matcher.Fits

def MatchersFit : List MatcherDefinition → Prop
  | [] => True
  | matcher :: rest => matcher.Fits ∧ MatchersFit rest
end

theorem rulesFit_iff {rules : List RuleDefinition} : RulesFit rules ↔ ∀ rule ∈ rules, rule.Fits := by
  induction rules with
  | nil => simp [RulesFit]
  | cons rule rest ih => rw [RulesFit, ih, List.forall_mem_cons]

theorem matchersFit_iff {matchers : List MatcherDefinition} : MatchersFit matchers ↔ ∀ matcher ∈ matchers, matcher.Fits := by
  induction matchers with
  | nil => simp [MatchersFit]
  | cons matcher rest ih => rw [MatchersFit, ih, List.forall_mem_cons]

/-- What was read fits, since what it is made of was read as well. -/
theorem rules_and_matchers_fit :
    (∀ (rule : RuleDefinition) (json : Json), RuleDefinition.ofJson? json = some rule → rule.Fits) ∧
      ∀ (matcher : MatcherDefinition) (json : Json), MatcherDefinition.ofJson? json = some matcher → matcher.Fits := by
  apply definition_induction
  case any | fixed | condition | valueCondition =>
    intros
    simp [RuleDefinition.Fits, MatcherDefinition.Fits]
  case ruleAnd | ruleOr =>
    intro rules ih json read
    have parts := RuleDefinition.partsRead_of_ofJson? read
    refine rulesFit_iff.mpr fun rule member => ?_
    obtain ⟨item, reads⟩ := parts rule member
    exact ih rule member item reads
  case matcherAnd | matcherOr =>
    intro matchers ih json read
    have parts := MatcherDefinition.partsRead_of_ofJson? read
    refine matchersFit_iff.mpr fun matcher member => ?_
    obtain ⟨item, reads⟩ := parts matcher member
    exact ih matcher member item reads
  case ruleNot =>
    intro rule ih json read
    obtain ⟨item, reads⟩ := RuleDefinition.partsRead_of_ofJson? read
    exact ih item reads
  case attributeMatches =>
    intro attributeId matcher ih json read
    obtain ⟨item, reads⟩ := RuleDefinition.partsRead_of_ofJson? read
    exact ih item reads
  case fromRule =>
    intro rule ih json read
    obtain ⟨item, reads⟩ := MatcherDefinition.partsRead_of_ofJson? read
    exact ih item reads
  case matcherNot =>
    intro matcher ih json read
    obtain ⟨item, reads⟩ := MatcherDefinition.partsRead_of_ofJson? read
    exact ih item reads
  case ruleScript =>
    intro expression custom json read
    exact RuleDefinition.partsRead_of_ofJson? read
  case matcherScript =>
    intro expression custom json read
    exact MatcherDefinition.partsRead_of_ofJson? read

theorem rules_and_matchers_return :
    (∀ rule : RuleDefinition, rule.Fits → RuleDefinition.ofJson? rule.toJson = some rule) ∧
      ∀ matcher : MatcherDefinition, matcher.Fits → MatcherDefinition.ofJson? matcher.toJson = some matcher := by
  apply definition_induction
  case any =>
    intro _
    rw [RuleDefinition.toJson, RuleDefinition.ofJson?_typed "any" rfl]
    rfl
  case fixed =>
    intro outcome _
    rw [RuleDefinition.toJson, RuleDefinition.ofJson?_typed "static" rfl, RuleDefinition.ofFields?,
      Json.required_eq (field?_typed ..) outcome.ofJson?_toJson]
    rfl
  case condition =>
    intro tested _
    rw [RuleDefinition.toJson, RuleDefinition.ofJson?_typed _ (by cases tested <;> rfl)]
    have back := tested.ofFields?_typed
    cases tested
    all_goals exact congrArg (Option.map RuleDefinition.condition) back
  case ruleAnd | ruleOr =>
    intro rules ih fits
    have back : ∀ rule ∈ rules, RuleDefinition.ofJson? rule.toJson = some rule :=
      fun rule member => ih rule member (rulesFit_iff.mp fits rule member)
    rw [RuleDefinition.toJson, RuleDefinition.ofJson?_typed _ rfl, RuleDefinition.ofFields?,
      RuleDefinition.rulesJson_eq, Json.required_eq (field?_typed ..) (Json.listOf?_map back)]
    rfl
  case ruleNot =>
    intro rule ih fits
    rw [RuleDefinition.toJson, RuleDefinition.ofJson?_typed "not" rfl, RuleDefinition.ofFields?,
      Json.required_eq (field?_typed ..) (ih fits)]
    rfl
  case ruleScript =>
    intro expression custom fits
    rw [RuleDefinition.toJson, RuleDefinition.ofJson?_typed "script" (by cases custom <;> rfl)]
    exact scriptOf?_typed expression fits RuleDefinition.script
  case attributeMatches =>
    intro attributeId matcher ih fits
    rw [RuleDefinition.toJson, RuleDefinition.ofJson?_typed "attributeMatches" rfl]
    simp [RuleDefinition.ofFields?, typed, Json.required, Json.string?, List.lookup_cons, ih fits]
  case valueCondition =>
    intro tested _
    rw [MatcherDefinition.toJson, MatcherDefinition.ofJson?_typed _ (by cases tested <;> rfl)]
    have back := tested.ofFields?_typed
    cases tested
    all_goals exact congrArg (Option.map MatcherDefinition.condition) back
  case fromRule =>
    intro rule ih fits
    rw [MatcherDefinition.toJson, MatcherDefinition.ofJson?_typed "fromRule" rfl, MatcherDefinition.ofFields?,
      Json.required_eq (field?_typed ..) (ih fits)]
    rfl
  case matcherScript =>
    intro expression custom fits
    rw [MatcherDefinition.toJson, MatcherDefinition.ofJson?_typed "script" (by cases custom <;> rfl)]
    exact scriptOf?_typed expression fits MatcherDefinition.script
  case matcherAnd | matcherOr =>
    intro matchers ih fits
    have back : ∀ matcher ∈ matchers, MatcherDefinition.ofJson? matcher.toJson = some matcher :=
      fun matcher member => ih matcher member (matchersFit_iff.mp fits matcher member)
    rw [MatcherDefinition.toJson, MatcherDefinition.ofJson?_typed _ rfl, MatcherDefinition.ofFields?,
      MatcherDefinition.matchersJson_eq, Json.required_eq (field?_typed ..) (Json.listOf?_map back)]
    rfl
  case matcherNot =>
    intro matcher ih fits
    rw [MatcherDefinition.toJson, MatcherDefinition.ofJson?_typed "not" rfl, MatcherDefinition.ofFields?,
      Json.required_eq (field?_typed ..) (ih fits)]
    rfl

theorem Effect.ofJson?_toJson (effect : Effect) : ofJson? effect.toJson = some effect := by
  cases effect <;> rfl

namespace AttributeRuleDefinition

theorem ofJson?_toJson {definition : AttributeRuleDefinition} (fits : definition.matcher.Fits) :
    ofJson? definition.toJson = some definition := by
  obtain ⟨id, attributeId, effect, matcher⟩ := definition
  have effectBack := effect.ofJson?_toJson
  have matcherBack := rules_and_matchers_return.2 matcher fits
  -- A rule without an id is written without the field.
  cases id
  all_goals simp [ofJson?, toJson, Json.required, Json.optional, Json.defaulted, Json.string?, List.lookup_cons,
    effectBack, matcherBack]

theorem fits_of_ofJson? {json : Json} {definition : AttributeRuleDefinition} (read : ofJson? json = some definition) :
    definition.matcher.Fits := by
  obtain ⟨_, _, read⟩ := Option.bind_eq_some_iff.mp read
  obtain ⟨_, _, read⟩ := Option.bind_eq_some_iff.mp read
  obtain ⟨_, _, read⟩ := Option.bind_eq_some_iff.mp read
  obtain ⟨_, _, read⟩ := Option.bind_eq_some_iff.mp read
  obtain ⟨matcher, found, read⟩ := Option.bind_eq_some_iff.mp read
  cases read
  obtain ⟨field, reads⟩ := Json.exists_of_required found
  exact rules_and_matchers_fit.2 matcher field reads

end AttributeRuleDefinition

namespace PolicyDefinition

structure Fits (definition : PolicyDefinition) : Prop where
  activation : definition.activation.Fits
  matchers : ∀ rule ∈ definition.rules, rule.matcher.Fits

theorem ofJson?_toJson {definition : PolicyDefinition} (fits : definition.Fits) :
    ofJson? definition.toJson = some definition := by
  have activation := rules_and_matchers_return.1 definition.activation fits.activation
  have rules : (definition.rules.map AttributeRuleDefinition.toJson).mapM AttributeRuleDefinition.ofJson? =
      some definition.rules := mapM_map_eq_some fun rule member =>
        AttributeRuleDefinition.ofJson?_toJson (fits.matchers rule member)
  simp [ofJson?, toJson, Json.required, Json.defaulted, Json.string?, Json.items?, List.lookup_cons, activation, rules]

theorem fits_of_ofJson? {json : Json} {definition : PolicyDefinition} (read : ofJson? json = some definition) :
    definition.Fits := by
  obtain ⟨_, _, read⟩ := Option.bind_eq_some_iff.mp read
  obtain ⟨_, _, read⟩ := Option.bind_eq_some_iff.mp read
  obtain ⟨activation, found, read⟩ := Option.bind_eq_some_iff.mp read
  obtain ⟨rules, listed, read⟩ := Option.bind_eq_some_iff.mp read
  cases read
  obtain ⟨field, reads⟩ := Json.exists_of_required found
  refine ⟨rules_and_matchers_fit.1 activation field reads, fun rule member => ?_⟩
  obtain ⟨item, reads⟩ := Json.exists_of_defaulted_list listed rule member
  exact AttributeRuleDefinition.fits_of_ofJson? reads

end PolicyDefinition

namespace ReleaseDefinitions

structure Fits (definitions : ReleaseDefinitions) : Prop where
  policies : ∀ policy ∈ definitions.policies, policy.Fits
  transcoding : ∀ rule ∈ definitions.transcoding, rule.Fits

theorem ofJson?_toJson {definitions : ReleaseDefinitions} (fits : definitions.Fits) :
    ofJson? definitions.toJson = some definitions := by
  have policies : (definitions.policies.map PolicyDefinition.toJson).mapM PolicyDefinition.ofJson? =
      some definitions.policies := mapM_map_eq_some fun policy member =>
        PolicyDefinition.ofJson?_toJson (fits.policies policy member)
  have rules : (definitions.transcoding.map TranscodingRuleDefinition.toJson).mapM TranscodingRuleDefinition.ofJson? =
      some definitions.transcoding := mapM_map_eq_some fun rule member =>
        TranscodingRuleDefinition.ofJson?_toJson (fits.transcoding rule member)
  simp [ofJson?, toJson, Json.defaulted, Json.string?, Json.items?, List.lookup_cons, policies, rules]

theorem fits_of_ofJson? {json : Json} {definitions : ReleaseDefinitions} (read : ofJson? json = some definitions) :
    definitions.Fits := by
  obtain ⟨_, _, read⟩ := Option.bind_eq_some_iff.mp read
  obtain ⟨_, _, read⟩ := Option.bind_eq_some_iff.mp read
  obtain ⟨policies, described, read⟩ := Option.bind_eq_some_iff.mp read
  obtain ⟨rules, listed, read⟩ := Option.bind_eq_some_iff.mp read
  cases read
  constructor
  · intro policy member
    obtain ⟨item, reads⟩ := Json.exists_of_defaulted_list described policy member
    exact PolicyDefinition.fits_of_ofJson? reads
  · intro rule member
    obtain ⟨item, reads⟩ := Json.exists_of_defaulted_list listed rule member
    exact TranscodingRuleDefinition.fits_of_ofJson? reads

end ReleaseDefinitions

/-- What was read is read back from what is written of it, and writing it once more changes nothing. -/
structure Json.Settles {α : Type} (read? : Json → Option α) (write : α → Json) : Prop where
  back : ∀ json value, read? json = some value → read? (write value) = some value
  once : ∀ json form, (read? json).map write = some form → (read? form).map write = some form

theorem Json.Settles.of_back {α : Type} {read? : Json → Option α} {write : α → Json}
    (back : ∀ json value, read? json = some value → read? (write value) = some value) : Settles read? write := by
  refine ⟨back, fun json form written => ?_⟩
  obtain ⟨value, read, rfl⟩ := Option.map_eq_some_iff.mp written
  rw [back json value read, Option.map_some]

/-- Writing undoes reading for every kind of description, and so the written form is the same from then on. For values,
attributes and claims it undoes nothing less than that: whatever they are, they are read back. Descriptions of rules
and policies are as well, if they fit. -/
theorem written_forms_settle :
    Json.Settles RuleDefinition.ofJson? RuleDefinition.toJson ∧
      Json.Settles MatcherDefinition.ofJson? MatcherDefinition.toJson ∧
      Json.Settles AttributeRuleDefinition.ofJson? AttributeRuleDefinition.toJson ∧
      Json.Settles PolicyDefinition.ofJson? PolicyDefinition.toJson ∧
      Json.Settles TranscodingRuleDefinition.ofJson? TranscodingRuleDefinition.toJson ∧
      Json.Settles ReleaseDefinitions.ofJson? ReleaseDefinitions.toJson ∧
      Json.Settles Value.ofJson? Value.toJson ∧
      Json.Settles Attribute.ofJson? Attribute.toJson ∧
      Json.Settles Claim.ofJson? Claim.toJson ∧
      (∀ value : Value, Value.ofJson? value.toJson = some value) ∧
      (∀ attr : Attribute, Attribute.ofJson? attr.toJson = some attr) ∧
      (∀ claim : Claim, Claim.ofJson? claim.toJson = some claim) ∧
      (∀ rule : RuleDefinition, rule.Fits → RuleDefinition.ofJson? rule.toJson = some rule) ∧
      (∀ matcher : MatcherDefinition, matcher.Fits → MatcherDefinition.ofJson? matcher.toJson = some matcher) ∧
      ∀ policy : PolicyDefinition, policy.Fits → PolicyDefinition.ofJson? policy.toJson = some policy := by
  obtain ⟨rules, matchers⟩ := rules_and_matchers_return
  obtain ⟨rulesFit, matchersFit⟩ := rules_and_matchers_fit
  refine ⟨.of_back ?rule, .of_back ?matcher, .of_back ?attributeRule, .of_back ?policy, .of_back ?transcoding,
    .of_back ?release, .of_back ?value, .of_back ?attr, .of_back ?claim, Value.ofJson?_toJson,
    Attribute.ofJson?_toJson, Claim.ofJson?_toJson, rules, matchers, fun _ => PolicyDefinition.ofJson?_toJson⟩
  case rule => exact fun json rule read => rules rule (rulesFit rule json read)
  case matcher => exact fun json matcher read => matchers matcher (matchersFit matcher json read)
  case attributeRule =>
    intro _ _ read
    exact AttributeRuleDefinition.ofJson?_toJson (AttributeRuleDefinition.fits_of_ofJson? read)
  case policy =>
    intro _ _ read
    exact PolicyDefinition.ofJson?_toJson (PolicyDefinition.fits_of_ofJson? read)
  case transcoding =>
    intro _ _ read
    exact TranscodingRuleDefinition.ofJson?_toJson (TranscodingRuleDefinition.fits_of_ofJson? read)
  case release =>
    intro _ _ read
    exact ReleaseDefinitions.ofJson?_toJson (ReleaseDefinitions.fits_of_ofJson? read)
  case value => exact fun _ value _ => value.ofJson?_toJson
  case attr => exact fun _ attr _ => attr.ofJson?_toJson
  case claim => exact fun _ claim _ => claim.ofJson?_toJson

/-- A script with a null object under a negation, which is written as an array. -/
def outsideForm : Json :=
  .array [.string "not", typed "script" [("expression", .string "custom == ()"), ("custom", .null)]]

def wikiForm : Json := typed "fromRule" [("rule", typed "requester" [("value", .string "wiki")])]

/-- A rule with a null id and without an effect. -/
def mailForm : Json := .ofFields [("id", .null), ("attributeId", .string "mail"), ("matcher", wikiForm)]

def staffForm : Json := .ofFields [("id", .string "staff"), ("activation", outsideForm), ("rules", .array [mailForm])]

def emailForm : Json := .ofFields [("transcoder", .string "string-claim"), ("id", .string "mail"), ("strict", .bool true)]

def releaseForm : Json := .ofFields [("policies", .array [staffForm]), ("transcoding", .array [emailForm])]

def blankForm : Json := typed "empty" [("kind", .ofFields [("null", .null)])]

/-- One value is given twice, and the names are empty. -/
def personForm : Json :=
  .ofFields [("id", .string "mail"), ("displayNames", .object []), ("values", .array [blankForm, blankForm])]

def claimForm : Json := .array [.string "mail", .null]

def outsideDefinition : RuleDefinition := .not (.script "custom == ()" none)

def wikiDefinition : MatcherDefinition := .fromRule (.condition (.requester ⟨"wiki", true⟩))

def mailDefinition : AttributeRuleDefinition := { attributeId := "mail", matcher := wikiDefinition }

def staffDefinition : PolicyDefinition := { id := "staff", activation := outsideDefinition, rules := [mailDefinition] }

def emailDefinition : TranscodingRuleDefinition :=
  ⟨"string-claim", .ofList [("id", .string "mail"), ("strict", .bool true)]⟩

/-- What is left out or null in the written form is filled in when it is read. -/
theorem written_forms_settle_release :
    ReleaseDefinitions.ofJson? releaseForm = some ⟨"release", [staffDefinition], [emailDefinition]⟩ ∧
      RuleDefinition.ofJson? outsideDefinition.toJson = some outsideDefinition ∧
      MatcherDefinition.ofJson? wikiDefinition.toJson = some wikiDefinition ∧
      AttributeRuleDefinition.ofJson? mailDefinition.toJson = some mailDefinition ∧
      PolicyDefinition.ofJson? staffDefinition.toJson = some staffDefinition ∧
      TranscodingRuleDefinition.ofJson? emailDefinition.toJson = some emailDefinition ∧
      ReleaseDefinitions.ofJson? (ReleaseDefinitions.toJson ⟨"release", [staffDefinition], [emailDefinition]⟩) =
        some ⟨"release", [staffDefinition], [emailDefinition]⟩ ∧
      Value.ofJson? (Value.toJson (.empty .null)) = some (.empty .null) ∧
      Attribute.ofJson? (Attribute.toJson { id := "mail", values := .ofList [.empty .null] }) =
        some { id := "mail", values := .ofList [.empty .null] } ∧
      Claim.ofJson? (Claim.toJson ⟨"mail", .null⟩) = some ⟨"mail", .null⟩ := by
  have script : RuleDefinition.ofJson? (typed "script" [("expression", .string "custom == ()"), ("custom", .null)]) =
      some (.script "custom == ()" none) := by
    rw [RuleDefinition.ofJson?_typed "script" rfl, RuleDefinition.ofFields?]
    simp [scriptOf?, typed, Json.required, Json.optional, Json.string?, List.lookup_cons]
  have rule : RuleDefinition.ofJson? outsideForm = some outsideDefinition := by
    have told : outsideForm.typed? RuleDefinition.fieldNames = some ("not", .ofFields [("rule", _)]) := rfl
    rw [RuleDefinition.ofJson?_eq, told, Option.bind_some, RuleDefinition.ofFields?, Json.required_eq rfl script]
    rfl
  have requester : RuleDefinition.ofJson? (typed "requester" [("value", .string "wiki")]) =
      some (.condition (.requester ⟨"wiki", true⟩)) := by
    rw [RuleDefinition.ofJson?_typed "requester" rfl]
    rfl
  have matcher : MatcherDefinition.ofJson? wikiForm = some wikiDefinition := by
    rw [wikiForm, MatcherDefinition.ofJson?_typed "fromRule" rfl, MatcherDefinition.ofFields?,
      Json.required_eq (field?_typed ..) requester]
    rfl
  have attributeRule : AttributeRuleDefinition.ofJson? mailForm = some mailDefinition := by
    simp [mailForm, AttributeRuleDefinition.ofJson?, Json.required, Json.optional, Json.defaulted, Json.string?,
      List.lookup_cons, matcher, mailDefinition]
  have policy : PolicyDefinition.ofJson? staffForm = some staffDefinition := by
    simp [staffForm, PolicyDefinition.ofJson?, Json.required, Json.defaulted, Json.string?, Json.items?, List.lookup_cons,
      rule, attributeRule, staffDefinition]
  have transcoding : TranscodingRuleDefinition.ofJson? emailForm = some emailDefinition := rfl
  have release : ReleaseDefinitions.ofJson? releaseForm = some ⟨"release", [staffDefinition], [emailDefinition]⟩ := by
    simp [releaseForm, ReleaseDefinitions.ofJson?, Json.defaulted, Json.items?, List.lookup_cons, policy, transcoding]
  have settles := written_forms_settle
  refine ⟨release, settles.1.back _ _ rule, settles.2.1.back _ _ matcher, settles.2.2.1.back _ _ attributeRule,
    settles.2.2.2.1.back _ _ policy, settles.2.2.2.2.1.back _ _ transcoding, settles.2.2.2.2.2.1.back _ _ release,
    settles.2.2.2.2.2.2.1.back blankForm _ rfl, settles.2.2.2.2.2.2.2.1.back personForm _ rfl,
    settles.2.2.2.2.2.2.2.2.1.back claimForm _ rfl⟩

end AttributeRelease
