import AttributeRelease.Proofs.ClaimReturn
import AttributeRelease.Proofs.Copies
import AttributeRelease.Transcoding.Catalog
import Mathlib.Data.List.Nodup

/-! Rules that a catalog resolves. A catalog holds one condition of an id, so that rules which are compared by
the ids of their conditions do the same if they are equal, and a registry may drop copies of them. -/

namespace AttributeRelease

namespace Transcoder

/-- Transcoders that do the same for rules of the same properties. -/
structure Agrees (left right : Transcoder) : Prop where
  applies : ∀ facts condition properties,
    left.typed.applies facts condition properties = right.typed.applies facts condition properties
  encodedName : ∀ properties, left.typed.encodedName properties = right.typed.encodedName properties
  encode? : ∀ properties type facts attr value,
    (TranscodingRule.mk properties left none).encode? type facts attr value =
      (TranscodingRule.mk properties right none).encode? type facts attr value
  decode? : ∀ properties type facts object,
    (TranscodingRule.mk properties left none).decode? type facts object =
      (TranscodingRule.mk properties right none).decode? type facts object

theorem Agrees.refl (transcoder : Transcoder) : transcoder.Agrees transcoder :=
  ⟨fun _ _ _ => rfl, fun _ => rfl, fun _ _ _ _ _ => rfl, fun _ _ _ _ => rfl⟩

theorem Agrees.symm {left right : Transcoder} (agrees : left.Agrees right) : right.Agrees left where
  applies facts condition properties := (agrees.applies facts condition properties).symm
  encodedName properties := (agrees.encodedName properties).symm
  encode? properties type facts attr value := (agrees.encode? properties type facts attr value).symm
  decode? properties type facts object := (agrees.decode? properties type facts object).symm

def IsBundled (transcoder : Transcoder) : Prop := ∃ typed ∈ Claim.transcoders, transcoder = ⟨.claim, typed⟩

/-- The names tell the bundled transcoders apart. -/
theorem IsBundled.eq_of_same {left right : Transcoder} (bundled : left.IsBundled) (rightBundled : right.IsBundled)
    (same : left.same right = true) : left = right := by
  obtain ⟨leftTyped, leftMember, rfl⟩ := bundled
  obtain ⟨rightTyped, rightMember, rfl⟩ := rightBundled
  have named : leftTyped.name = rightTyped.name := by simpa [Transcoder.same] using same
  have distinct : (Claim.transcoders.map (·.name)).Nodup := by decide
  rw [List.inj_on_of_nodup_map distinct leftMember rightMember named]

end Transcoder

namespace Catalog

/-- Catalogs that registration leads to. -/
inductive Reached : Catalog → Prop where
  | empty : Reached {}
  | register {catalog : Catalog} (before : Reached catalog) (name : String) (transcoder : Transcoder) :
      Reached (catalog.register name transcoder)
  | registerCondition {catalog : Catalog} (before : Reached catalog) (condition : ActivationCondition) :
      Reached (catalog.registerCondition condition)

theorem reached_withClaims : withClaims.Reached := .register (.register (.register .empty _ _) _ _) _ _

theorem Reached.id_eq {catalog : Catalog} (reached : catalog.Reached) {id : String} {condition : ActivationCondition}
    (found : catalog.conditions.get? id = some condition) : condition.id = id := by
  induction reached with
  | empty => cases found
  | register before name transcoder ih => exact ih found
  | registerCondition before added ih =>
    rw [Catalog.registerCondition, Dictionary.get?_insert] at found
    split at found
    next here =>
      cases found
      exact here.symm
    next elsewhere => exact ih found

def Offers (catalog : Catalog) (transcoder : Transcoder) : Prop :=
  ∃ name, catalog.transcoders.get? name = some transcoder

theorem Offers.of_register {catalog : Catalog} {name : String} {added transcoder : Transcoder}
    (offers : (catalog.register name added).Offers transcoder) : transcoder = added ∨ catalog.Offers transcoder := by
  obtain ⟨key, found⟩ := offers
  rw [Catalog.register, Dictionary.get?_insert] at found
  split at found
  next => exact .inl (Option.some.inj found).symm
  next => exact .inr ⟨key, found⟩

theorem Offers.isBundled {transcoder : Transcoder} (offers : withClaims.Offers transcoder) : transcoder.IsBundled := by
  have listed (typed : TypedTranscoder .claim) (member : typed ∈ Claim.transcoders) : (Transcoder.mk .claim typed).IsBundled :=
    ⟨typed, member, rfl⟩
  rcases offers.of_register with rfl | offers
  · exact listed _ (by simp [Claim.transcoders])
  rcases offers.of_register with rfl | offers
  · exact listed _ (by simp [Claim.transcoders])
  rcases offers.of_register with rfl | ⟨_, impossible⟩
  · exact listed _ (by simp [Claim.transcoders])
  · cases impossible

/-- Transcoders that an application brings along do the same if they are equal to one of the catalog. -/
def CustomAgree (catalog : Catalog) : Prop :=
  ∀ left right, catalog.Offers left → catalog.Offers right → ¬ left.IsBundled → left.same right = true →
    left.Agrees right

theorem CustomAgree.agrees {catalog : Catalog} (custom : catalog.CustomAgree) {left right : Transcoder}
    (offered : catalog.Offers left) (rightOffered : catalog.Offers right) (same : left.same right = true) :
    left.Agrees right := by
  by_cases bundled : left.IsBundled
  · by_cases rightBundled : right.IsBundled
    · exact bundled.eq_of_same rightBundled same ▸ .refl left
    · exact (custom right left rightOffered offered rightBundled (left.same_comm right ▸ same)).symm
  · exact custom left right offered rightOffered bundled same

/-- What a rule refers to stands in the catalog. -/
structure Resolves (catalog : Catalog) (rule : TranscodingRule) : Prop where
  transcoder : catalog.Offers rule.transcoder
  condition : ∀ condition, rule.condition = some condition → catalog.conditions.get? condition.id = some condition

theorem Reached.resolves {catalog : Catalog} (reached : catalog.Reached) {definition : TranscodingRuleDefinition}
    {rule : TranscodingRule} (built : catalog.buildRule definition = .ok rule) : catalog.Resolves rule := by
  rw [buildRule] at built
  cases found : catalog.transcoders.get? definition.transcoder with
  | none =>
    rw [found] at built
    cases built
  | some transcoder =>
    rw [found] at built
    obtain ⟨condition?, referred, made⟩ := bind_eq_ok_iff.mp built
    cases made
    refine ⟨⟨_, found⟩, fun condition given => ?_⟩
    cases given
    rw [Catalog.condition?] at referred
    split at referred
    next => cases referred
    next id named =>
      cases known : catalog.conditions.get? id with
      | none => simp [known] at referred
      | some other =>
        rw [known] at referred
        cases referred
        rw [reached.id_eq known, known]
    next => cases referred

theorem Resolves.alike {catalog : Catalog} (custom : catalog.CustomAgree) {left right : TranscodingRule}
    (resolved : catalog.Resolves left) (rightResolved : catalog.Resolves right) (same : left.same right = true) :
    left.Alike right := by
  obtain ⟨properties, transcoder, condition⟩ := left
  obtain ⟨rightProperties, rightTranscoder, rightCondition⟩ := right
  rw [TranscodingRule.same, Bool.and_eq_true, Bool.and_eq_true] at same
  obtain ⟨⟨sameProperties, sameTranscoder⟩, sameId⟩ := same
  obtain rfl : properties = rightProperties := by simpa using sameProperties
  have agrees := custom.agrees resolved.transcoder rightResolved.transcoder sameTranscoder
  have sameType : transcoder.type = rightTranscoder.type := by
    rw [Transcoder.same, Bool.and_eq_true, beq_iff_eq] at sameTranscoder
    exact sameTranscoder.1
  -- Conditions are compared by their ids only, and the catalog has one condition of an id.
  obtain rfl : condition = rightCondition := by
    rw [beq_iff_eq] at sameId
    cases condition with
    | none => exact (Option.map_eq_none_iff.mp sameId.symm).symm
    | some condition =>
      obtain ⟨other, rfl, id⟩ := Option.map_eq_some_iff.mp sameId.symm
      rw [← resolved.condition condition rfl, ← rightResolved.condition other rfl, id]
  refine ⟨sameType, rfl, ?_, fun facts => agrees.applies facts condition properties, ?_, ?_⟩
  · rw [TranscodingRule.encodedName?, TranscodingRule.encodedName?, agrees.encodedName]
  · exact agrees.encode? properties
  · exact agrees.decode? properties

theorem copiesAgree_of_buildRules {catalog : Catalog} (reached : catalog.Reached) (custom : catalog.CustomAgree)
    {definitions : List TranscodingRuleDefinition} {rules : List TranscodingRule}
    (resolved : catalog.buildRules definitions = .ok rules) : TranscodingRule.CopiesAgree rules := by
  have each : ∀ rule ∈ rules, catalog.Resolves rule := by
    intro rule member
    obtain ⟨definition, _, built⟩ := exists_of_mapM_isOk resolved rule member
    exact reached.resolves built
  exact fun rule member copy copyMember same => (each copy copyMember).alike custom (each rule member) same

end Catalog

namespace Registry

/-- A registry of rules that a catalog resolves does what it would do if it kept every copy of them. Only where the
outputs of all rules are strung together, those of later copies are left out, and this leaves the same objects. -/
theorem copies_are_invisible {catalog : Catalog} (reached : catalog.Reached) (custom : catalog.CustomAgree)
    {definitions : List TranscodingRuleDefinition} {rules : List TranscodingRule}
    (resolved : catalog.buildRules definitions = .ok rules) {types : TypeInfos} {registry : Registry}
    (built : build types rules = .ok registry) (facts : Facts) :
    (∀ type attr,
      registry.encodeFirst type facts attr = (withCopies types rules).encodeFirst type facts attr ∧
      (withCopies types rules).encodeAll type facts attr =
        .ok ((applicable rules type facts attr).flatMap (block type facts attr)) ∧
      registry.encodeAll type facts attr =
        .ok ((rulesOf (applicable rules type facts attr)).flatMap (block type facts attr)) ∧
      ∀ object, object ∈ (rulesOf (applicable rules type facts attr)).flatMap (block type facts attr) ↔
        object ∈ (applicable rules type facts attr).flatMap (block type facts attr)) ∧
    ∀ {type : WireType} (object : type.Object) strict,
      registry.decode facts object strict = (withCopies types rules).decode facts object strict := by
  have agree := Catalog.copiesAgree_of_buildRules reached custom resolved
  refine ⟨fun type attr => ⟨?first, ?allCopies, ?all, ?members⟩, fun object strict => ?decoded⟩
  case first => exact encodeFirst_withCopies agree built type facts attr
  case allCopies => exact encodeAll_of_encoders (encoders_withCopies built type attr) facts
  case all =>
    rw [encodeAll_of_build built, objectsOf, activeEncoders_eq agree]
    rfl
  case members => exact mem_flatMap_rulesOf (block_agree agree type facts attr)
  case decoded => exact decode_withCopies agree built facts object strict

def shopTranscoder : Transcoder :=
  ⟨.claim, { Claim.stringTranscoder with name := "shop-claim", applies := fun facts _ _ => facts.requester == some "shop" }⟩

def memberCondition : ActivationCondition := ⟨"member", fun facts => facts.principal.isSome⟩

def memberCatalog : Catalog :=
  (Catalog.withClaims.registerCondition memberCondition).register "shop-claim" shopTranscoder

/-- The address of a member by two transcoders, each of them twice. -/
def memberDefinitions : List TranscodingRuleDefinition :=
  let mail (transcoder : String) : TranscodingRuleDefinition :=
    { transcoder
      properties := .ofList [(Properties.attributeId, .string "mail"), (Properties.name, .string "email"),
        (Properties.activationCondition, .string "member")] }
  [mail "string-claim", mail "shop-claim", mail "string-claim", mail "shop-claim"]

def memberRules : List TranscodingRule :=
  let mail (transcoder : Transcoder) : TranscodingRule :=
    { properties := .ofList [(Properties.attributeId, .string "mail"), (Properties.name, .string "email")]
      transcoder
      condition := some memberCondition }
  let plain : Transcoder := ⟨.claim, Claim.stringTranscoder⟩
  [mail plain, mail shopTranscoder, mail plain, mail shopTranscoder]

/-- The registry emits two claims where four would be emitted with the copies, and reads the claim as they would. -/
theorem copies_are_invisible_members :
    let facts : Facts := { requestTime := .epoch, principal := some "ann", requester := some "shop" }
    let mail : Attribute := { id := "mail", values := .ofList [.string "ann@home"] }
    let claim := Claim.ofText "email" "ann@home"
    ∃ registry, memberCatalog.buildRules memberDefinitions = .ok memberRules ∧
      build [TypeInfo.claims] memberRules = .ok registry ∧ memberCatalog.Reached ∧ memberCatalog.CustomAgree ∧
      registry.encodeFirst .claim facts mail = .ok [claim] ∧ registry.encodeAll .claim facts mail = .ok [claim, claim] ∧
      (withCopies [TypeInfo.claims] memberRules).encodeAll .claim facts mail = .ok [claim, claim, claim, claim] ∧
      @decode registry facts .claim claim true = .ok [mail] := by
  intro facts mail claim
  have resolved : memberCatalog.buildRules memberDefinitions = .ok memberRules := rfl
  have built : build [TypeInfo.claims] memberRules = .ok _ := rfl
  have reached : memberCatalog.Reached := .register (.registerCondition Catalog.reached_withClaims _) _ _
  have custom : memberCatalog.CustomAgree := by
    have offered {transcoder : Transcoder} (offers : memberCatalog.Offers transcoder) :
        transcoder = shopTranscoder ∨ transcoder.IsBundled :=
      offers.of_register.imp_right Catalog.Offers.isBundled
    have apart : ∀ typed ∈ Claim.transcoders, typed.name ≠ "shop-claim" := by decide
    intro left right offers rightOffers foreign same
    obtain rfl := (offered offers).resolve_right foreign
    rcases offered rightOffers with rfl | ⟨typed, bundled, rfl⟩
    · exact .refl _
    · have named : "shop-claim" = typed.name := by simpa [Transcoder.same, shopTranscoder] using same
      exact absurd named.symm (apart typed bundled)
  obtain ⟨encoded, decoded⟩ := copies_are_invisible reached custom resolved built facts
  obtain ⟨first, allCopies, all, _⟩ := encoded .claim mail
  exact ⟨_, resolved, built, reached, custom, first.trans rfl, all.trans rfl, allCopies.trans rfl,
    (@decoded .claim claim true).trans rfl⟩

end Registry

end AttributeRelease
