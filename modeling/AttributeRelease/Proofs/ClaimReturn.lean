import AttributeRelease.Proofs.ClaimTexts
import AttributeRelease.Proofs.Exchange
import AttributeRelease.Proofs.RegistryViews

/-! Claims that a registry makes of an attribute lead back to the rules that made them, and by these to
the attribute. -/

namespace AttributeRelease

namespace Claim

section
variable {transcoder : TypedTranscoder .claim} {facts : Facts} {attr : Attribute} {properties : Properties}
  {value : Value} {claim : Claim}

/-- The rules whose transcoders keep the whole of a value. The scope of a value has to be told from
what stands before it. -/
inductive Keeps (properties : Properties) : TypedTranscoder .claim → Value → Prop where
  | ofString (text : String) : Keeps properties stringTranscoder (.string text)
  | ofBinary (data : List UInt8) : Keeps properties binaryTranscoder (.binary data)
  | ofScoped (text scope : String) (filled : text ≠ "") (scopeFilled : scope ≠ "")
      (last : ∀ place, text.length < place →
        ¬ Text.OccursAt properties.delimiter.toList (text ++ properties.delimiter ++ scope).toList place) :
      Keeps properties scopedTranscoder (.scoped text scope)

theorem decode_of_keeps (keeps : Keeps properties transcoder value)
    (made : transcoder.encode facts attr properties value = .ok claim) :
    transcoder.decode facts claim properties = .ok (some value) := by
  cases keeps with
  | ofString text =>
    obtain ⟨name, _, rest⟩ := bind_eq_ok_iff.mp made
    cases rest
    rfl
  | ofBinary data =>
    obtain ⟨name, _, rest⟩ := bind_eq_ok_iff.mp made
    cases chosen : properties.alphabet with
    | error problem => simp [chosen] at rest
    | ok alphabet =>
      simp only [chosen] at rest
      cases rest
      simp only [binaryTranscoder, ofText, Json.string?, chosen, Base64.decode?_encode]
  | ofScoped text scope filled scopeFilled last =>
    obtain ⟨name, _, rest⟩ := bind_eq_ok_iff.mp made
    cases rest
    have split := (Text.splitLast?_eq_some_iff properties.delimiter_ne_empty).mpr ⟨rfl, last⟩
    exact scopedTranscoder_decode_eq_some_iff.mpr ⟨text, scope, split, filled, scopeFilled, rfl⟩

end

end Claim

namespace Registry

/-- A claim that a rule which applies to a request makes of a value of an attribute. -/
structure Makes (registry : Registry) (facts : Facts) (attr : Attribute) (rule : TranscodingRule) (value : Value)
    (claim : Claim) : Prop where
  found : rule ∈ registry.encoders .claim attr
  active : rule.isActive facts = true
  carried : value ∈ attr.values
  encoded : rule.encode? .claim facts attr value = some claim

section
variable {infos : List TypeInfo} {rules : List TranscodingRule} {registry : Registry} {facts : Facts} {attr : Attribute}
  {rule : TranscodingRule} {value : Value} {claim : Claim}

theorem exists_makes (built : build (infos.foldl TypeInfos.register []) rules = .ok registry)
    (emitted : claim ∈ objectsOf rules .claim facts attr) : ∃ rule value, registry.Makes facts attr rule value claim := by
  obtain ⟨rule, active, made⟩ := List.mem_flatMap.mp emitted
  obtain ⟨value, carried, encoded⟩ := List.mem_filterMap.mp made
  obtain ⟨member, applies⟩ := List.mem_filter.mp active
  obtain ⟨named, typed, isActive⟩ := of_decide_eq_true applies
  refine ⟨rule, value, ?_, isActive, carried, encoded⟩
  rw [encoders_of_build built]
  exact List.mem_filter.mpr ⟨member, by simp [named, typed]⟩

variable (built : build (infos.foldl TypeInfos.register []) rules = .ok registry)
  (registered : TypeInfo.lastOf? infos .claim = some .claims)
  (bundled : ∀ rule ∈ rulesOf rules, rule.type = .claim →
    ∃ transcoder ∈ Claim.transcoders, rule.transcoder = ⟨.claim, transcoder⟩)
include built registered bundled

theorem mem_decoders_of_makes (makes : registry.Makes facts attr rule value claim) :
    rule ∈ @decoders registry .claim claim := by
  have found := makes.found
  rw [encoders_of_build built] at found
  obtain ⟨member, applies⟩ := List.mem_filter.mp found
  obtain ⟨_, typed⟩ := of_decide_eq_true applies
  obtain ⟨transcoder, ours, same⟩ := bundled rule member typed
  obtain ⟨other, sameAgain, _, made⟩ := TranscodingRule.encode?_eq_some_iff.mp makes.encoded
  cases same.symm.trans sameAgain
  obtain ⟨named, filled⟩ := Properties.claimName_eq_ok_iff.mp (Claim.claimName_of_encode ours made)
  -- The name of the claim is the key under which the rule stands in the other index.
  have name : @TypeInfo.nameOf? infos .claim claim = some claim.name := by
    rw [TypeInfo.nameOf?, registered]
    simp [TypeInfo.canonicalName?, TypeInfo.claims, Option.filter, filled]
  have key : rule.encodedName? = some claim.name := by
    rw [TranscodingRule.encodedName?, same]
    simp [Claim.encodedName_eq ours, named, Option.filter, filled]
  rw [decoders_of_build built, name]
  exact List.mem_filter.mpr ⟨member, by simp [key, typed]⟩

theorem decode_of_makes (makes : registry.Makes facts attr rule value claim) {back : Value}
    (decoded : rule.decode? .claim facts claim = some back) (strict : Bool) :
    ∃ attributes, @decode registry facts .claim claim strict = .ok attributes ∧
      Carries attributes attr.id back := by
  have found := makes.found
  rw [encoders_of_build built] at found
  obtain ⟨named, _⟩ := of_decide_eq_true (List.mem_filter.mp found).2
  have contributes : rule.contribution? .claim facts claim = some { id := attr.id, values := .ofList [back] } := by
    rw [TranscodingRule.contribution?, if_pos makes.active, named, decoded]
    rfl
  have carries : Carries (mergeAttributes ((@decoders registry .claim claim).filterMap
      (·.contribution? .claim facts claim))) attr.id back := by
    refine carries_mergeAttributes.mpr ⟨_, List.mem_filterMap.mpr ⟨rule, ?_, contributes⟩, rfl, by simp⟩
    exact mem_decoders_of_makes built registered bundled makes
  refine ⟨_, ?_, carries⟩
  -- An attribute has been found, so strictness has nothing to miss.
  rw [decode_eq, if_neg]
  obtain ⟨attr, member, _⟩ := carries
  simp [List.ne_nil_of_mem member]

end

/-- Claims of an attribute are decoded by the rules that made them. Whatever such a rule reads in its
own claim comes back as a value of the attribute, and where the transcoder keeps the whole of a value that
is the value itself. -/
theorem claims_lead_back (infos : List TypeInfo) (rules : List TranscodingRule) (registry : Registry)
    (built : build (infos.foldl TypeInfos.register []) rules = .ok registry)
    (registered : TypeInfo.lastOf? infos .claim = some .claims)
    (bundled : ∀ rule ∈ rulesOf rules, rule.type = .claim →
      ∃ transcoder ∈ Claim.transcoders, rule.transcoder = ⟨.claim, transcoder⟩)
    (facts : Facts) (attr : Attribute) :
    ∃ all first, registry.encodeAll .claim facts attr = .ok all ∧ registry.encodeFirst .claim facts attr = .ok first ∧
      (∀ claim : Claim, claim ∈ all ∨ claim ∈ first → ∃ rule value, registry.Makes facts attr rule value claim) ∧
      ∀ rule value claim, registry.Makes facts attr rule value claim →
        rule ∈ @decoders registry .claim claim ∧
        (∀ back, rule.decode? .claim facts claim = some back → ∀ strict,
          ∃ attributes, @decode registry facts .claim claim strict = .ok attributes ∧
            Carries attributes attr.id back) ∧
        ∀ transcoder, rule.transcoder = ⟨.claim, transcoder⟩ → Claim.Keeps rule.properties transcoder value →
          rule.decode? .claim facts claim = some value := by
  refine ⟨_, _, encodeAll_of_build built .claim facts attr, encodeFirst_of_build built .claim facts attr, ?_, ?_⟩
  · rintro claim (inAll | inFirst)
    · exact exists_makes built inAll
    · refine exists_makes built (List.mem_flatMap.mpr ?_)
      cases productive : ((activeEncoders rules .claim facts attr).map (block .claim facts attr)).find? (!·.isEmpty) with
      | none =>
        rw [productive] at inFirst
        cases inFirst
      | some objects =>
        obtain ⟨rule, active, rfl⟩ := List.mem_map.mp (List.mem_of_find?_eq_some productive)
        rw [productive] at inFirst
        exact ⟨rule, active, inFirst⟩
  · intro rule value claim makes
    refine ⟨mem_decoders_of_makes built registered bundled makes,
      fun back decoded => decode_of_makes built registered bundled makes decoded, ?_⟩
    intro transcoder same keeps
    obtain ⟨other, sameAgain, _, made⟩ := TranscodingRule.encode?_eq_some_iff.mp makes.encoded
    cases same.symm.trans sameAgain
    exact TranscodingRule.decode?_eq_some_iff.mpr ⟨transcoder, same, Claim.decode_of_keeps keeps made⟩

/-- Affiliations as claims with a scope, and as plain claims of the same name. -/
def affiliationRules : List TranscodingRule :=
  let properties : Properties :=
    .ofList [(Properties.attributeId, .string "affiliation"), (Properties.name, .string "role"),
      (Properties.scopeDelimiter, .string "::")]
  [⟨properties, ⟨.claim, Claim.scopedTranscoder⟩, none⟩, ⟨properties, ⟨.claim, Claim.stringTranscoder⟩, none⟩]

/-- The scope is read back although the value holds a part of the delimiter. -/
theorem claims_lead_back_affiliation :
    ∃ registry, build ([TypeInfo.claims].foldl TypeInfos.register []) affiliationRules = .ok registry ∧
      ∃ attributes,
        @decode registry default .claim (Claim.ofText "role" "a:staff::b.org") true = .ok attributes ∧
          Carries attributes "affiliation" (.scoped "a:staff" "b.org") := by
  have built : build ([TypeInfo.claims].foldl TypeInfos.register []) affiliationRules = .ok _ := rfl
  have bundled : ∀ rule ∈ rulesOf affiliationRules, rule.type = .claim →
      ∃ transcoder ∈ Claim.transcoders, rule.transcoder = ⟨.claim, transcoder⟩ := by
    intro rule member _
    have listed := (rulesOf_sublist affiliationRules).subset member
    simp only [affiliationRules, List.mem_cons, List.not_mem_nil, or_false] at listed
    rcases listed with rfl | rfl
    · exact ⟨_, List.mem_cons_of_mem _ (List.mem_cons_self ..), rfl⟩
    · exact ⟨_, List.mem_cons_self .., rfl⟩
  obtain ⟨_, _, _, _, _, back⟩ := claims_lead_back [TypeInfo.claims] affiliationRules _ built rfl bundled default
    { id := "affiliation", values := .ofList [.scoped "a:staff" "b.org"] }
  let rule : TranscodingRule := affiliationRules.head (by simp [affiliationRules])
  obtain ⟨_, decodes, keeps⟩ := back rule (.scoped "a:staff" "b.org") (Claim.ofText "role" "a:staff::b.org")
    ⟨List.mem_cons_self .., rfl, List.mem_cons_self .., rfl⟩
  have split : Text.splitLastChars rule.properties.delimiter.toList
      ("a:staff" ++ rule.properties.delimiter ++ "b.org").toList = some ("a:staff".toList, "b.org".toList) := by
    decide
  have last : ∀ place, "a:staff".length < place →
      ¬ Text.OccursAt rule.properties.delimiter.toList ("a:staff" ++ rule.properties.delimiter ++ "b.org").toList place :=
    (Text.splitLastChars_sound (by decide) split).2
  exact ⟨_, built, decodes _ (keeps _ rfl (.ofScoped "a:staff" "b.org" (by decide) (by decide) last)) true⟩

end Registry

end AttributeRelease
