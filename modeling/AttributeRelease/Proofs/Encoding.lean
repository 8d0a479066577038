import AttributeRelease.Proofs.Exchange

/-! Encoding by the first productive rule is the beginning of encoding by all rules: both pass over the same rules and
the same values, and differ only in where they stop. -/

namespace AttributeRelease

/-- The first list that holds anything comes first among all that is held. -/
theorem find?_prefix_flatten {α : Type} (blocks : List (List α)) :
    (blocks.find? (!·.isEmpty)).getD [] <+: blocks.flatten := by
  induction blocks with
  | nil => exact List.prefix_refl []
  | cons block rest ih =>
    cases block with
    | nil => exact ih
    | cons item items => exact List.prefix_append _ _

theorem find?_eq_nil_iff {α : Type} {blocks : List (List α)} :
    (blocks.find? (!·.isEmpty)).getD [] = [] ↔ blocks.flatten = [] := by
  induction blocks with
  | nil => exact Iff.rfl
  | cons block rest ih =>
    cases block with
    | nil => exact ih
    | cons item items => exact ⟨nofun, nofun⟩

namespace Registry

theorem block_eq_encodeValues {type : WireType} {rule : TranscodingRule} {typed : TypedTranscoder type}
    (same : rule.transcoder = ⟨type, typed⟩) (facts : Facts) (attr : Attribute) :
    block type facts attr rule = typed.encodeValues rule.properties facts attr := by
  have found : rule.transcoder.typed? type = some typed := Transcoder.typed?_eq_some_iff.mpr same
  refine congrArg (List.filterMap · attr.values.toList) (funext fun value => ?_)
  rw [TranscodingRule.encode?, found, Option.bind_some]

/-- Encoding by all rules puts the blocks of the active rules one after the other, and encoding by the first productive
rule is the first of the blocks that is not empty. So the one is the beginning of the other, and neither fails: every
rule that is found has a transcoder for the type. -/
theorem encodeFirst_starts_encodeAll {types : TypeInfos} {rules : List TranscodingRule} {registry : Registry}
    (built : build types rules = .ok registry) (type : WireType) (facts : Facts) (attr : Attribute) :
    let blocks := ((registry.encoders type attr).filter (·.isActive facts)).map (block type facts attr)
    (∀ rule ∈ registry.encoders type attr, ∃ typed, rule.transcoder = ⟨type, typed⟩ ∧
      block type facts attr rule = typed.encodeValues rule.properties facts attr) ∧
    ∃ first all, registry.encodeFirst type facts attr = .ok first ∧ registry.encodeAll type facts attr = .ok all ∧
      all = blocks.flatten ∧ first = (blocks.find? (!·.isEmpty)).getD [] ∧ first <+: all ∧ (first = [] ↔ all = []) := by
  intro blocks
  have found := encoders_of_build built type attr
  refine ⟨fun rule member => ?_, _, _, encodeFirst_of_encoders found facts, encodeAll_of_encoders found facts, ?_⟩
  · obtain ⟨typed, typed?, _⟩ := rule.typed_of_type (type_of_mem_encoders found member) attr.id
    have same := Transcoder.typed?_eq_some_iff.mp typed?
    exact ⟨typed, same, block_eq_encodeValues same facts attr⟩
  · rw [← active_encoders found]
    exact ⟨rfl, rfl, find?_prefix_flatten blocks, find?_eq_nil_iff⟩

/-- Of four rules for an attribute, the first is for principals, the second can encode bytes only, and the third values
with a scope. -/
private def badgeRules : List TranscodingRule :=
  let writes (name : String) (transcoder : TypedTranscoder .claim) : TranscodingRule :=
    { properties := .ofList [(Properties.attributeId, .string "badge"), (Properties.name, .string name)]
      transcoder := ⟨.claim, transcoder⟩ }
  let signedIn : ActivationCondition := ⟨"signed in", fun facts => facts.principal.isSome⟩
  [{ writes "member" Claim.stringTranscoder with condition := some signedIn }, writes "chip" Claim.binaryTranscoder,
    writes "office" Claim.scopedTranscoder, writes "label" Claim.stringTranscoder]

/-- The block of the third rule is the first that is not empty, and the fourth rule adds to it. -/
theorem encodeFirst_starts_encodeAll_badge :
    let facts : Facts := { requestTime := .epoch }
    let badge : Attribute := { id := "badge", values := .ofList [.string "ann", .scoped "bob" "north"] }
    let offices := [Claim.ofText "office" "bob@north"]
    ∃ registry all, build [TypeInfo.claims] badgeRules = .ok registry ∧
      registry.encodeFirst .claim facts badge = .ok offices ∧ registry.encodeAll .claim facts badge = .ok all ∧
      all = offices ++ [Claim.ofText "label" "ann", Claim.ofText "label" "bob@north"] ∧ offices <+: all := by
  intro facts badge offices
  obtain ⟨registry, built, few, many⟩ : ∃ registry, build [TypeInfo.claims] badgeRules = .ok registry ∧
      registry.encodeFirst .claim facts badge = .ok offices ∧ registry.encodeAll .claim facts badge =
        .ok (offices ++ [Claim.ofText "label" "ann", Claim.ofText "label" "bob@north"]) := ⟨_, rfl, rfl, rfl⟩
  obtain ⟨_, first, all, encodeFirst, encodeAll, _, _, starts, _⟩ :=
    encodeFirst_starts_encodeAll built .claim facts badge
  cases Except.ok.inj (encodeFirst.symm.trans few)
  exact ⟨registry, all, built, few, encodeAll, Except.ok.inj (encodeAll.symm.trans many), starts⟩

end Registry

end AttributeRelease
