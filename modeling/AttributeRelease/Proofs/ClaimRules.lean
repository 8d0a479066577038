import AttributeRelease.Proofs.ClaimTexts
import AttributeRelease.Transcoding.Exchange
import Mathlib.Data.List.Forall2

/-! What a rule with one of the transcoders for claims makes of claims and of values. A claim that is decoded is encoded
again as it was, a value with a scope returns exactly if its delimiter is the last one, and a rule encodes either all
values that its transcoder accepts or none. -/

namespace AttributeRelease

/-- A transcoder that encodes every value that it accepts makes one object of each of them, in their order. -/
theorem TypedTranscoder.encodeValues_forall₂ {type : WireType} {transcoder : TypedTranscoder type} {properties : Properties}
    {facts : Facts} {attr : Attribute}
    (total : ∀ value, transcoder.canEncode attr value = true →
      ∃ object, transcoder.encode facts attr properties value = .ok object) :
    List.Forall₂ (fun value object => transcoder.encode facts attr properties value = .ok object)
      (attr.values.toList.filter (transcoder.canEncode attr)) (transcoder.encodeValues properties facts attr) := by
  rw [encodeValues]
  induction attr.values.toList with
  | nil => exact .nil
  | cons value rest ih =>
    by_cases accepted : transcoder.canEncode attr value = true
    · obtain ⟨object, made⟩ := total value accepted
      rw [List.filter_cons_of_pos accepted, List.filterMap_cons_some (by rw [if_pos accepted, made]; rfl)]
      exact .cons made ih
    · rw [List.filter_cons_of_neg accepted, List.filterMap_cons_none (by rw [if_neg accepted])]
      exact ih

namespace Claim

section
variable {transcoder : TypedTranscoder .claim} {facts : Facts} {attr : Attribute} {properties : Properties}
  {value : Value} {claim : Claim}

/-- A claim of the name of a rule is what the rule makes of the value that is decoded from it. So under one rule no
value stands for two claims of that name. -/
theorem encode_of_decode (bundled : transcoder ∈ transcoders) (named : properties.string? Properties.name = some claim.name)
    (filled : claim.name ≠ "") (decoded : transcoder.decode facts claim properties = .ok (some value)) :
    (∀ facts attr, transcoder.canEncode attr value = true ∧
      transcoder.encode facts attr properties value = .ok claim) ∧
    ∀ (other : Claim) (facts : Facts), other.name = claim.name →
      transcoder.decode facts other properties = .ok (some value) → other = claim := by
  have found : properties.claimName = .ok claim.name := Properties.claimName_eq_ok_iff.mpr ⟨named, filled⟩
  have returns {given : Claim} {facts : Facts} (same : given.name = claim.name)
      (decoded : transcoder.decode facts given properties = .ok (some value)) (later : Facts) (attr : Attribute) :
      transcoder.canEncode attr value = true ∧ transcoder.encode later attr properties value = .ok given := by
    obtain ⟨text, content, writes⟩ := writes_of_decode bundled decoded
    have written : given = ofText claim.name text := by
      rw [ofText, ← same, ← content]
    exact ⟨canEncode_of_writes writes, written ▸ encode_of_writes found writes⟩
  refine ⟨returns rfl decoded, fun other facts same otherDecoded => ?_⟩
  -- What the value is encoded as is either of the two.
  have first := (returns rfl decoded facts { id := "" }).2
  have second := (returns same otherDecoded facts { id := "" }).2
  exact Except.ok.inj (second.symm.trans first)

private def delimited (name delimiter : String) : Properties :=
  .ofList [(Properties.name, .string name), (Properties.scopeDelimiter, .string delimiter)]

private def spelled (name alphabet : String) : Properties :=
  .ofList [(Properties.name, .string name), (Properties.encodeType, .string alphabet)]

private theorem all_bundled :
    stringTranscoder ∈ transcoders ∧ scopedTranscoder ∈ transcoders ∧ binaryTranscoder ∈ transcoders := by
  simp [transcoders]

/-- One text is the whole of a string, a value and its scope, or three bytes. With a scope the last of two delimiters
counts, so the first is written again as a part of the value. -/
theorem encode_of_decode_role :
    let leadsBack (transcoder : TypedTranscoder .claim) (properties : Properties) (claim : Claim) (value : Value) : Prop :=
      transcoder.decode default claim properties = .ok (some value) ∧
        transcoder.encode default { id := "affiliation" } properties value = .ok claim ∧
        ∀ other : Claim, other.name = claim.name →
          transcoder.decode default other properties = .ok (some value) → other = claim
    leadsBack stringTranscoder (delimited "role" "::") (ofText "role" "a::staff::b.org") (.string "a::staff::b.org") ∧
      leadsBack scopedTranscoder (delimited "role" "::") (ofText "role" "a::staff::b.org") (.scoped "a::staff" "b.org") ∧
      leadsBack binaryTranscoder (spelled "role" "base64url") (ofText "role" "-_8g") (.binary [251, 255, 32]) := by
  intro leadsBack
  have returns {transcoder : TypedTranscoder .claim} {properties : Properties} {claim : Claim} {value : Value}
      (bundled : transcoder ∈ transcoders) (named : properties.string? Properties.name = some claim.name)
      (filled : claim.name ≠ "") (decoded : transcoder.decode default claim properties = .ok (some value)) :
      leadsBack transcoder properties claim value := by
    obtain ⟨encodes, only⟩ := encode_of_decode bundled named filled decoded
    exact ⟨decoded, (encodes default _).2, fun other => only other default⟩
  obtain ⟨strings, scopes, bytes⟩ := all_bundled
  exact ⟨returns strings rfl (by decide) rfl, returns scopes rfl (by decide) rfl, returns bytes rfl (by decide) rfl⟩

/-- A value with a scope is always written and its text read without an error. The value returns exactly if both of its
parts hold something and the delimiter between them is the last one in the text; if a later one stands in the scope, or
begins in the delimiter itself, what is read is another value or nothing. -/
theorem scoped_returns_iff {name : String} (named : properties.string? Properties.name = some name) (filled : name ≠ "")
    (text scope : String) :
    let delimiter := properties.delimiter
    (delimiter = match properties.get? Properties.scopeDelimiter with
      | some (.string given) => if given = "" then "@" else given
      | _ => "@") ∧
    ∀ (facts later : Facts) (attr : Attribute), ∃ claim back,
      scopedTranscoder.encode facts attr properties (.scoped text scope) = .ok claim ∧
      scopedTranscoder.decode later claim properties = .ok back ∧
      (back = some (.scoped text scope) ↔ text ≠ "" ∧ scope ≠ "" ∧ ∀ place, text.length < place →
        ¬ Text.OccursAt delimiter.toList (text ++ delimiter ++ scope).toList place) ∧
      (delimiter.toList <:+: scope.toList ∨ Text.Overlaps delimiter.toList scope.toList →
        ∀ value, back = some value → ∃ before after, value = .scoped before after ∧ (before, after) ≠ (text, scope)) := by
  intro delimiter
  refine ⟨properties.delimiter_eq, fun facts later attr => ?_⟩
  have found : properties.claimName = .ok name := Properties.claimName_eq_ok_iff.mpr ⟨named, filled⟩
  obtain ⟨back, decoded⟩ : ∃ back,
      scopedTranscoder.decode later (ofText name (scopedText properties text scope)) properties = .ok back := ⟨_, rfl⟩
  have read {value : Value} : back = some value ↔ ∃ before after,
      Text.splitLast? delimiter (text ++ delimiter ++ scope) = some (before, after) ∧ before ≠ "" ∧ after ≠ "" ∧
        value = .scoped before after := by
    rw [← Except.ok.injEq, ← decoded]
    exact scopedTranscoder_decode_eq_some_iff
  have splits {before after : String} : Text.splitLast? delimiter (text ++ delimiter ++ scope) = some (before, after) ↔
      _ := Text.splitLast?_eq_some_iff properties.delimiter_ne_empty
  refine ⟨_, back, encode_of_writes found (.scoped text scope), decoded, ⟨fun returned => ?_, ?_⟩, ?_⟩
  · obtain ⟨before, after, split, textFilled, scopeFilled, same⟩ := read.mp returned
    cases same
    exact ⟨textFilled, scopeFilled, (splits.mp split).2⟩
  · rintro ⟨textFilled, scopeFilled, last⟩
    exact read.mpr ⟨text, scope, splits.mpr ⟨rfl, last⟩, textFilled, scopeFilled, rfl⟩
  · intro again value returned
    obtain ⟨before, after, split, _, _, same⟩ := read.mp returned
    refine ⟨before, after, same, fun kept => ?_⟩
    cases kept
    have chars : delimiter.toList ≠ [] := by simpa using properties.delimiter_ne_empty
    obtain ⟨place, beyond, occurs⟩ := (Text.occursAt_beyond_iff chars).mpr again
    refine (splits.mp split).2 place (String.length_toList ▸ beyond) ?_
    rw [String.toList_append, String.toList_append]
    exact occurs

/-- The delimiter overlaps itself on its way into the scope, which therefore loses its first letter. -/
theorem scoped_returns_iff_doubled :
    Text.Overlaps "aa".toList "ay".toList ∧
      (∃ claim, scopedTranscoder.encode default { id := "code" } (delimited "code" "aa") (.scoped "x" "ay") = .ok claim ∧
        scopedTranscoder.decode default claim (delimited "code" "aa") = .ok (some (.scoped "xa" "y"))) ∧
      ¬ ∀ place, "x".length < place → ¬ Text.OccursAt "aa".toList "xaaay".toList place := by
  obtain ⟨_, returns⟩ := @scoped_returns_iff (delimited "code" "aa") "code" rfl (by decide) "x" "ay"
  obtain ⟨claim, back, made, decoded, exactly, _⟩ := returns default default { id := "code" }
  have same : ofText "code" "xaaay" = claim := Except.ok.inj made
  have read : scopedTranscoder.decode default (ofText "code" "xaaay") (delimited "code" "aa") =
      .ok (some (.scoped "xa" "y")) := rfl
  rw [← same, read] at decoded
  cases decoded
  refine ⟨⟨1, by decide⟩, ⟨claim, made, same ▸ read⟩, fun last => ?_⟩
  have other := exactly.mpr ⟨by decide, by decide, last⟩
  revert other
  decide

/-- A rule names its claims, and for bytes it asks for a known alphabet or for none. -/
structure WellFormed (transcoder : TypedTranscoder .claim) (properties : Properties) : Prop where
  named : ∃ name, properties.get? Properties.name = some (.string name) ∧ name ≠ ""
  spelled : transcoder = binaryTranscoder → ∀ text, properties.get? Properties.encodeType = some (.string text) →
    text = "base64" ∨ text = "base64url"

theorem wellFormed_iff : WellFormed transcoder properties ↔ (∃ name, properties.claimName = .ok name) ∧
    (transcoder = binaryTranscoder → ∃ alphabet, properties.alphabet = .ok alphabet) := by
  simp only [Properties.claimName_eq_ok_iff, Properties.string?_eq_some_iff, Properties.alphabet_isOk_iff]
  exact ⟨fun ⟨named, spelled⟩ => ⟨named, spelled⟩, fun ⟨named, spelled⟩ => ⟨named, spelled⟩⟩

/-- The check of a value and its encoding agree: under a rule that is well formed, what passes the check is encoded, and
nothing else is. -/
theorem encode_isOk_iff (bundled : transcoder ∈ transcoders) :
    (∃ claim, transcoder.encode facts attr properties value = .ok claim) ↔
      WellFormed transcoder properties ∧ transcoder.canEncode attr value = true := by
  rw [wellFormed_iff, and_assoc, ← exists_writes_iff bundled]
  simp only [encode_eq_ok_iff bundled]
  constructor
  · rintro ⟨_, name, text, named, writes, _⟩
    exact ⟨⟨name, named⟩, text, writes⟩
  · rintro ⟨⟨name, named⟩, text, writes⟩
    exact ⟨_, name, text, named, writes, rfl⟩

/-- A rule that is well formed makes one claim of its name of every value that its transcoder accepts, in the order of the
values. Any other rule makes none at all. A value that is not accepted cannot be encoded under any rule. -/
theorem encodes_all_or_nothing (bundled : transcoder ∈ transcoders) (properties : Properties) (facts : Facts)
    (attr : Attribute) :
    (WellFormed transcoder properties → ∃ name, properties.get? Properties.name = some (.string name) ∧
      List.Forall₂ (fun value claim => claim.name = name ∧ transcoder.encode facts attr properties value = .ok claim)
        (attr.values.toList.filter (transcoder.canEncode attr)) (transcoder.encodeValues properties facts attr)) ∧
    (¬ WellFormed transcoder properties → transcoder.encodeValues properties facts attr = []) ∧
    ∀ value, transcoder.canEncode attr value = false →
      ∃ problem, transcoder.encode facts attr properties value = .error problem := by
  refine ⟨fun wellFormed => ?_, fun malformed => ?_, fun value rejected => ?_⟩
  · obtain ⟨name, named, _⟩ := wellFormed.named
    refine ⟨name, named, (TypedTranscoder.encodeValues_forall₂ fun value accepted => ?_).imp fun value claim made => ?_⟩
    · exact (encode_isOk_iff bundled).mpr ⟨wellFormed, accepted⟩
    · obtain ⟨sameName, _⟩ := Properties.claimName_eq_ok_iff.mp (claimName_of_encode bundled made)
      rw [Properties.string?_eq_some_iff, named] at sameName
      cases sameName
      exact ⟨rfl, made⟩
  · refine List.filterMap_eq_nil_iff.mpr fun value _ => ?_
    split
    case isFalse => rfl
    case isTrue =>
      cases made : transcoder.encode facts attr properties value with
      | error problem => rfl
      | ok claim => exact absurd ((encode_isOk_iff bundled).mp ⟨claim, made⟩).1 malformed
  · cases made : transcoder.encode facts attr properties value with
    | error problem => exact ⟨problem, rfl⟩
    | ok claim =>
      have accepted := ((encode_isOk_iff bundled).mp ⟨claim, made⟩).2
      rw [rejected] at accepted
      cases accepted

/-- Each transcoder makes claims of its own kind of values and leaves the others out. The alphabet matters for bytes only:
if it is unknown nothing is made of them. Without a name no transcoder makes anything. -/
theorem encodes_all_or_nothing_keys :
    let keys : Attribute :=
      { id := "keys", values := .ofList [.binary [222, 173], .string "none", .scoped "a" "b.org", .binary [251]] }
    let names (transcoder : TypedTranscoder .claim) (properties : Properties) :=
      (transcoder.encodeValues properties default keys).map Claim.name
    (names stringTranscoder (spelled "key" "hex") = ["key", "key"] ∧
      names scopedTranscoder (spelled "key" "hex") = ["key"] ∧
      names binaryTranscoder (spelled "key" "base64url") = ["key", "key"]) ∧
    (names binaryTranscoder (spelled "key" "hex") = [] ∧
      ∀ transcoder ∈ transcoders, transcoder.encodeValues (spelled "" "base64") default keys = []) ∧
    (∃ problem, stringTranscoder.encode default keys (spelled "key" "hex") (.binary [251]) = .error problem) ∧
    (∃ problem, scopedTranscoder.encode default keys (spelled "key" "hex") (.string "none") = .error problem) ∧
    ∃ problem, binaryTranscoder.encode default keys (spelled "key" "base64url") (.string "none") = .error problem := by
  intro keys names
  obtain ⟨strings, scopes, bytes⟩ := all_bundled
  have same {transcoder : TypedTranscoder .claim} {properties : Properties} (bundled : transcoder ∈ transcoders)
      (given : properties.get? Properties.name = some (.string "key")) (wellFormed : WellFormed transcoder properties) :
      names transcoder properties = (keys.values.toList.filter (transcoder.canEncode keys)).map fun _ => "key" := by
    obtain ⟨name, named, made⟩ := (encodes_all_or_nothing bundled properties default keys).1 wellFormed
    obtain rfl : "key" = name := Property.string.inj (Option.some.inj (given.symm.trans named))
    have named := List.forall₂_map_left_iff.mpr (List.forall₂_map_right_iff.mpr (made.imp fun _ _ both => both.1.symm))
    rw [List.forall₂_eq_eq_eq] at named
    exact named.symm
  have unnamed (transcoder : TypedTranscoder .claim) : ¬ WellFormed transcoder (spelled "" "base64") := by
    rintro ⟨⟨name, named, filled⟩, _⟩
    cases named
    exact filled rfl
  have unknown : ¬ WellFormed binaryTranscoder (spelled "key" "hex") := by
    intro wellFormed
    have named := wellFormed.spelled rfl "hex" rfl
    revert named
    decide
  refine ⟨⟨same strings rfl ?_, same scopes rfl ?_, same bytes rfl ?_⟩, ⟨?_, fun transcoder bundled => ?_⟩, ?_, ?_, ?_⟩
  · exact ⟨⟨"key", rfl, by decide⟩, fun other => absurd (congrArg TypedTranscoder.name other) (by decide)⟩
  · exact ⟨⟨"key", rfl, by decide⟩, fun other => absurd (congrArg TypedTranscoder.name other) (by decide)⟩
  · exact wellFormed_iff.mpr ⟨⟨"key", rfl⟩, fun _ => ⟨.urlSafe, rfl⟩⟩
  · exact congrArg (List.map Claim.name) ((encodes_all_or_nothing bytes _ default keys).2.1 unknown)
  · exact (encodes_all_or_nothing bundled _ default keys).2.1 (unnamed transcoder)
  · exact (encodes_all_or_nothing strings _ default keys).2.2 _ rfl
  · exact (encodes_all_or_nothing scopes _ default keys).2.2 _ rfl
  · exact (encodes_all_or_nothing bytes _ default keys).2.2 _ rfl

end

end Claim

end AttributeRelease
