import AttributeRelease.Proofs.Alphabets
import AttributeRelease.Proofs.Delimiters
import AttributeRelease.Proofs.Validity
import AttributeRelease.Transcoding.Claims

/-! The texts that the transcoders for claims write for values, and read values from. What is read from a text would be
written as that text. -/

namespace AttributeRelease

namespace Properties

theorem claimName_eq_ok_iff {properties : Properties} {text : String} :
    properties.claimName = .ok text ↔ properties.string? name = some text ∧ text ≠ "" := by
  rw [claimName, require]
  cases properties.string? name with
  | none => simp
  | some other =>
    by_cases empty : other = ""
    · subst empty
      constructor
      · intro impossible
        cases impossible
      · rintro ⟨same, filled⟩
        exact absurd (Option.some.inj same).symm filled
    · simp only [Option.filter, bne_iff_ne, ne_eq, empty, not_false_eq_true, if_true, Except.ok.injEq,
        Option.some.injEq]
      exact ⟨fun same => ⟨same, same ▸ empty⟩, And.left⟩

theorem string?_eq_some_iff {properties : Properties} {key text : String} :
    properties.string? key = some text ↔ properties.get? key = some (.string text) := by
  rw [string?, Option.bind_eq_some_iff]
  constructor
  · rintro ⟨property, found, same⟩
    cases property <;> cases same
    exact found
  · exact fun found => ⟨_, found, rfl⟩

theorem delimiter_eq (properties : Properties) :
    properties.delimiter = match properties.get? scopeDelimiter with
      | some (.string text) => if text = "" then "@" else text
      | _ => "@" := by
  rw [delimiter, string?]
  rcases properties.get? scopeDelimiter with _ | (_ | _ | text | _)
  case some.string => by_cases empty : text = "" <;> simp [Property.string?, Option.filter, empty]
  all_goals rfl

theorem delimiter_ne_empty (properties : Properties) : properties.delimiter ≠ "" := by
  rw [delimiter_eq]
  split
  · split
    · decide
    · assumption
  · decide

theorem alphabet_isOk_iff {properties : Properties} :
    (∃ alphabet, properties.alphabet = .ok alphabet) ↔
      ∀ text, properties.get? encodeType = some (.string text) → text = "base64" ∨ text = "base64url" := by
  simp only [← string?_eq_some_iff]
  rw [alphabet]
  split
  case h_1 unset => simp [unset]
  case h_2 set => simp [set]
  case h_3 set => simp [set]
  case h_4 other notStandard notUrlSafe set =>
    constructor
    · rintro ⟨_, impossible⟩
      cases impossible
    · intro known
      rcases known other set with rfl | rfl
      · exact absurd rfl notStandard
      · exact absurd rfl notUrlSafe

end Properties

namespace Claim

/-- The transcoders for claims that come with the library. -/
def transcoders : List (TypedTranscoder .claim) := [stringTranscoder, scopedTranscoder, binaryTranscoder]

theorem mem_transcoders {transcoder : TypedTranscoder .claim} : transcoder ∈ transcoders ↔
    transcoder = stringTranscoder ∨ transcoder = scopedTranscoder ∨ transcoder = binaryTranscoder := by
  simp [transcoders]

/-- The text that a transcoder writes for a value under a rule. -/
inductive Writes (properties : Properties) : TypedTranscoder .claim → Value → String → Prop where
  | string (text : String) : Writes properties stringTranscoder (.string text) text
  | flattened (text scope : String) :
      Writes properties stringTranscoder (.scoped text scope) (scopedText properties text scope)
  | localised (text locale : String) : Writes properties stringTranscoder (.localised text locale) text
  | scoped (text scope : String) :
      Writes properties scopedTranscoder (.scoped text scope) (scopedText properties text scope)
  | binary (data : List UInt8) (alphabet : Base64) (chosen : properties.alphabet = .ok alphabet) :
      Writes properties binaryTranscoder (.binary data) (alphabet.encode data)

section
variable {transcoder : TypedTranscoder .claim} {facts : Facts} {attr : Attribute} {properties : Properties}
  {value : Value} {claim : Claim} {text : String}

theorem encode_of_writes {name : String} (named : properties.claimName = .ok name)
    (writes : Writes properties transcoder value text) :
    transcoder.encode facts attr properties value = .ok (ofText name text) := by
  cases writes with
  | binary data alphabet chosen =>
    refine bind_eq_ok_iff.mpr ⟨name, named, ?_⟩
    rw [chosen]
    rfl
  | _ => exact bind_eq_ok_iff.mpr ⟨name, named, rfl⟩

theorem encode_eq_ok_iff (bundled : transcoder ∈ transcoders) :
    transcoder.encode facts attr properties value = .ok claim ↔
      ∃ name text, properties.claimName = .ok name ∧ Writes properties transcoder value text ∧ claim = ofText name text := by
  refine ⟨fun made => ?_, fun ⟨name, text, named, writes, same⟩ => same ▸ encode_of_writes named writes⟩
  rcases mem_transcoders.mp bundled with rfl | rfl | rfl
  case inl =>
    obtain ⟨name, named, rest⟩ := bind_eq_ok_iff.mp made
    cases value <;> cases rest
    · exact ⟨name, _, named, .string _, rfl⟩
    · exact ⟨name, _, named, .flattened _ _, rfl⟩
    · exact ⟨name, _, named, .localised _ _, rfl⟩
  case inr.inl =>
    obtain ⟨name, named, rest⟩ := bind_eq_ok_iff.mp made
    cases value <;> cases rest
    exact ⟨name, _, named, .scoped _ _, rfl⟩
  case inr.inr =>
    obtain ⟨name, named, rest⟩ := bind_eq_ok_iff.mp made
    cases chosen : properties.alphabet with
    | error problem => simp [chosen] at rest
    | ok alphabet =>
      simp only [chosen] at rest
      cases value <;> cases rest
      exact ⟨name, _, named, .binary _ alphabet chosen, rfl⟩

theorem claimName_of_encode (bundled : transcoder ∈ transcoders)
    (made : transcoder.encode facts attr properties value = .ok claim) : properties.claimName = .ok claim.name := by
  obtain ⟨name, text, named, _, rfl⟩ := (encode_eq_ok_iff bundled).mp made
  exact named

theorem encodedName_eq (bundled : transcoder ∈ transcoders) (properties : Properties) :
    transcoder.encodedName properties = properties.string? Properties.name := by
  rcases mem_transcoders.mp bundled with rfl | rfl | rfl <;> rfl

theorem canEncode_of_writes (writes : Writes properties transcoder value text) : transcoder.canEncode attr value = true := by
  cases writes <;> rfl

theorem exists_writes_iff (bundled : transcoder ∈ transcoders) :
    (∃ text, Writes properties transcoder value text) ↔
      (transcoder = binaryTranscoder → ∃ alphabet, properties.alphabet = .ok alphabet) ∧
        transcoder.canEncode attr value = true := by
  constructor
  · rintro ⟨text, writes⟩
    refine ⟨fun same => ?_, canEncode_of_writes writes⟩
    cases writes with
    | binary data alphabet chosen => exact ⟨alphabet, chosen⟩
    | _ => exact absurd (congrArg TypedTranscoder.name same) (by decide)
  · rintro ⟨spelled, accepted⟩
    rcases mem_transcoders.mp bundled with rfl | rfl | rfl
    case inl =>
      cases value <;> cases accepted
      · exact ⟨_, .string _⟩
      · exact ⟨_, .flattened _ _⟩
      · exact ⟨_, .localised _ _⟩
    case inr.inl =>
      cases value <;> cases accepted
      exact ⟨_, .scoped _ _⟩
    case inr.inr =>
      obtain ⟨alphabet, chosen⟩ := spelled rfl
      cases value <;> cases accepted
      exact ⟨_, .binary _ alphabet chosen⟩

theorem scopedTranscoder_decode_eq_some_iff {name : String} :
    scopedTranscoder.decode facts (ofText name text) properties = .ok (some value) ↔
      ∃ before after, Text.splitLast? properties.delimiter text = some (before, after) ∧ before ≠ "" ∧ after ≠ "" ∧
        value = .scoped before after := by
  have read : scopedTranscoder.decode facts (ofText name text) properties =
      .ok ((Text.splitLast? properties.delimiter text).bind fun parts =>
        if parts.1 != "" && parts.2 != "" then some (.scoped parts.1 parts.2) else none) := rfl
  rw [read, Except.ok.injEq, Option.bind_eq_some_iff]
  constructor
  · rintro ⟨⟨before, after⟩, split, kept⟩
    simp only [Option.ite_none_right_eq_some, Bool.and_eq_true, bne_iff_ne, Option.some.injEq] at kept
    exact ⟨before, after, split, kept.1.1, kept.1.2, kept.2.symm⟩
  · rintro ⟨before, after, split, filled, scopeFilled, rfl⟩
    exact ⟨(before, after), split, by simp [filled, scopeFilled]⟩

/-- A text from which a value is read is the text that is written for this value. -/
theorem writes_of_decode (bundled : transcoder ∈ transcoders)
    (decoded : transcoder.decode facts claim properties = .ok (some value)) :
    ∃ text, claim.value = .string text ∧ Writes properties transcoder value text := by
  obtain ⟨name, content⟩ := claim
  rcases mem_transcoders.mp bundled with rfl | rfl | rfl
  case inl =>
    cases content <;> cases decoded
    exact ⟨_, rfl, .string _⟩
  case inr.inl =>
    cases content with
    | string text =>
      obtain ⟨before, after, split, _, _, rfl⟩ := scopedTranscoder_decode_eq_some_iff.mp decoded
      obtain ⟨same, _⟩ := (Text.splitLast?_eq_some_iff properties.delimiter_ne_empty).mp split
      exact ⟨text, rfl, same ▸ .scoped before after⟩
    | _ => cases decoded
  case inr.inr =>
    cases content with
    | string text =>
      simp only [binaryTranscoder, Json.string?] at decoded
      cases chosen : properties.alphabet with
      | error problem => simp [chosen] at decoded
      | ok alphabet =>
        cases read : alphabet.decode? text with
        | none => simp [chosen, read] at decoded
        | some data =>
          simp only [chosen, read] at decoded
          cases decoded
          exact ⟨text, rfl, alphabet.encode_of_decode? read ▸ .binary data alphabet chosen⟩
    | _ => cases decoded

end

end Claim

end AttributeRelease
