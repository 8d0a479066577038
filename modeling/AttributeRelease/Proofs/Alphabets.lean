import AttributeRelease.Transcoding.Base64

/-! Bytes are read back from their text of 64 characters, in both alphabets, and no other text is read as those bytes. -/

namespace AttributeRelease.Base64

variable (alphabet : Base64)

theorem value?_digit {value : Nat} (small : value < 64) : alphabet.value? (alphabet.digit value) = some value := by
  have each : ∀ value < 64, alphabet.value? (alphabet.digit value) = some value := by
    cases alphabet <;> decide
  exact each value small

theorem digit_ne_padding {value : Nat} (small : value < 64) : alphabet.digit value ≠ '=' := by
  have each : ∀ value < 64, alphabet.digit value ≠ '=' := by
    cases alphabet <;> decide
  exact each value small

private theorem toUInt8_eq {value : Nat} {byte : UInt8} (same : value = byte.toNat) : value.toUInt8 = byte := by
  rw [same]
  exact UInt8.ofNat_toNat

-- A byte is cut into digits after six, four and two of its bits.
private theorem first_byte (x : UInt8) (next : Nat) (small : next < 16) :
    (x.toNat / 4 * 4 + (x.toNat % 4 * 16 + next) / 16).toUInt8 = x := by
  apply toUInt8_eq
  omega

private theorem second_byte (y : UInt8) (above next : Nat) (small : next < 4) :
    ((above * 16 + y.toNat / 16) % 16 * 16 + (y.toNat % 16 * 4 + next) / 4).toUInt8 = y := by
  have bound := y.toNat_lt
  apply toUInt8_eq
  omega

private theorem third_byte (z : UInt8) {above : Nat} :
    ((above * 4 + z.toNat / 64) % 4 * 64 + z.toNat % 64).toUInt8 = z := by
  have bound := z.toNat_lt
  apply toUInt8_eq
  omega

theorem decodeLast?_pair (x : UInt8) :
    alphabet.decodeLast? [alphabet.digit (x.toNat / 4), alphabet.digit (x.toNat % 4 * 16)] = some [x] := by
  have bound := x.toNat_lt
  have high : x.toNat / 4 < 64 := by omega
  have low : x.toNat % 4 * 16 < 64 := by omega
  have unused : x.toNat % 4 * 16 % 16 = 0 := by omega
  have byte := first_byte x 0 (by decide)
  rw [Nat.add_zero] at byte
  simp only [decodeLast?, value?_digit, high, low, unused, byte, Option.bind_eq_bind, Option.bind_some, if_true]

theorem decodeLast?_triple (x y : UInt8) :
    alphabet.decodeLast? [alphabet.digit (x.toNat / 4), alphabet.digit (x.toNat % 4 * 16 + y.toNat / 16),
      alphabet.digit (y.toNat % 16 * 4)] = some [x, y] := by
  have boundX := x.toNat_lt
  have boundY := y.toNat_lt
  have high : x.toNat / 4 < 64 := by omega
  have middle : x.toNat % 4 * 16 + y.toNat / 16 < 64 := by omega
  have low : y.toNat % 16 * 4 < 64 := by omega
  have unused : y.toNat % 16 * 4 % 4 = 0 := by omega
  have first := first_byte x (y.toNat / 16) (by omega)
  have second := second_byte y (x.toNat % 4) 0 (by decide)
  rw [Nat.add_zero] at second
  simp only [decodeLast?, value?_digit, high, middle, low, unused, first, second, Option.bind_eq_bind,
    Option.bind_some, if_true]

theorem decodeChars?_encodeBytes (data : List UInt8) :
    alphabet.decodeChars? (alphabet.encodeBytes data) = some data := by
  fun_induction encodeBytes alphabet data with
  | case1 => cases alphabet <;> rfl
  | case2 x =>
    have last := decodeLast?_pair alphabet x
    cases alphabet with
    | standard => simpa [padding, decodeChars?, unpad?] using last
    | urlSafe => simpa [padding, decodeChars?, unpad?] using last
  | case3 x y =>
    have last := decodeLast?_triple alphabet x y
    have bound := y.toNat_lt
    have third : alphabet.digit (y.toNat % 16 * 4) ≠ '=' := alphabet.digit_ne_padding (by omega)
    cases alphabet with
    | standard => simpa [padding, decodeChars?, unpad?, third] using last
    | urlSafe => simpa [padding, decodeChars?, unpad?] using last
  | case4 x y z rest ih =>
    have boundX := x.toNat_lt
    have boundY := y.toNat_lt
    have boundZ := z.toNat_lt
    have first : x.toNat / 4 < 64 := by omega
    have second : x.toNat % 4 * 16 + y.toNat / 16 < 64 := by omega
    have third : y.toNat % 16 * 4 + z.toNat / 64 < 64 := by omega
    have fourth : z.toNat % 64 < 64 := by omega
    rw [decodeChars?, if_neg (digit_ne_padding alphabet fourth), ih]
    simp only [value?_digit, first, second, third, fourth, Option.bind_eq_bind, Option.bind_some, pure]
    rw [first_byte x _ (by omega), second_byte y _ _ (by omega), third_byte z]

theorem decode?_encode (data : List UInt8) : alphabet.decode? (alphabet.encode data) = some data := by
  rw [decode?, encode, String.toList_ofList]
  exact decodeChars?_encodeBytes alphabet data

theorem digit_of_value? {char : Char} {value : Nat} (found : alphabet.value? char = some value) :
    value < 64 ∧ alphabet.digit value = char := by
  -- The letters and figures of the alphabet stand in the order of their codes.
  have ranged {first value : Nat} (index : first + value = char.toNat) : Char.ofNat (first + value) = char := by
    rw [index, Char.ofNat_toNat]
  simp only [value?, Bool.and_eq_true, decide_eq_true_eq, beq_iff_eq] at found
  split at found
  case isTrue upper =>
    cases found
    have low : 65 ≤ char.toNat := upper.1
    have high : char.toNat ≤ 90 := upper.2
    rw [digit, if_pos (by omega)]
    exact ⟨by omega, ranged (by omega)⟩
  split at found
  case isTrue lower =>
    cases found
    have low : 97 ≤ char.toNat := lower.1
    have high : char.toNat ≤ 122 := lower.2
    rw [digit, if_neg (by omega), if_pos (by omega)]
    exact ⟨by omega, ranged (by omega)⟩
  split at found
  case isTrue figure =>
    cases found
    have low : 48 ≤ char.toNat := figure.1
    have high : char.toNat ≤ 57 := figure.2
    have shifted : char.toNat + 4 - 4 = char.toNat := by omega
    rw [digit, if_neg (by omega), if_neg (by omega), if_pos (by omega), shifted, Char.ofNat_toNat]
    exact ⟨by omega, rfl⟩
  split at found
  case isTrue same =>
    cases found
    exact ⟨by decide, same.symm⟩
  split at found
  case isTrue same =>
    cases found
    exact ⟨by decide, same.symm⟩
  case isFalse => cases found

private theorem toNat_toUInt8 {value : Nat} (small : value < 256) : value.toUInt8.toNat = value :=
  UInt8.toNat_ofNat_of_lt' small

-- A digit is put together from the one or two bytes that its bits have gone into.
private theorem first_digit {a b : Nat} (small : a < 64) (nextSmall : b < 64) :
    (a * 4 + b / 16).toUInt8.toNat / 4 = a := by
  rw [toNat_toUInt8 (by omega)]
  omega

private theorem second_digit {a b next : Nat} (aboveSmall : a < 64) (small : b < 64) (nextSmall : next < 16) :
    (a * 4 + b / 16).toUInt8.toNat % 4 * 16 + (b % 16 * 16 + next).toUInt8.toNat / 16 = b := by
  rw [toNat_toUInt8 (by omega), toNat_toUInt8 (by omega)]
  omega

private theorem third_digit {b c next : Nat} (small : c < 64) (nextSmall : next < 64) :
    (b % 16 * 16 + c / 4).toUInt8.toNat % 16 * 4 + (c % 4 * 64 + next).toUInt8.toNat / 64 = c := by
  rw [toNat_toUInt8 (by omega), toNat_toUInt8 (by omega)]
  omega

private theorem fourth_digit {c d : Nat} (small : d < 64) : (c % 4 * 64 + d).toUInt8.toNat % 64 = d := by
  rw [toNat_toUInt8 (by omega)]
  omega

theorem encodeBytes_of_decodeLast? {group : List Char} {data : List UInt8}
    (decoded : alphabet.decodeLast? group = some data) :
    alphabet.encodeBytes data = group ++ alphabet.padding ((4 - group.length) % 4) := by
  match group with
  | [] =>
    cases decoded
    cases alphabet <;> rfl
  | [_] => cases decoded
  | [a, b] =>
    simp only [decodeLast?, Option.bind_eq_bind, Option.bind_eq_some_iff] at decoded
    obtain ⟨high, highFound, low, lowFound, decoded⟩ := decoded
    obtain ⟨highSmall, rfl⟩ := alphabet.digit_of_value? highFound
    obtain ⟨lowSmall, rfl⟩ := alphabet.digit_of_value? lowFound
    split at decoded
    case isFalse => cases decoded
    case isTrue unused =>
      cases decoded
      have second : (high * 4 + low / 16).toUInt8.toNat % 4 * 16 = low := by
        rw [toNat_toUInt8 (by omega)]
        omega
      rw [encodeBytes, first_digit highSmall lowSmall, second]
      rfl
  | [a, b, c] =>
    simp only [decodeLast?, Option.bind_eq_bind, Option.bind_eq_some_iff] at decoded
    obtain ⟨high, highFound, middle, middleFound, low, lowFound, decoded⟩ := decoded
    obtain ⟨highSmall, rfl⟩ := alphabet.digit_of_value? highFound
    obtain ⟨middleSmall, rfl⟩ := alphabet.digit_of_value? middleFound
    obtain ⟨lowSmall, rfl⟩ := alphabet.digit_of_value? lowFound
    split at decoded
    case isFalse => cases decoded
    case isTrue unused =>
      cases decoded
      have third : (middle % 16 * 16 + low / 4).toUInt8.toNat % 16 * 4 = low := by
        rw [toNat_toUInt8 (by omega)]
        omega
      rw [encodeBytes, first_digit highSmall middleSmall, second_digit highSmall middleSmall (by omega), third]
      rfl
  | _ :: _ :: _ :: _ :: _ => cases decoded

theorem eq_append_padding {group bare : List Char} (unpadded : alphabet.unpad? group = some bare) :
    group = bare ++ alphabet.padding ((4 - bare.length) % 4) := by
  unfold unpad? at unpadded
  split at unpadded <;> cases unpadded
  · exact (List.append_nil _).symm
  all_goals rfl

theorem encodeBytes_of_unpad? {group : List Char} {data : List UInt8}
    (decoded : (alphabet.unpad? group >>= alphabet.decodeLast?) = some data) : alphabet.encodeBytes data = group := by
  obtain ⟨bare, unpadded, decoded⟩ := Option.bind_eq_some_iff.mp decoded
  rw [alphabet.encodeBytes_of_decodeLast? decoded, ← alphabet.eq_append_padding unpadded]

theorem encodeBytes_of_decodeChars? {text : List Char} {data : List UInt8}
    (decoded : alphabet.decodeChars? text = some data) : alphabet.encodeBytes data = text := by
  fun_induction decodeChars? alphabet text generalizing data with
  | case1 a b c rest last =>
    cases rest with
    | nil => exact alphabet.encodeBytes_of_unpad? decoded
    | cons next others => cases last
  | case2 => cases decoded
  | case3 a b c d rest unpadded ih =>
    simp only [Option.bind_eq_bind, Option.bind_eq_some_iff] at decoded
    obtain ⟨first, firstFound, second, secondFound, third, thirdFound, fourth, fourthFound, others, found, made⟩ := decoded
    obtain ⟨firstSmall, rfl⟩ := alphabet.digit_of_value? firstFound
    obtain ⟨secondSmall, rfl⟩ := alphabet.digit_of_value? secondFound
    obtain ⟨thirdSmall, rfl⟩ := alphabet.digit_of_value? thirdFound
    obtain ⟨fourthSmall, rfl⟩ := alphabet.digit_of_value? fourthFound
    cases made
    rw [encodeBytes, ih found, first_digit firstSmall secondSmall,
      second_digit firstSmall secondSmall (by omega : third / 4 < 16), third_digit thirdSmall fourthSmall,
      fourth_digit fourthSmall]
  | case4 group => exact alphabet.encodeBytes_of_unpad? decoded

/-- Decoding takes nothing but what encoding gives. -/
theorem encode_of_decode? {text : String} {data : List UInt8} (decoded : alphabet.decode? text = some data) :
    alphabet.encode data = text := by
  rw [encode, alphabet.encodeBytes_of_decodeChars? decoded, String.ofList_toList]

end AttributeRelease.Base64
