/-! Bytes as text of 64 characters. Each text stands for at most one sequence of bytes, and each
sequence has one text: decoding takes nothing but what encoding gives. -/

namespace AttributeRelease

inductive Base64 where
  /-- The standard alphabet, with padding. -/
  | standard
  /-- The alphabet for addresses and file names, without padding. -/
  | urlSafe
  deriving DecidableEq

namespace Base64

/-- The last two characters of the alphabet. -/
def specials : Base64 → Char × Char
  | .standard => ('+', '/')
  | .urlSafe => ('-', '_')

def digit (alphabet : Base64) (value : Nat) : Char :=
  if value < 26 then Char.ofNat (65 + value)
  else if value < 52 then Char.ofNat (71 + value)
  else if value < 62 then Char.ofNat (value - 4)
  else if value = 62 then alphabet.specials.1
  else alphabet.specials.2

def value? (alphabet : Base64) (char : Char) : Option Nat :=
  if 'A' ≤ char && char ≤ 'Z' then some (char.toNat - 65)
  else if 'a' ≤ char && char ≤ 'z' then some (char.toNat - 71)
  else if '0' ≤ char && char ≤ '9' then some (char.toNat + 4)
  else if char == alphabet.specials.1 then some 62
  else if char == alphabet.specials.2 then some 63
  else none

def padding (alphabet : Base64) (count : Nat) : List Char :=
  match alphabet with
  | .standard => List.replicate count '='
  | .urlSafe => []

/-- Three bytes make four characters. -/
def encodeBytes (alphabet : Base64) : List UInt8 → List Char
  | [] => []
  | [x] => [alphabet.digit (x.toNat / 4), alphabet.digit (x.toNat % 4 * 16)] ++ alphabet.padding 2
  | [x, y] =>
    [alphabet.digit (x.toNat / 4), alphabet.digit (x.toNat % 4 * 16 + y.toNat / 16),
      alphabet.digit (y.toNat % 16 * 4)] ++ alphabet.padding 1
  | x :: y :: z :: rest =>
    alphabet.digit (x.toNat / 4) :: alphabet.digit (x.toNat % 4 * 16 + y.toNat / 16) ::
      alphabet.digit (y.toNat % 16 * 4 + z.toNat / 64) :: alphabet.digit (z.toNat % 64) ::
      alphabet.encodeBytes rest

def encode (alphabet : Base64) (data : List UInt8) : String := .ofList (alphabet.encodeBytes data)

/-- The last group of characters, without padding. Bits that are not used have to be zero. -/
def decodeLast? (alphabet : Base64) : List Char → Option (List UInt8)
  | [] => some []
  | [a, b] => do
    let a ← alphabet.value? a
    let b ← alphabet.value? b
    if b % 16 = 0 then some [(a * 4 + b / 16).toUInt8] else none
  | [a, b, c] => do
    let a ← alphabet.value? a
    let b ← alphabet.value? b
    let c ← alphabet.value? c
    if c % 4 = 0 then some [(a * 4 + b / 16).toUInt8, (b % 16 * 16 + c / 4).toUInt8] else none
  | _ => none

/-- The last group of characters without its padding. Where padding is used, the group has four
characters. -/
def unpad? (alphabet : Base64) (group : List Char) : Option (List Char) :=
  match alphabet, group with
  | .urlSafe, group => some group
  | .standard, [] => some []
  | .standard, [a, b, '=', '='] => some [a, b]
  | .standard, [a, b, c, '='] => some [a, b, c]
  | .standard, _ => none

def decodeChars? (alphabet : Base64) : List Char → Option (List UInt8)
  | a :: b :: c :: d :: rest =>
    if d = '=' then do
      if rest.isEmpty then alphabet.decodeLast? (← alphabet.unpad? [a, b, c, d]) else none
    else do
      let a ← alphabet.value? a
      let b ← alphabet.value? b
      let c ← alphabet.value? c
      let d ← alphabet.value? d
      let others ← alphabet.decodeChars? rest
      return (a * 4 + b / 16).toUInt8 :: (b % 16 * 16 + c / 4).toUInt8 ::
        (c % 4 * 64 + d).toUInt8 :: others
  | group => do alphabet.decodeLast? (← alphabet.unpad? group)

def decode? (alphabet : Base64) (text : String) : Option (List UInt8) :=
  alphabet.decodeChars? text.toList

/-- What is wrong with a text that does not stand for bytes. Offsets count its bytes. -/
inductive Fault where
  | symbol (byte : UInt8) (offset : Nat)
  | length (count : Nat)
  /-- Bits that are not used are not zero. -/
  | lastSymbol (byte : UInt8) (offset : Nat)
  | padding

def Fault.message : Fault → String
  | .symbol byte offset => s!"Invalid symbol {byte}, offset {offset}."
  | .length count => s!"Invalid input length: {count}"
  | .lastSymbol byte offset => s!"Invalid last symbol {byte}, offset {offset}."
  | .padding => "Invalid padding"

/-- The byte is a character of the alphabet, which has no other ones than those of one byte. -/
def isSymbol (alphabet : Base64) (byte : UInt8) : Bool :=
  byte < 128 && (alphabet.value? (Char.ofNat byte.toNat)).isSome

private def isPadding (byte : UInt8) : Bool := byte == 61

/-- The first fault of bytes in the last group, which begins at an offset. Only padding after two
symbols may follow the symbols. -/
private def faultOfLast (alphabet : Base64) (offset : Nat) (group : List UInt8) : Fault :=
  let symbols := group.takeWhile alphabet.isSymbol
  let rest := group.drop symbols.length
  match rest.head? with
  | some byte =>
    if symbols.length < 2 || !rest.all isPadding then .symbol byte (offset + symbols.length)
    else if alphabet = .urlSafe || group.length % 4 != 0 then .padding
    else .lastSymbol (symbols.getLastD 0) (offset + symbols.length - 1)
  | none =>
    if symbols.length < 2 then .length (offset + symbols.length)
    else if alphabet = .standard && group.length % 4 != 0 then .padding
    else .lastSymbol (symbols.getLastD 0) (offset + symbols.length - 1)

/-- The fault of a text that cannot be decoded. A single last byte is looked at first, since it
may be a line end; then come the groups in order. -/
def fault (alphabet : Base64) (text : String) : Fault :=
  let bytes := text.toUTF8.toList
  let start := (bytes.length - 1) / 4 * 4
  let last := bytes.getLastD 0
  if bytes.length % 4 = 1 && !(isPadding last || alphabet.isSymbol last) then
    .symbol last (bytes.length - 1)
  else
    match (bytes.take start).findIdx? (!alphabet.isSymbol ·) with
    | some index => .symbol (bytes.getD index 0) index
    | none => faultOfLast alphabet start (bytes.drop start)

end Base64

end AttributeRelease
