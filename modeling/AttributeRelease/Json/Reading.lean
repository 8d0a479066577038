import AttributeRelease.Json.Basic

/-! Reading a JSON value from its text. A reader gives what it read and the characters after it. -/

namespace AttributeRelease.Json

def skipBlanks (chars : List Char) : List Char :=
  chars.dropWhile fun char => char == ' ' || char == '\n' || char == '\r' || char == '\t'

def hexValue? (char : Char) : Option Nat :=
  if '0' ≤ char && char ≤ '9' then some (char.toNat - 48)
  else if 'a' ≤ char && char ≤ 'f' then some (char.toNat - 87)
  else if 'A' ≤ char && char ≤ 'F' then some (char.toNat - 55)
  else none

private def fourHex? : List Char → Option (Nat × List Char)
  | a :: b :: c :: d :: rest => do
    let a ← hexValue? a
    let b ← hexValue? b
    let c ← hexValue? c
    let d ← hexValue? d
    some (((a * 16 + b) * 16 + c) * 16 + d, rest)
  | _ => none

/-- The character of a `\u` escape. A character beyond the first plane takes two escapes. -/
private def unicodeEscape? (chars : List Char) : Option (Char × List Char) := do
  let (high, rest) ← fourHex? chars
  if high < 0xd800 || 0xdfff < high then some (Char.ofNat high, rest)
  else if 0xdc00 ≤ high then none
  else
    match rest with
    | '\\' :: 'u' :: rest => do
      let (low, rest) ← fourHex? rest
      if 0xdc00 ≤ low && low ≤ 0xdfff then
        some (Char.ofNat (0x10000 + (high - 0xd800) * 0x400 + (low - 0xdc00)), rest)
      else none
    | _ => none

/-- The characters of a string up to its closing quote. Every step takes a character, so the
length of the input is fuel enough. -/
private def stringBody : Nat → List Char → List Char → Option (String × List Char)
  | 0, _, _ => none
  | fuel + 1, done, chars =>
    match chars with
    | '"' :: rest => some (.ofList done.reverse, rest)
    | '\\' :: 'u' :: rest => do
      let (char, rest) ← unicodeEscape? rest
      stringBody fuel (char :: done) rest
    | '\\' :: char :: rest => do
      let plain ← match char with
        | '"' => some '"'
        | '\\' => some '\\'
        | '/' => some '/'
        | 'b' => some (Char.ofNat 8)
        | 'f' => some (Char.ofNat 12)
        | 'n' => some '\n'
        | 'r' => some '\r'
        | 't' => some '\t'
        | _ => none
      stringBody fuel (plain :: done) rest
    | char :: rest => if char.toNat < 32 then none else stringBody fuel (char :: done) rest
    | [] => none

private def digitsValue (digits : List Char) : Nat :=
  digits.foldl (fun value digit => value * 10 + (digit.toNat - 48)) 0

/-- The number `digits * 10 ^ exponent`, rounded to the nearest double. -/
def decimalNumber? (negative : Bool) (digits : Nat) (exponent : Int) : Option Json := do
  let size := Float.ofScientific digits (exponent < 0) exponent.natAbs
  (Double.ofFloat? (if negative then -size else size)).map .number

private def exponentPart : List Char → Option (Int × List Char)
  | [] => some (0, [])
  | mark :: rest =>
    if mark == 'e' || mark == 'E' then
      let (negative, rest) := match rest with
        | '-' :: rest => (true, rest)
        | '+' :: rest => (false, rest)
        | rest => (false, rest)
      let digits := rest.takeWhile Char.isDigit
      if digits.isEmpty then none
      else
        let size : Int := digitsValue digits
        some (if negative then -size else size, rest.dropWhile Char.isDigit)
    else some (0, mark :: rest)

/-- A number without fraction and exponent is an integer when 64 bits hold it, but a negative
zero is not. -/
private def numberValue (chars : List Char) : Option (Json × List Char) := do
  let (negative, chars) := match chars with
    | '-' :: rest => (true, rest)
    | chars => (false, chars)
  let whole := chars.takeWhile Char.isDigit
  let rest := chars.dropWhile Char.isDigit
  if whole.isEmpty || (whole.length > 1 && whole.head? == some '0') then none
  let (fraction, rest) ← match rest with
    | '.' :: rest =>
      let fraction := rest.takeWhile Char.isDigit
      if fraction.isEmpty then none else some (fraction, rest.dropWhile Char.isDigit)
    | rest => some ([], rest)
  let plain := fraction.isEmpty && !(rest.head? == some 'e' || rest.head? == some 'E')
  let (exponent, rest) ← exponentPart rest
  let size := digitsValue (whole ++ fraction)
  let value : Int := if negative then -size else size
  if plain && isExactInteger value && !(negative && size == 0) then some (.integer value, rest)
  else
    let number ← decimalNumber? negative size (exponent - fraction.length)
    some (number, rest)

mutual
/-- One value. Every call but the first of an array or object follows a character taken. -/
private def value : Nat → List Char → Option (Json × List Char)
  | 0, _ => none
  | fuel + 1, chars =>
    match skipBlanks chars with
    | 'n' :: 'u' :: 'l' :: 'l' :: rest => some (.null, rest)
    | 't' :: 'r' :: 'u' :: 'e' :: rest => some (.bool true, rest)
    | 'f' :: 'a' :: 'l' :: 's' :: 'e' :: rest => some (.bool false, rest)
    | '"' :: rest => do
      let (text, rest) ← stringBody (rest.length + 1) [] rest
      some (.string text, rest)
    | '[' :: rest =>
      match skipBlanks rest with
      | ']' :: rest => some (.array [], rest)
      | rest => do
        let (items, rest) ← itemsValue fuel [] rest
        some (.array items, rest)
    | '\x7b' :: rest =>
      match skipBlanks rest with
      | '\x7d' :: rest => some (.object [], rest)
      | rest => do
        let (fields, rest) ← fieldsValue fuel [] rest
        some (ofFields fields, rest)
    | chars => numberValue chars

private def itemsValue : Nat → List Json → List Char → Option (List Json × List Char)
  | 0, _, _ => none
  | fuel + 1, done, chars => do
    let (item, rest) ← value fuel chars
    match skipBlanks rest with
    | ',' :: rest => itemsValue fuel (item :: done) rest
    | ']' :: rest => some ((item :: done).reverse, rest)
    | _ => none

private def fieldsValue : Nat → List (String × Json) → List Char →
    Option (List (String × Json) × List Char)
  | 0, _, _ => none
  | fuel + 1, done, chars => do
    match skipBlanks chars with
    | '"' :: rest => do
      let (name, rest) ← stringBody (rest.length + 1) [] rest
      match skipBlanks rest with
      | ':' :: rest => do
        let (item, rest) ← value fuel rest
        match skipBlanks rest with
        | ',' :: rest => fieldsValue fuel ((name, item) :: done) rest
        | '\x7d' :: rest => some (((name, item) :: done).reverse, rest)
        | _ => none
      | _ => none
    | _ => none
end

/-- The value that a text spells, with nothing but blanks around it. -/
def read? (text : String) : Option Json := do
  let chars := text.toList
  let (json, rest) ← value (2 * chars.length + 2) chars
  if (skipBlanks rest).isEmpty then some json else none

end AttributeRelease.Json
