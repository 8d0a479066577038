import AttributeRelease.Regex.Basic

/-! The tokens of a regular expression. Whether case counts, and what a line is, depends on
flags that are in force where a token stands; a token leaves that open. -/

namespace AttributeRelease.Regex

inductive Flag where
  | ignoreCase
  | multiLine
  | dotAll
  /-- Flags that make no difference to whether there is a match. -/
  | irrelevant (name : Char)
  deriving DecidableEq

/-- Flags that are switched on or off. -/
abbrev FlagChange := List (Flag × Bool)

inductive Token where
  | set (set : CharSet)
  | dot
  | lineStart
  | lineEnd
  | check (assertion : Assertion)
  | bar
  | openGroup (name? : Option String) (change : FlagChange)
  | closeGroup
  | setFlags (change : FlagChange)
  | repetition (min : Nat) (max : Option Nat)

private def hexDigit? (char : Char) : Option Nat :=
  if '0' ≤ char && char ≤ '9' then some (char.toNat - 48)
  else if 'a' ≤ char && char ≤ 'f' then some (char.toNat - 87)
  else if 'A' ≤ char && char ≤ 'F' then some (char.toNat - 55)
  else none

private def codePoint? (digits : List Char) : Option Char := do
  let values ← digits.mapM hexDigit?
  let code := values.foldl (fun code digit => code * 16 + digit) 0
  if digits.isEmpty || !decide (Nat.isValidChar code) then none else some (Char.ofNat code)

/-- A code point in braces, or of a fixed number of digits. -/
private def hexEscape? (count : Nat) : List Char → Option (Char × List Char)
  | '\x7b' :: rest =>
    match rest.dropWhile (· != '\x7d') with
    | [] => none
    | _ :: after => do
      let char ← codePoint? (rest.takeWhile (· != '\x7d'))
      some (char, after)
  | chars =>
    if (chars.take count).length == count then do
      let char ← codePoint? (chars.take count)
      some (char, chars.drop count)
    else none

/-- What an escape stands for. -/
private inductive Escape where
  | literal (char : Char)
  | set (set : CharSet)
  | check (assertion : Assertion)

/-- The escape after a backslash. Letters and digits without a meaning are refused. -/
private def escape? : List Char → Option (Escape × List Char)
  | [] => none
  | char :: rest =>
    match char with
    | 'd' => some (.set .digit, rest)
    | 'D' => some (.set (.complement .digit), rest)
    | 's' => some (.set .space, rest)
    | 'S' => some (.set (.complement .space), rest)
    | 'w' => some (.set .word, rest)
    | 'W' => some (.set (.complement .word), rest)
    | 'A' => some (.check .textStart, rest)
    | 'z' => some (.check .textEnd, rest)
    | 'b' => some (.check .wordBoundary, rest)
    | 'B' => some (.check .noWordBoundary, rest)
    | '<' => some (.check .wordStart, rest)
    | '>' => some (.check .wordEnd, rest)
    | 'a' => some (.literal (Char.ofNat 7), rest)
    | 'f' => some (.literal (Char.ofNat 12), rest)
    | 't' => some (.literal '\t', rest)
    | 'n' => some (.literal '\n', rest)
    | 'r' => some (.literal '\r', rest)
    | 'v' => some (.literal (Char.ofNat 11), rest)
    | 'x' => (hexEscape? 2 rest).map fun (char, rest) => (.literal char, rest)
    | 'u' => (hexEscape? 4 rest).map fun (char, rest) => (.literal char, rest)
    | 'U' => (hexEscape? 8 rest).map fun (char, rest) => (.literal char, rest)
    | char => if char.toNat < 128 && !char.isAlphanum then some (.literal char, rest) else none

private inductive SetOperation where
  | intersection
  | difference
  | symmetricDifference

private def SetOperation.apply (operation : SetOperation) (left right : CharSet) : CharSet :=
  match operation with
  | .intersection => .inter (.foldable left) (.foldable right)
  | .difference => (CharSet.foldable left).difference (.foldable right)
  | .symmetricDifference => (CharSet.foldable left).symmetricDifference (.foldable right)

/-- A class that is still being read: what stands before the last operator, and the union of
the items after it. -/
private structure ClassState where
  before : Option (CharSet × SetOperation) := none
  items : CharSet := .nothing

private def ClassState.add (state : ClassState) (set : CharSet) : ClassState :=
  { state with items := .union state.items set }

private def ClassState.close (state : ClassState) : CharSet :=
  match state.before with
  | none => state.items
  | some (left, operation) => operation.apply left state.items

private def ClassState.operator (state : ClassState) (operation : SetOperation) : ClassState :=
  { before := some (state.close, operation) }

private def negateIf (negated : Bool) (set : CharSet) : CharSet :=
  if negated then .complement (.foldable set) else .foldable set

/-- A named class such as `[:alpha:]`, after its opening bracket and colon. -/
private def namedClass? (chars : List Char) : Option (CharSet × List Char) := do
  let (negated, chars) := match chars with
    | '^' :: rest => (true, rest)
    | chars => (false, chars)
  let set ← CharSet.ascii? (.ofList (chars.takeWhile (· != ':')))
  match chars.dropWhile (· != ':') with
  | ':' :: ']' :: rest => some (negateIf negated set, rest)
  | _ => none

/-- One end of a range, or an item of its own. -/
private def classItem? : List Char → Option (Escape × List Char)
  | [] => none
  | '\\' :: rest => do
    match ← escape? rest with
    | (.check _, _) => none
    | item => some item
  | char :: rest => some (.literal char, rest)

private def classRange? (chars : List Char) : Option (CharSet × List Char) := do
  let (first, rest) ← classItem? chars
  let alone : CharSet := match first with
    | .literal char => .single char
    | .set set => set
    | .check _ => .nothing
  match rest with
  | '-' :: next :: _ =>
    if next == ']' || next == '-' then some (alone, rest)
    else
      let (last, after) ← classItem? (rest.drop 1)
      match first, last with
      | .literal first, .literal last =>
        if first ≤ last then some (.range first last, after) else none
      | _, _ => none
  | _ => some (alone, rest)

private def leadingDashes (state : ClassState) : List Char → ClassState × List Char
  | '-' :: rest => leadingDashes (state.add (.single '-')) rest
  | chars => (state, chars)

mutual
/-- A class after its opening bracket. A closing bracket that comes first is an item. -/
private def bracketClass? : Nat → List Char → Option (CharSet × List Char)
  | 0, _ => none
  | fuel + 1, chars => do
    let (negated, chars) := match chars with
      | '^' :: rest => (true, rest)
      | chars => (false, chars)
    let (state, rest) := match leadingDashes {} chars with
      | (state, ']' :: rest) =>
        if chars.head? == some '-' then (state, ']' :: rest)
        else (state.add (.single ']'), rest)
      | result => result
    let (set, rest) ← classItems? fuel state rest
    some (negateIf negated set, rest)

private def classItems? : Nat → ClassState → List Char → Option (CharSet × List Char)
  | 0, _, _ => none
  | fuel + 1, state, chars =>
    match chars with
    | [] => none
    | ']' :: rest => some (state.close, rest)
    | '&' :: '&' :: rest => classItems? fuel (state.operator .intersection) rest
    | '-' :: '-' :: rest => classItems? fuel (state.operator .difference) rest
    | '~' :: '~' :: rest => classItems? fuel (state.operator .symmetricDifference) rest
    | '[' :: rest => do
      let named := match rest with
        | ':' :: rest => namedClass? rest
        | _ => none
      let (set, rest) ← match named with
        | some found => some found
        | none => bracketClass? fuel rest
      classItems? fuel (state.add set) rest
    | chars => do
      let (set, rest) ← classRange? chars
      classItems? fuel (state.add set) rest
end

private def flag? : Char → Option Flag
  | 'i' => some .ignoreCase
  | 'm' => some .multiLine
  | 's' => some .dotAll
  | 'U' => some (.irrelevant 'U')
  | 'u' => some (.irrelevant 'u')
  | _ => none

/-- Flags up to the character that ends them. No flag comes twice, and a minus sign comes once
and before a flag. -/
private def flags? (change : FlagChange) (off dangling : Bool) :
    List Char → Option (FlagChange × List Char)
  | [] => none
  | '-' :: rest => if off then none else flags? change true true rest
  | char :: rest =>
    if char == ':' || char == ')' then if dangling then none else some (change, char :: rest)
    else do
      let flag ← flag? char
      if change.any (·.1 == flag) then none else flags? (change ++ [(flag, !off)]) off false rest

private def isNameStart (char : Char) : Bool :=
  char == '_' || (Text.isWord char && !Text.isDigit char)

private def isNameChar (char : Char) : Bool :=
  char == '.' || char == '[' || char == ']' || Text.isWord char

private def groupName? (chars : List Char) : Option (Token × List Char) := do
  let name := chars.takeWhile (· != '>')
  let start ← name.head?
  if !isNameStart start || !name.all isNameChar then none
  match chars.dropWhile (· != '>') with
  | _ :: rest => some (.openGroup (some (.ofList name)) [], rest)
  | [] => none

/-- A group after its opening parenthesis. -/
private def group? : List Char → Option (Token × List Char)
  | '?' :: 'P' :: '<' :: rest => groupName? rest
  | '?' :: '<' :: rest => groupName? rest
  | '?' :: rest => do
    let (change, after) ← flags? [] false false rest
    match after with
    | ':' :: rest => some (.openGroup none change, rest)
    | ')' :: rest => if change.isEmpty then none else some (.setFlags change, rest)
    | _ => none
  | rest => some (.openGroup none [], rest)

private def dropSpaces (chars : List Char) : List Char := chars.dropWhile Text.isSpace

/-- A count of at most 32 bits, with white space around it. -/
private def count? (chars : List Char) : Option (Nat × List Char) :=
  let chars := dropSpaces chars
  let digits := chars.takeWhile Char.isDigit
  let value := digits.foldl (fun value digit => value * 10 + (digit.toNat - 48)) 0
  if digits.isEmpty || value ≥ 0x100000000 then none
  else some (value, dropSpaces (chars.dropWhile Char.isDigit))

/-- A counted repetition after its opening brace. -/
private def counted? (chars : List Char) : Option (Token × List Char) := do
  let (min, rest) ← count? chars
  match rest with
  | '\x7d' :: rest => some (.repetition min (some min), rest)
  | ',' :: '\x7d' :: rest => some (.repetition min none, rest)
  | ',' :: rest => do
    let (max, rest) ← count? rest
    match rest with
    | '\x7d' :: rest => if min ≤ max then some (.repetition min (some max), rest) else none
    | _ => none
  | _ => none

/-- Whether a repetition takes as much as it can makes no difference to a search. -/
private def skipLazy : List Char → List Char
  | '?' :: rest => rest
  | chars => chars

private def token? : List Char → Option (Token × List Char)
  | [] => none
  | char :: rest =>
    match char with
    | '\\' => do
      match ← escape? rest with
      | (.literal char, rest) => some (.set (.foldable (.single char)), rest)
      | (.set set, rest) => some (.set set, rest)
      | (.check assertion, rest) => some (.check assertion, rest)
    | '[' => (bracketClass? (rest.length + 1) rest).map fun (set, rest) => (.set set, rest)
    | '(' => group? rest
    | ')' => some (.closeGroup, rest)
    | '|' => some (.bar, rest)
    | '.' => some (.dot, rest)
    | '^' => some (.lineStart, rest)
    | '$' => some (.lineEnd, rest)
    | '*' => some (.repetition 0 none, skipLazy rest)
    | '+' => some (.repetition 1 none, skipLazy rest)
    | '?' => some (.repetition 0 (some 1), skipLazy rest)
    | '\x7b' => (counted? rest).map fun (token, rest) => (token, skipLazy rest)
    | char => some (.set (.foldable (.single char)), rest)

private def tokensFrom : Nat → List Char → Option (List Token)
  | _, [] => some []
  | 0, _ => none
  | fuel + 1, chars => do
    let (token, rest) ← token? chars
    return token :: (← tokensFrom fuel rest)

/-- The tokens of an expression. Every token takes a character. -/
def tokens? (source : String) : Option (List Token) := tokensFrom source.length source.toList

end AttributeRelease.Regex
