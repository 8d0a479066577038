import AttributeRelease.Script.Language
import AttributeRelease.Text.Blank

/-! The tokens of an expression. -/

namespace AttributeRelease.Script

/-- Operators between two operands. -/
inductive Operator where
  | or
  | and
  | equal
  | unequal
  /-- Membership of the left operand in the right one. -/
  | within
  | less
  | lessEqual
  | greater
  | greaterEqual
  | add
  | subtract
  | multiply
  | divide
  | remainder
  deriving DecidableEq

/-- Operators of a higher level bind more tightly. -/
def Operator.level : Operator → Nat
  | .or => 0
  | .and => 1
  | .equal | .unequal => 2
  | .within => 3
  | .less | .lessEqual | .greater | .greaterEqual => 4
  | .add | .subtract => 5
  | .multiply | .divide | .remainder => 6

/-- The level above that of every operator. -/
def Operator.topLevel : Nat := 7

inductive Token where
  | integer (value : Nat)
  | float (value : Float)
  | string (value : String)
  | char (value : Char)
  | bool (value : Bool)
  | name (name : String)
  | operator (operator : Operator)
  | not
  | openParen
  | closeParen
  | openBracket
  | closeBracket
  | openMap
  | closeMap
  | comma
  | colon
  | dot

/-- What follows a comment that may hold further comments. -/
def afterComment : Nat → List Char → List Char
  | _, [] => []
  | depth, '/' :: '*' :: rest => afterComment (depth + 1) rest
  | depth, '*' :: '/' :: rest => if depth ≤ 1 then rest else afterComment (depth - 1) rest
  | depth, _ :: rest => afterComment depth rest

/-- Drops white space and comments in at most `fuel` steps. -/
private def skipTrivia : Nat → List Char → List Char
  | 0, chars => chars
  | fuel + 1, chars =>
    match chars with
    | '/' :: '/' :: rest => skipTrivia fuel (rest.dropWhile (· != '\n'))
    | '/' :: '*' :: rest => skipTrivia fuel (afterComment 1 rest)
    | char :: rest => if Text.isSpace char then skipTrivia fuel rest else chars
    | [] => []

private def hexNumber? (digits : List Char) : Option Nat :=
  digits.foldlM (fun number digit =>
    if '0' ≤ digit && digit ≤ '9' then some (number * 16 + (digit.toNat - 48))
    else if 'a' ≤ digit && digit ≤ 'f' then some (number * 16 + (digit.toNat - 87))
    else if 'A' ≤ digit && digit ≤ 'F' then some (number * 16 + (digit.toNat - 55))
    else none) 0

/-- A character given by a number of hexadecimal digits. -/
private def hexChar? (count : Nat) (chars : List Char) : Option (Char × List Char) := do
  let digits := chars.take count
  let code ← hexNumber? digits
  if digits.length == count && decide (Nat.isValidChar code) then
    some (Char.ofNat code, chars.drop count)
  else none

private def plainEscape? : Char → Option Char
  | '\\' => some '\\'
  | '"' => some '"'
  | '\'' => some '\''
  | 't' => some '\t'
  | 'n' => some '\n'
  | 'r' => some '\r'
  | _ => none

/-- The characters of a literal up to the closing quote. A quote inside of it is written with
a backslash or twice, and a line end does not occur. -/
private def quotedChars? (quote : Char) : Nat → List Char → List Char →
    Option (List Char × List Char)
  | 0, _, _ => none
  | fuel + 1, done, chars =>
    match chars with
    | [] => none
    | '\\' :: 'x' :: rest => do
      let (char, rest) ← hexChar? 2 rest
      quotedChars? quote fuel (char :: done) rest
    | '\\' :: 'u' :: rest => do
      let (char, rest) ← hexChar? 4 rest
      quotedChars? quote fuel (char :: done) rest
    | '\\' :: 'U' :: rest => do
      let (char, rest) ← hexChar? 8 rest
      quotedChars? quote fuel (char :: done) rest
    | '\\' :: mark :: rest => do
      let char ← plainEscape? mark
      quotedChars? quote fuel (char :: done) rest
    | char :: rest =>
      if char == quote then
        match rest with
        | next :: rest =>
          if next == quote then quotedChars? quote fuel (quote :: done) rest
          else some (done.reverse, next :: rest)
        | [] => some (done.reverse, [])
      else if char == '\n' then none
      else quotedChars? quote fuel (char :: done) rest

private def isDigitOrGap (char : Char) : Bool := char.isDigit || char == '_'

/-- The digits at the beginning, without the underscores between them. -/
private def takeDigits (chars : List Char) : List Char × List Char :=
  ((chars.takeWhile isDigitOrGap).filter (· != '_'), chars.dropWhile isDigitOrGap)

private def decimalValue (digits : List Char) : Nat :=
  digits.foldl (fun value digit => value * 10 + (digit.toNat - 48)) 0

private def startsName (char : Char) : Bool := char.isAlpha || char == '_'

private def continuesName (char : Char) : Bool := startsName char || char.isDigit

/-- The digits after a decimal point. A point before a name or another point is no decimal
point. -/
private def fraction? : List Char → Option (List Char × List Char)
  | '.' :: next :: rest =>
    if next.isDigit then some (takeDigits (next :: rest))
    else if startsName next || next == '.' then none
    else some ([], next :: rest)
  | ['.'] => some ([], [])
  | _ => none

/-- A power of ten. -/
private def power? : List Char → Option (Int × List Char)
  | 'e' :: '-' :: rest => do
    let (digits, rest) := takeDigits rest
    if digits.isEmpty then none else some (-(decimalValue digits : Int), rest)
  | 'e' :: rest => do
    let (digits, rest) := takeDigits (match rest with
      | '+' :: rest => rest
      | rest => rest)
    if digits.isEmpty then none else some ((decimalValue digits : Int), rest)
  | _ => none

private def scientific (digits : Nat) (exponent : Int) : Float :=
  Float.ofScientific digits (exponent < 0) exponent.natAbs

private def numberToken? (chars : List Char) : Option (Token × List Char) :=
  let (whole, rest) := takeDigits chars
  match fraction? rest, power? rest with
  | none, none => some (.integer (decimalValue whole), rest)
  | none, some (power, rest) => some (.float (scientific (decimalValue whole) power), rest)
  | some (digits, rest), _ =>
    let (power, rest) := (power? rest).getD (0, rest)
    match rest with
    | '.' :: next :: _ => if next.isDigit then none else some (number digits power, rest)
    | _ => some (number digits power, rest)
where
  number (digits : List Char) (power : Int) : Token :=
    .float (scientific (decimalValue ((takeDigits chars).1 ++ digits)) (power - digits.length))

/-- Words that an expression may not use as names. -/
def reservedWords : List String :=
  ["let", "const", "if", "else", "switch", "do", "while", "until", "loop", "for", "fn", "private",
    "import", "export", "as", "return", "throw", "break", "continue", "try", "catch", "this",
    "global", "var", "static", "shared", "goto", "exit", "match", "case", "public", "protected",
    "new", "use", "with", "is", "module", "package", "super", "thread", "spawn", "go", "await",
    "async", "sync", "yield", "default", "void", "null", "nil"]

private def nameToken? (disabled : List String) (name : String) : Option Token :=
  match name with
  | "true" => some (.bool true)
  | "false" => some (.bool false)
  | "in" => some (.operator .within)
  | name =>
    let lettered := (name.toList.dropWhile (· == '_')).head?.any Char.isAlpha
    if reservedWords.contains name || disabled.contains name || !lettered then none else some (.name name)

private def symbol? : List Char → Option (Token × List Char)
  | '|' :: '|' :: rest => some (.operator .or, rest)
  | '&' :: '&' :: rest => some (.operator .and, rest)
  | '=' :: '=' :: rest => some (.operator .equal, rest)
  | '!' :: '=' :: rest => some (.operator .unequal, rest)
  | '!' :: rest => some (.not, rest)
  | '<' :: '=' :: rest => some (.operator .lessEqual, rest)
  | '<' :: '-' :: _ => none
  | '<' :: rest => some (.operator .less, rest)
  | '>' :: '=' :: rest => some (.operator .greaterEqual, rest)
  | '>' :: rest => some (.operator .greater, rest)
  | '+' :: '+' :: _ => none
  | '+' :: rest => some (.operator .add, rest)
  | '-' :: '-' :: _ => none
  | '-' :: rest => some (.operator .subtract, rest)
  | '*' :: rest => some (.operator .multiply, rest)
  | '/' :: rest => some (.operator .divide, rest)
  | '%' :: rest => some (.operator .remainder, rest)
  | '(' :: rest => some (.openParen, rest)
  | ')' :: rest => some (.closeParen, rest)
  | '[' :: rest => some (.openBracket, rest)
  | ']' :: rest => some (.closeBracket, rest)
  | '#' :: '\x7b' :: rest => some (.openMap, rest)
  | '\x7d' :: rest => some (.closeMap, rest)
  | ',' :: rest => some (.comma, rest)
  | ':' :: rest => some (.colon, rest)
  | '.' :: rest => some (.dot, rest)
  | _ => none

/-- A limit of zero means that there is none. -/
def within (limit size : Nat) : Bool := limit == 0 || size ≤ limit

variable (sandbox : Sandbox)

/-- The first token of a text that begins with one. -/
private def nextToken? (chars : List Char) : Option (Token × List Char) :=
  match chars with
  | '"' :: rest => do
    let (content, rest) ← quotedChars? '"' chars.length [] rest
    let text := String.ofList content
    if within sandbox.maxStringSize text.utf8ByteSize then some (.string text, rest) else none
  | '\'' :: rest => do
    match ← quotedChars? '\'' chars.length [] rest with
    | ([char], rest) => some (.char char, rest)
    | _ => none
  | char :: _ =>
    if char.isDigit then numberToken? chars
    else if startsName char then do
      let token ← nameToken? sandbox.disabledSymbols (.ofList (chars.takeWhile continuesName))
      some (token, chars.dropWhile continuesName)
    else symbol? chars
  | [] => none

private def scanTokens : Nat → List Char → Option (List Token)
  | 0, _ => none
  | fuel + 1, chars =>
    match skipTrivia (chars.length + 1) chars with
    | [] => some []
    | chars => do
      let (token, rest) ← nextToken? sandbox chars
      return token :: (← scanTokens fuel rest)

/-- The tokens of an expression. Every token takes a character. -/
def scan? (expression : String) : Option (List Token) :=
  scanTokens sandbox (expression.length + 1) expression.toList

end AttributeRelease.Script
