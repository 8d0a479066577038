import AttributeRelease.Text.CaseTable
import AttributeRelease.Text.Property

/-! Lower case, upper case and case folding of texts in any script. -/

namespace AttributeRelease.Text

private def expand (expansions : List (Nat × List Nat)) (runs : List CaseRun) (char : Char) :
    List Char :=
  match expansions.lookup char.toNat with
  | some codes => codes.map Char.ofNat
  | none =>
    match CaseRun.shift? runs char.toNat with
    | some code => [Char.ofNat code]
    | none => [char]

/-- The lower case form of a character by itself. -/
def lowerChar (char : Char) : List Char :=
  if char.toNat < 128 then [char.toLower] else expand lowerExpansions lowerRuns char

/-- The upper case form of a character. -/
def upperChar (char : Char) : List Char :=
  if char.toNat < 128 then [char.toUpper] else expand upperExpansions upperRuns char

/-- Whether the first character that case does not pass over is a cased one. -/
def startsCased (chars : List Char) : Bool :=
  match chars.dropWhile isCaseIgnorable with
  | [] => false
  | char :: _ => isCased char

/-- The characters before the current one are kept nearest first: a capital sigma takes its
final form at the end of a word, after a letter and not before one. -/
def lowerFrom (before : List Char) : List Char → List Char
  | [] => []
  | 'Σ' :: rest =>
    (if startsCased before && !startsCased rest then 'ς' else 'σ') :: lowerFrom ('Σ' :: before) rest
  | char :: rest => lowerChar char ++ lowerFrom (char :: before) rest

/-- The lower case form of a text. -/
def lower (text : String) : String := .ofList (lowerFrom [] text.toList)

/-- The upper case form of a text. -/
def upper (text : String) : String := .ofList (text.toList.flatMap upperChar)

/-- Equality of texts up to the case of the letters A to Z. -/
def equalIgnoringAsciiCase (left right : String) : Bool :=
  left.toList.map Char.toLower == right.toList.map Char.toLower

private def partner? (code : Nat) (run : CaseRun) : Option Nat :=
  if run.covers code then some ((code : Int) + run.shift).toNat
  else
    let other := ((code : Int) - run.shift).toNat
    if run.covers other then some other else none

/-- The other characters that simple case folding identifies with this one. -/
def caseVariants (char : Char) : List Char :=
  let code := char.toNat
  match foldedClasses.find? (·.contains code) with
  | some members => (members.filter (· != code)).map Char.ofNat
  | none => (foldedPairs.filterMap (partner? code)).map Char.ofNat

end AttributeRelease.Text
