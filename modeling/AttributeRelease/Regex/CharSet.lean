import AttributeRelease.Text.Blank
import AttributeRelease.Text.Case

/-! Sets of characters, as a regular expression describes them. -/

namespace AttributeRelease

inductive CharSet where
  | nothing
  /-- The characters from `first` to `last`. -/
  | range (first last : Char)
  | digit
  | space
  | word
  | union (left right : CharSet)
  | inter (left right : CharSet)
  | complement (set : CharSet)
  /-- Where case is ignored, also the characters that differ from a member only in case. -/
  | foldable (set : CharSet)
  deriving DecidableEq

namespace CharSet

def contains (ignoreCase : Bool) : CharSet → Char → Bool
  | .nothing, _ => false
  | .range first last, char => first ≤ char && char ≤ last
  | .digit, char => Text.isDigit char
  | .space, char => Text.isSpace char
  | .word, char => Text.isWord char
  | .union left right, char => left.contains ignoreCase char || right.contains ignoreCase char
  | .inter left right, char => left.contains ignoreCase char && right.contains ignoreCase char
  | .complement set, char => !set.contains ignoreCase char
  | .foldable set, char =>
    set.contains ignoreCase char ||
      (ignoreCase && (Text.caseVariants char).any (set.contains ignoreCase))

def single (char : Char) : CharSet := .range char char

def difference (left right : CharSet) : CharSet := .inter left (.complement right)

def symmetricDifference (left right : CharSet) : CharSet :=
  .union (left.difference right) (right.difference left)

def ofRanges (ranges : List (Char × Char)) : CharSet :=
  ranges.foldr (fun range set => .union (.range range.1 range.2) set) .nothing

/-- The classes of ASCII characters that have a name. -/
def ascii? : String → Option CharSet
  | "alnum" => some (ofRanges [('0', '9'), ('A', 'Z'), ('a', 'z')])
  | "alpha" => some (ofRanges [('A', 'Z'), ('a', 'z')])
  | "ascii" => some (.range (Char.ofNat 0) (Char.ofNat 127))
  | "blank" => some (ofRanges [('\t', '\t'), (' ', ' ')])
  | "cntrl" => some (ofRanges [(Char.ofNat 0, Char.ofNat 31), (Char.ofNat 127, Char.ofNat 127)])
  | "digit" => some (.range '0' '9')
  | "graph" => some (.range '!' '~')
  | "lower" => some (.range 'a' 'z')
  | "print" => some (.range ' ' '~')
  | "punct" => some (ofRanges [('!', '/'), (':', '@'), ('[', Char.ofNat 96), ('\x7b', '~')])
  | "space" => some (ofRanges [('\t', '\r'), (' ', ' ')])
  | "upper" => some (.range 'A' 'Z')
  | "word" => some (ofRanges [('0', '9'), ('A', 'Z'), ('_', '_'), ('a', 'z')])
  | "xdigit" => some (ofRanges [('0', '9'), ('A', 'F'), ('a', 'f')])
  | _ => none

end CharSet

end AttributeRelease
