/-! Occurrences of one text in another. -/

namespace AttributeRelease.Text

/-- The characters before and after the last occurrence of `delimiter`. Occurrences may
overlap; the one that starts furthest to the right counts. -/
def splitLastChars (delimiter : List Char) : List Char → Option (List Char × List Char)
  | [] => if delimiter.isEmpty then some ([], []) else none
  | char :: rest =>
    match splitLastChars delimiter rest with
    | some (before, after) => some (char :: before, after)
    | none =>
      if delimiter.isPrefixOf (char :: rest) then
        some ([], (char :: rest).drop delimiter.length)
      else none

/-- The texts before and after the last occurrence of `delimiter`, if there is one. -/
def splitLast? (delimiter text : String) : Option (String × String) :=
  (splitLastChars delimiter.toList text.toList).map fun (before, after) =>
    (.ofList before, .ofList after)

/-- Whether `part` occurs in the characters. -/
def occursIn (part : List Char) : List Char → Bool
  | [] => part.isEmpty
  | char :: rest => part.isPrefixOf (char :: rest) || occursIn part rest

end AttributeRelease.Text
