import AttributeRelease.Regex.CharSet

/-! Regular expressions and the search for a match anywhere in a text. The search keeps the set
of expressions that the rest of the text may still match, and steps through the text one
character at a time. -/

namespace AttributeRelease

/-- A condition on the place between two characters. -/
inductive Assertion where
  | textStart
  | textEnd
  | lineStart
  | lineEnd
  | wordBoundary
  | noWordBoundary
  | wordStart
  | wordEnd
  deriving DecidableEq

/-- A place in a text, given by the characters on its two sides. -/
structure Place where
  before : Option Char
  after : Option Char

def Assertion.holds (place : Place) (assertion : Assertion) : Bool :=
  let wordBefore := place.before.any Text.isWord
  let wordAfter := place.after.any Text.isWord
  match assertion with
  | .textStart => place.before.isNone
  | .textEnd => place.after.isNone
  | .lineStart => place.before.all (· == '\n')
  | .lineEnd => place.after.all (· == '\n')
  | .wordBoundary => wordBefore != wordAfter
  | .noWordBoundary => wordBefore == wordAfter
  | .wordStart => !wordBefore && wordAfter
  | .wordEnd => wordBefore && !wordAfter

inductive Regex where
  | empty
  | oneOf (ignoreCase : Bool) (set : CharSet)
  | check (assertion : Assertion)
  | seq (first second : Regex)
  | alt (left right : Regex)
  | star (body : Regex)
  deriving DecidableEq

namespace Regex

def optional (body : Regex) : Regex := .alt body .empty

/-- Sequence, without a trace of the empty expression. -/
def andThen : Regex → Regex → Regex
  | .empty, second => second
  | first, second => .seq first second

/-- `count` repetitions, followed by `rest`. -/
def times (body : Regex) : Nat → Regex → Regex
  | 0, rest => rest
  | count + 1, rest => andThen body (times body count rest)

/-- At most `count` repetitions. -/
def upTo (body : Regex) : Nat → Regex
  | 0 => .empty
  | count + 1 => optional (andThen body (upTo body count))

/-- At least `min` repetitions, and at most `max` if that is given. -/
def repeated (body : Regex) (min : Nat) : Option Nat → Regex
  | none => times body min (.star body)
  | some max => times body min (upTo body (max - min))

def size : Regex → Nat
  | .seq first second => first.size + second.size + 1
  | .alt left right => left.size + right.size + 1
  | .star body => body.size + 1
  | _ => 1

/-- Whether the expression matches without taking a character at this place. -/
def nullable (place : Place) : Regex → Bool
  | .empty => true
  | .oneOf _ _ => false
  | .check assertion => assertion.holds place
  | .seq first second => first.nullable place && second.nullable place
  | .alt left right => left.nullable place || right.nullable place
  | .star _ => true

/-- The expressions of which one has to match what follows, once `char` is taken at a place
with `before` on its left. -/
def after (before : Option Char) (char : Char) : Regex → List Regex
  | .empty => []
  | .oneOf ignoreCase set => if set.contains ignoreCase char then [.empty] else []
  | .check _ => []
  | .seq first second =>
    (first.after before char).map (·.andThen second) ++
      (if first.nullable ⟨before, some char⟩ then second.after before char else [])
  | .alt left right => left.after before char ++ right.after before char
  | .star body => (body.after before char).map (·.andThen (.star body))

/-- Searches from a place on. A match may begin at every place, and the expressions in `started`
have begun to match before it. -/
def searchFrom (regex : Regex) (before : Option Char) (started : List Regex) :
    List Char → Bool
  | [] => (regex :: started).any (·.nullable ⟨before, none⟩)
  | char :: rest =>
    let current := (regex :: started).eraseDups
    current.any (·.nullable ⟨before, some char⟩) ||
      regex.searchFrom (some char) (current.flatMap (·.after before char)) rest

/-- Whether the expression matches some part of the text. -/
def isMatch (regex : Regex) (text : String) : Bool := regex.searchFrom none [] text.toList

end Regex

end AttributeRelease
