import AttributeRelease.Regex.Token

/-! Regular expressions from their tokens. -/

namespace AttributeRelease.Regex

structure Flags where
  ignoreCase : Bool := false
  multiLine : Bool := false
  dotAll : Bool := false

def Flags.change (flags : Flags) (change : FlagChange) : Flags :=
  change.foldl (fun flags (flag, on) =>
    match flag with
    | .ignoreCase => { flags with ignoreCase := on }
    | .multiLine => { flags with multiLine := on }
    | .dotAll => { flags with dotAll := on }
    | .irrelevant _ => flags) flags

/-- A group that is still open. -/
structure Level where
  /-- The flags in force outside of the group. -/
  outside : Flags := {}
  /-- Finished alternatives, the last one first. -/
  alternatives : List Regex := []
  /-- The parts of the current alternative, the last one first. A change of flags is a part
  that cannot be repeated. -/
  parts : List (Option Regex) := []

namespace Level

def add (level : Level) (part : Regex) : Level := { level with parts := some part :: level.parts }

def sequence (level : Level) : Regex :=
  level.parts.foldl (fun rest part => part.elim rest (·.andThen rest)) .empty

def nextAlternative (level : Level) : Level :=
  { level with alternatives := level.sequence :: level.alternatives, parts := [] }

def close (level : Level) : Regex :=
  level.alternatives.foldl (fun rest alternative => .alt alternative rest) level.sequence

end Level

/-- Repetitions beyond this size are refused rather than expanded. -/
def maxSize : Nat := 300000

structure ParserState where
  flags : Flags := {}
  names : List String := []
  current : Level := {}
  enclosing : List Level := []

namespace ParserState

private def dotSet (flags : Flags) : CharSet :=
  if flags.dotAll then .complement .nothing else .complement (.single '\n')

private def add (state : ParserState) (part : Regex) : ParserState :=
  { state with current := state.current.add part }

def step (state : ParserState) : Token → Option ParserState
  | .set set => some (state.add (.oneOf state.flags.ignoreCase set))
  | .dot => some (state.add (.oneOf false (dotSet state.flags)))
  | .lineStart =>
    some (state.add (.check (if state.flags.multiLine then .lineStart else .textStart)))
  | .lineEnd => some (state.add (.check (if state.flags.multiLine then .lineEnd else .textEnd)))
  | .check assertion => some (state.add (.check assertion))
  | .bar => some { state with current := state.current.nextAlternative }
  | .openGroup name? change =>
    let fresh := name?.all fun name => !state.names.contains name
    if fresh then
      some {
        flags := state.flags.change change
        names := name?.toList ++ state.names
        current := { outside := state.flags }
        enclosing := state.current :: state.enclosing }
    else none
  | .closeGroup =>
    match state.enclosing with
    | [] => none
    | outer :: rest =>
      some { state with
        flags := state.current.outside
        current := outer.add state.current.close
        enclosing := rest }
  | .setFlags change =>
    some { state with
      flags := state.flags.change change
      current := { state.current with parts := none :: state.current.parts } }
  | .repetition min max =>
    match state.current.parts with
    | some part :: parts =>
      if part.size * (max.getD min + 1) ≤ maxSize then
        let parts := some (part.repeated min max) :: parts
        some { state with current := { state.current with parts } }
      else none
    | _ => none

end ParserState

/-- The expression that a text describes, if it describes one. -/
def parse? (source : String) : Option Regex := do
  let state ← (← tokens? source).foldlM ParserState.step {}
  if state.enclosing.isEmpty then some state.current.close else none

end AttributeRelease.Regex
