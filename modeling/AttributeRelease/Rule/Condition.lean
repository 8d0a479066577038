import AttributeRelease.Pattern
import AttributeRelease.Request.Basic
import AttributeRelease.Tristate

/-! Conditions on the facts of a request. -/

namespace AttributeRelease

variable [PatternLanguage]

inductive Condition where
  | requester (expected : StringMatch)
  | requesterPattern (pattern : Pattern)
  | responder (expected : StringMatch)
  | principal (expected : StringMatch)
  | principalPattern (pattern : Pattern)
  /-- Some party for which the requester acts. -/
  | proxiedRequester (expected : StringMatch)
  /-- Some method by which the principal was authenticated. -/
  | authenticationMethod (expected : StringMatch)
  deriving DecidableEq

namespace Condition

def kindName : Condition → String
  | .requester _ => "requester"
  | .requesterPattern _ => "requester-regex"
  | .responder _ => "responder"
  | .principal _ => "principal"
  | .principalPattern _ => "principal-regex"
  | .proxiedRequester _ => "proxied-requester"
  | .authenticationMethod _ => "authentication-method"

/-- A condition on a fact that is absent cannot be decided. -/
def onFact (fact : Option String) (accepts : String → Bool) : Tristate :=
  match fact with
  | none => .undecided
  | some value => .ofBool (accepts value)

/-- Without authentication methods nothing is known about them; a request without proxied
requesters simply has none. -/
def evaluate (facts : Facts) : Condition → Tristate
  | .requester expected => onFact facts.requester expected.accepts
  | .requesterPattern pattern => onFact facts.requester pattern.accepts
  | .responder expected => onFact facts.responder expected.accepts
  | .principal expected => onFact facts.principal expected.accepts
  | .principalPattern pattern => onFact facts.principal pattern.accepts
  | .proxiedRequester expected => .ofBool (facts.proxiedRequesters.any expected.accepts)
  | .authenticationMethod expected =>
    if facts.authenticationMethods.isEmpty then .undecided
    else .ofBool (facts.authenticationMethods.any expected.accepts)

end Condition

end AttributeRelease
