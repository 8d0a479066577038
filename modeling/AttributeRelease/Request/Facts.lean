import AttributeRelease.Attribute.Serial
import AttributeRelease.Request.Timestamp

/-! What is known about the request for which attributes are released. -/

namespace AttributeRelease

structure Facts where
  /-- The subject whose attributes are released. -/
  principal : Option String := none
  /-- The party that receives them. -/
  requester : Option String := none
  /-- The party that issues them. -/
  responder : Option String := none
  /-- Parties for which a proxying requester acts. -/
  proxiedRequesters : List String := []
  /-- Methods by which the principal was authenticated in this session. -/
  authenticationMethods : List String := []
  session : Dictionary String := ∅
  requestTime : Timestamp
  deriving DecidableEq

namespace Facts

instance : Inhabited Facts := ⟨{ requestTime := .epoch }⟩

def sessionFact? (facts : Facts) (name : String) : Option String := facts.session.get? name

private def optionalField (name : String) : Option String → List (String × Json)
  | none => []
  | some value => [(name, .string value)]

/-- Facts that are absent or empty are left out. -/
def toJson (facts : Facts) : Json :=
  let list (name : String) (texts : List String) : List (String × Json) :=
    if texts.isEmpty then [] else [(name, .strings texts)]
  .ofFields (optionalField "principal" facts.principal ++
    optionalField "requester" facts.requester ++
    optionalField "responder" facts.responder ++
    list "proxiedRequesters" facts.proxiedRequesters ++
    list "authenticationMethods" facts.authenticationMethods ++
    (if facts.session.isEmpty then [] else [("session", .ofTexts facts.session)]) ++
    [("requestTime", .string facts.requestTime.text)])

def ofJson? (json : Json) : Option Facts := do
  let json ← json.record? ["principal", "requester", "responder", "proxiedRequesters",
    "authenticationMethods", "session", "requestTime"]
  return {
    principal := ← json.optional "principal" Json.string?
    requester := ← json.optional "requester" Json.string?
    responder := ← json.optional "responder" Json.string?
    proxiedRequesters := ← json.defaulted "proxiedRequesters" [] Json.strings?
    authenticationMethods := ← json.defaulted "authenticationMethods" [] Json.strings?
    session := ← json.defaulted "session" ∅ Json.texts?
    requestTime := ← json.required "requestTime" fun time => do
      Timestamp.ofText? (← time.string?) }

end Facts

end AttributeRelease
