import AttributeRelease.Matcher.Condition
import AttributeRelease.Rule.Condition

/-! Descriptions of conditions. A description holds the text of a pattern, which need not be a
regular expression. -/

namespace AttributeRelease

namespace StringMatch

def toFields (expected : StringMatch) : List (String × Json) :=
  [("value", .string expected.value), ("caseSensitive", .bool expected.caseSensitive)]

/-- Case counts unless it is said not to. -/
def ofJson? (json : Json) : Option StringMatch := do
  return {
    value := ← json.required "value" Json.string?
    caseSensitive := ← json.defaulted "caseSensitive" true Json.bool? }

end StringMatch

inductive ConditionDefinition where
  | requester (expected : StringMatch)
  | requesterPattern (source : String)
  | responder (expected : StringMatch)
  | principal (expected : StringMatch)
  | principalPattern (source : String)
  | proxiedRequester (expected : StringMatch)
  | authenticationMethod (expected : StringMatch)
  deriving DecidableEq

namespace ConditionDefinition

def typeName : ConditionDefinition → String
  | .requester _ => "requester"
  | .requesterPattern _ => "requesterRegex"
  | .responder _ => "responder"
  | .principal _ => "principal"
  | .principalPattern _ => "principalRegex"
  | .proxiedRequester _ => "proxiedRequester"
  | .authenticationMethod _ => "authenticationMethod"

def toFields : ConditionDefinition → List (String × Json)
  | .requester expected => expected.toFields
  | .requesterPattern source => [("regex", .string source)]
  | .responder expected => expected.toFields
  | .principal expected => expected.toFields
  | .principalPattern source => [("regex", .string source)]
  | .proxiedRequester expected => expected.toFields
  | .authenticationMethod expected => expected.toFields

/-- The fields of a type of condition. -/
def fieldNames : String → List String
  | "requesterRegex" | "principalRegex" => ["regex"]
  | _ => ["value", "caseSensitive"]

/-- The condition of the type `name` with the fields of an object. -/
def ofFields? (name : String) (json : Json) : Option ConditionDefinition :=
  match name with
  | "requester" => (StringMatch.ofJson? json).map .requester
  | "requesterRegex" => (json.required "regex" Json.string?).map .requesterPattern
  | "responder" => (StringMatch.ofJson? json).map .responder
  | "principal" => (StringMatch.ofJson? json).map .principal
  | "principalRegex" => (json.required "regex" Json.string?).map .principalPattern
  | "proxiedRequester" => (StringMatch.ofJson? json).map .proxiedRequester
  | "authenticationMethod" => (StringMatch.ofJson? json).map .authenticationMethod
  | _ => none

def build [PatternLanguage] : ConditionDefinition → Except ConfigError Condition
  | .requester expected => .ok (.requester expected)
  | .requesterPattern source => (Pattern.compile source).map .requesterPattern
  | .responder expected => .ok (.responder expected)
  | .principal expected => .ok (.principal expected)
  | .principalPattern source => (Pattern.compile source).map .principalPattern
  | .proxiedRequester expected => .ok (.proxiedRequester expected)
  | .authenticationMethod expected => .ok (.authenticationMethod expected)

end ConditionDefinition

inductive ValueConditionDefinition where
  | any
  | value (expected : StringMatch)
  | scope (expected : StringMatch)
  | valuePattern (source : String)
  | scopePattern (source : String)
  | exact (value : Value)
  deriving DecidableEq

namespace ValueConditionDefinition

def typeName : ValueConditionDefinition → String
  | .any => "any"
  | .value _ => "value"
  | .scope _ => "scope"
  | .valuePattern _ => "valueRegex"
  | .scopePattern _ => "scopeRegex"
  | .exact _ => "exact"

def toFields : ValueConditionDefinition → List (String × Json)
  | .any => []
  | .value expected => expected.toFields
  | .scope expected => expected.toFields
  | .valuePattern source => [("regex", .string source)]
  | .scopePattern source => [("regex", .string source)]
  | .exact expected => [("value", expected.toJson)]

/-- The fields of a type of condition. -/
def fieldNames : String → List String
  | "any" => []
  | "valueRegex" | "scopeRegex" => ["regex"]
  | "exact" => ["value"]
  | _ => ["value", "caseSensitive"]

/-- The condition of the type `name` with the fields of an object. -/
def ofFields? (name : String) (json : Json) : Option ValueConditionDefinition :=
  match name with
  | "any" => some .any
  | "value" => (StringMatch.ofJson? json).map .value
  | "scope" => (StringMatch.ofJson? json).map .scope
  | "valueRegex" => (json.required "regex" Json.string?).map .valuePattern
  | "scopeRegex" => (json.required "regex" Json.string?).map .scopePattern
  | "exact" => (json.required "value" Value.ofJson?).map .exact
  | _ => none

def build [PatternLanguage] : ValueConditionDefinition → Except ConfigError ValueCondition
  | .any => .ok .any
  | .value expected => .ok (.value expected)
  | .scope expected => .ok (.scope expected)
  | .valuePattern source => (Pattern.compile source).map .valuePattern
  | .scopePattern source => (Pattern.compile source).map .scopePattern
  | .exact expected => .ok (.exact expected)

end ValueConditionDefinition

end AttributeRelease
