import AttributeRelease.Definition.Condition

/-! Descriptions of rules and matchers, and their JSON form. The field `type` tells the kinds
apart. -/

namespace AttributeRelease

mutual
inductive RuleDefinition where
  | any
  | fixed (outcome : Tristate)
  | condition (condition : ConditionDefinition)
  | and (rules : List RuleDefinition)
  | or (rules : List RuleDefinition)
  | not (rule : RuleDefinition)
  | script (expression : String) (custom : Option Json)
  | attributeMatches (attributeId : String) (matcher : MatcherDefinition)

inductive MatcherDefinition where
  | condition (condition : ValueConditionDefinition)
  | fromRule (rule : RuleDefinition)
  | script (expression : String) (custom : Option Json)
  | and (matchers : List MatcherDefinition)
  | or (matchers : List MatcherDefinition)
  | not (matcher : MatcherDefinition)
end

instance : Inhabited RuleDefinition := ⟨.any⟩

instance : Inhabited MatcherDefinition := ⟨.condition .any⟩

/-- An object of the type `name`. -/
def typed (name : String) (fields : List (String × Json)) : Json :=
  .ofFields (("type", .string name) :: fields)

def scriptFields (expression : String) (custom : Option Json) : List (String × Json) :=
  ("expression", .string expression) :: (custom.map fun custom => ("custom", custom)).toList

mutual
def RuleDefinition.toJson : RuleDefinition → Json
  | .any => typed "any" []
  | .fixed outcome => typed "static" [("result", outcome.toJson)]
  | .condition tested => typed tested.typeName tested.toFields
  | .and rules => typed "and" [("rules", .array (rulesJson rules))]
  | .or rules => typed "or" [("rules", .array (rulesJson rules))]
  | .not rule => typed "not" [("rule", rule.toJson)]
  | .script expression custom => typed "script" (scriptFields expression custom)
  | .attributeMatches attributeId matcher =>
    typed "attributeMatches" [("attributeId", .string attributeId), ("matcher", matcher.toJson)]

def rulesJson : List RuleDefinition → List Json
  | [] => []
  | rule :: rest => rule.toJson :: rulesJson rest

def MatcherDefinition.toJson : MatcherDefinition → Json
  | .condition tested => typed tested.typeName tested.toFields
  | .fromRule rule => typed "fromRule" [("rule", rule.toJson)]
  | .script expression custom => typed "script" (scriptFields expression custom)
  | .and matchers => typed "and" [("matchers", .array (matchersJson matchers))]
  | .or matchers => typed "or" [("matchers", .array (matchersJson matchers))]
  | .not matcher => typed "not" [("matcher", matcher.toJson)]

def matchersJson : List MatcherDefinition → List Json
  | [] => []
  | matcher :: rest => matcher.toJson :: matchersJson rest
end

theorem Json.sizeOf_lookup {name : String} {value : Json} :
    {fields : List (String × Json)} → fields.lookup name = some value →
      sizeOf value < sizeOf fields
  | (key, other) :: rest, found => by
    rw [List.lookup_cons] at found
    split at found
    · cases found
      simp only [List.cons.sizeOf_spec, Prod.mk.sizeOf_spec]
      omega
    · have smaller := Json.sizeOf_lookup found
      simp only [List.cons.sizeOf_spec]
      omega

theorem Json.sizeOf_typed {json body value : Json} {names : String → List String} {type name : String}
    (told : json.typed? names = some (type, body)) (found : body.field? name = some value) :
    sizeOf value < sizeOf json := by
  cases json with
  | object fields =>
    obtain ⟨_, _, told⟩ := Option.bind_eq_some_iff.mp told
    obtain ⟨_, _, told⟩ := Option.bind_eq_some_iff.mp told
    cases told
    have smaller := Json.sizeOf_lookup (show fields.lookup name = some value from found)
    simp only [Json.object.sizeOf_spec]
    omega
  | array items =>
    match items, told with
    | .string tag :: items, told =>
      rw [Json.typed?] at told
      split at told
      · cases told
        rcases Dictionary.mem_or_of_lookup_foldl found with given | earlier
        · have smaller := List.sizeOf_lt_of_mem (List.of_mem_zip given).2
          simp only [Json.array.sizeOf_spec, List.cons.sizeOf_spec]
          omega
        · cases earlier
      · cases told
  | _ => cases told

theorem Json.sizeOf_items {json body : Json} {items : List Json} {names : String → List String}
    {type name : String} (told : json.typed? names = some (type, body))
    (found : body.field? name = some (.array items)) : sizeOf items < sizeOf json := by
  have smaller := Json.sizeOf_typed told found
  simp only [Json.array.sizeOf_spec] at smaller
  omega

/-- The fields of a type of rule. -/
def RuleDefinition.fieldNames : String → List String
  | "any" => []
  | "static" => ["result"]
  | "and" | "or" => ["rules"]
  | "not" => ["rule"]
  | "script" => ["expression", "custom"]
  | "attributeMatches" => ["attributeId", "matcher"]
  | name => ConditionDefinition.fieldNames name

/-- The fields of a type of matcher. -/
def MatcherDefinition.fieldNames : String → List String
  | "fromRule" => ["rule"]
  | "script" => ["expression", "custom"]
  | "and" | "or" => ["matchers"]
  | "not" => ["matcher"]
  | name => ValueConditionDefinition.fieldNames name

/-- Reads an expression with its custom object, which may be left out or null. -/
def scriptOf? {α : Type} (json : Json) (make : String → Option Json → α) : Option α := do
  return make (← json.required "expression" Json.string?) (← json.optional "custom" some)

mutual
def RuleDefinition.ofJson? (json : Json) : Option RuleDefinition :=
  match told : json.typed? RuleDefinition.fieldNames with
  | none => none
  | some ("any", _) => some .any
  | some ("static", json) => (json.required "result" Tristate.ofJson?).map .fixed
  | some ("and", json) =>
    match found : json.field? "rules" with
    | some (.array items) =>
      have := Json.sizeOf_items told found
      (rulesOfJson? items).map .and
    | _ => none
  | some ("or", json) =>
    match found : json.field? "rules" with
    | some (.array items) =>
      have := Json.sizeOf_items told found
      (rulesOfJson? items).map .or
    | _ => none
  | some ("not", json) =>
    match found : json.field? "rule" with
    | some rule =>
      have := Json.sizeOf_typed told found
      (RuleDefinition.ofJson? rule).map .not
    | none => none
  | some ("script", json) => scriptOf? json .script
  | some ("attributeMatches", json) =>
    match found : json.field? "matcher" with
    | some matcher =>
      have := Json.sizeOf_typed told found
      match json.required "attributeId" Json.string?, MatcherDefinition.ofJson? matcher with
      | some attributeId, some matcher => some (.attributeMatches attributeId matcher)
      | _, _ => none
    | none => none
  | some (name, json) => (ConditionDefinition.ofFields? name json).map .condition
termination_by sizeOf json

def rulesOfJson? (items : List Json) : Option (List RuleDefinition) :=
  match items with
  | [] => some []
  | item :: rest =>
    match RuleDefinition.ofJson? item, rulesOfJson? rest with
    | some rule, some rules => some (rule :: rules)
    | _, _ => none
termination_by sizeOf items

def MatcherDefinition.ofJson? (json : Json) : Option MatcherDefinition :=
  match told : json.typed? MatcherDefinition.fieldNames with
  | none => none
  | some ("fromRule", json) =>
    match found : json.field? "rule" with
    | some rule =>
      have := Json.sizeOf_typed told found
      (RuleDefinition.ofJson? rule).map .fromRule
    | none => none
  | some ("script", json) => scriptOf? json .script
  | some ("and", json) =>
    match found : json.field? "matchers" with
    | some (.array items) =>
      have := Json.sizeOf_items told found
      (matchersOfJson? items).map .and
    | _ => none
  | some ("or", json) =>
    match found : json.field? "matchers" with
    | some (.array items) =>
      have := Json.sizeOf_items told found
      (matchersOfJson? items).map .or
    | _ => none
  | some ("not", json) =>
    match found : json.field? "matcher" with
    | some matcher =>
      have := Json.sizeOf_typed told found
      (MatcherDefinition.ofJson? matcher).map .not
    | none => none
  | some (name, json) => (ValueConditionDefinition.ofFields? name json).map .condition
termination_by sizeOf json

def matchersOfJson? (items : List Json) : Option (List MatcherDefinition) :=
  match items with
  | [] => some []
  | item :: rest =>
    match MatcherDefinition.ofJson? item, matchersOfJson? rest with
    | some matcher, some matchers => some (matcher :: matchers)
    | _, _ => none
termination_by sizeOf items
end

end AttributeRelease
