import AttributeRelease.Expression.Language
import AttributeRelease.Proofs.Fields
import AttributeRelease.Regex.Language
import AttributeRelease.Rule.Condition
import AttributeRelease.Script.Interpreter

/-! What scripts see of the facts of a request. They are given the written form of the facts, which leaves out what is
absent or empty, and look things up in it by name. Conditions read the facts themselves. Both find the same. -/

namespace AttributeRelease

/-- What stands under a name in an object with fields that may be left out. -/
theorem Json.field?_ofSome {fields : List (String × Option Json)} (distinct : (fields.map Prod.fst).Nodup) (name : String) :
    (ofFields (fields.filterMap fun field => field.2.map (field.1, ·))).field? name = (fields.lookup name).join := by
  rw [field?_ofFields]
  induction fields with
  | nil => rfl
  | cons field rest ih =>
    obtain ⟨key, json?⟩ := field
    obtain ⟨absent, distinct⟩ := List.nodup_cons.mp distinct
    have first : (((key, json?) :: rest).filterMap fun field => field.2.map (field.1, ·)).reverse.lookup name =
        ((rest.filterMap fun field => field.2.map (field.1, ·)).reverse.lookup name).or
          (if name = key then json? else none) := by
      cases json? with
      | none => simp
      | some json =>
        rw [List.filterMap_cons_some (by rfl), List.reverse_cons, List.lookup_append, Dictionary.lookup_entry]
        rfl
    rw [first, ih distinct, Dictionary.lookup_entry]
    split
    next same =>
      subst same
      have missing : rest.lookup name = none := List.lookup_eq_none_iff.mpr fun entry member => by
        simpa using fun same : name = entry.1 => absent (List.mem_map.mpr ⟨entry, member, same.symm⟩)
      rw [missing]
      rfl
    next => rw [Option.or_none]

namespace Facts

/-- What is written of facts under each name, if anything is. -/
def written (facts : Facts) : List (String × Option Json) :=
  [("principal", facts.principal.map .string),
    ("requester", facts.requester.map .string),
    ("responder", facts.responder.map .string),
    ("proxiedRequesters", if facts.proxiedRequesters.isEmpty then none else some (.strings facts.proxiedRequesters)),
    ("authenticationMethods",
      if facts.authenticationMethods.isEmpty then none else some (.strings facts.authenticationMethods)),
    ("session", if facts.session.isEmpty then none else some (.ofTexts facts.session)),
    ("requestTime", some (.string facts.requestTime.text))]

theorem toJson_eq (facts : Facts) :
    facts.toJson = .ofFields (facts.written.filterMap fun field => field.2.map (field.1, ·)) := by
  obtain ⟨principal, requester, responder, proxied, methods, session, time⟩ := facts
  cases principal <;> cases requester <;> cases responder <;> simp only [toJson, written] <;>
    split <;> split <;> split <;> rfl

theorem field?_toJson (facts : Facts) (name : String) : facts.toJson.field? name = (facts.written.lookup name).join := by
  have names : facts.written.map Prod.fst = ["principal", "requester", "responder", "proxiedRequesters",
    "authenticationMethods", "session", "requestTime"] := rfl
  rw [toJson_eq, Json.field?_ofSome (by rw [names]; decide)]

end Facts

namespace Script.Datum

theorem ofItems_eq (items : List Json) : ofItems items = items.map ofJson := by
  induction items with
  | nil => rfl
  | cons item rest ih => rw [ofItems, ih, List.map_cons]

theorem ofFields_eq (fields : List (String × Json)) :
    ofFields fields = fields.map fun field => (field.1, ofJson field.2) := by
  induction fields with
  | nil => rfl
  | cons field rest ih => rw [ofFields, ih, List.map_cons]

theorem ofJson_strings (texts : List String) : ofJson (.strings texts) = .array (texts.map .string) := by
  rw [Json.strings, ofJson, ofItems_eq, List.map_map]
  exact congrArg array (List.map_congr_left fun _ _ => by rw [Function.comp, ofJson])

theorem ofJson_ofTexts (texts : Dictionary String) :
    ofJson (.ofTexts texts) = .map (texts.entries.map fun entry => (entry.1, .string entry.2)) := by
  rw [Json.ofTexts, ofJson, ofFields_eq, List.map_map]
  exact congrArg map (List.map_congr_left fun _ _ => by rw [Function.comp, ofJson])

theorem ofJson_facts (facts : Facts) :
    ∃ entries, ofJson facts.toJson = .map entries ∧
      ∀ name, entries.lookup name = (facts.written.lookup name).join.map ofJson := by
  obtain ⟨fields, made⟩ : ∃ fields, facts.toJson = .object fields := ⟨_, Json.ofFields_eq _⟩
  refine ⟨ofFields fields, by rw [made, ofJson], fun name => ?_⟩
  have found : facts.toJson.field? name = fields.lookup name := by
    rw [made]
    rfl
  rw [ofFields_eq, Dictionary.lookup_map, ← found, facts.field?_toJson]

section
variable {facts : Facts} {entries : List (String × Datum)}
  (found : ∀ name, entries.lookup name = (facts.written.lookup name).join.map ofJson)
include found

theorem hasMethod_eq [PatternLanguage] (method : String) :
    hasMethod entries method = (Condition.evaluate facts (.authenticationMethod { value := method })).isYes := by
  have listed := found "authenticationMethods"
  cases unknown : facts.authenticationMethods.isEmpty with
  | true =>
    have missing : entries.lookup "authenticationMethods" = none := by
      rw [listed, Facts.written, unknown]
      rfl
    rw [hasMethod, missing, Condition.evaluate, if_pos unknown]
    rfl
  | false =>
    have methods : entries.lookup "authenticationMethods" = some (.array (facts.authenticationMethods.map .string)) := by
      rw [listed, Facts.written, unknown, ← ofJson_strings]
      rfl
    have accepts : StringMatch.accepts { value := method } = fun other => other == method :=
      funext fun other => Bool.beq_comm
    rw [hasMethod, methods, Condition.evaluate, if_neg (by simp [unknown]), accepts]
    dsimp only
    rw [List.any_map]
    change facts.authenticationMethods.any (fun other => other == method) = _
    cases facts.authenticationMethods.any (fun other => other == method) <;> rfl

theorem sessionFact_eq (name : String) : sessionFact entries name = .ofString? (facts.sessionFact? name) := by
  have listed := found "session"
  cases empty : facts.session.isEmpty with
  | true =>
    have missing : entries.lookup "session" = none := by
      rw [listed, Facts.written, empty]
      rfl
    rw [sessionFact, missing, Facts.sessionFact?, Dictionary.isEmpty_iff.mp empty]
    rfl
  | false =>
    have session : entries.lookup "session" =
        some (.map (facts.session.entries.map fun entry => (entry.1, .string entry.2))) := by
      rw [listed, Facts.written, empty, ← ofJson_ofTexts]
      rfl
    rw [sessionFact, session, Facts.sessionFact?, Dictionary.get?]
    simp only [entry, Dictionary.lookup_map]
    cases facts.session.entries.lookup name <;> rfl

end

end Script.Datum

theorem Tristate.isYes_eq_true_iff {outcome : Tristate} : outcome.isYes = true ↔ outcome = .yes := by
  cases outcome <;> simp [isYes]

theorem Tristate.isYes_eq_false_iff {outcome : Tristate} : outcome.isYes = false ↔ outcome = .no ∨ outcome = .undecided := by
  cases outcome <;> simp [isYes]

namespace ScriptBindings

/-- In some language, code whose value is what a function gives for the facts and a text, whatever the functions and
variables are. -/
def CallsOnFacts [ScriptLanguage] (sandbox : Sandbox) (function text : String) (code : ScriptLanguage.Code) : Prop :=
  ∀ (functions : List (String × Script.Function)) scope call facts value, functions.lookup function = some call →
    scope.lookup "facts" = some facts → call [facts, .string text] = some value →
      ScriptLanguage.run sandbox functions scope code = .ok value

/-- Scripts see the facts that conditions see. The helper for authentication methods says yes exactly where the condition
on that method holds, and no where it does not hold or cannot be decided; the helper for the session gives the fact of
that name or no value, and so do the variables for the parties. So it is in every language: code that calls a helper has
these values, unless it runs into a limit. -/
theorem scripts_see_facts [PatternLanguage] (bindings : ScriptBindings) (name : String) :
    let condition := Condition.evaluate bindings.facts (.authenticationMethod { value := name })
    (∃ facts hasMethod session, bindings.scope.lookup "facts" = some facts ∧
      Script.functions.lookup "has_auth_method" = some hasMethod ∧
      Script.functions.lookup "session_fact" = some session ∧
      (hasMethod [facts, .string name] = some (.bool true) ↔ condition = .yes) ∧
      (hasMethod [facts, .string name] = some (.bool false) ↔ condition = .no ∨ condition = .undecided) ∧
      session [facts, .string name] = some (.ofString? (bindings.facts.sessionFact? name))) ∧
    bindings.scope.lookup "principal" = some (.ofString? bindings.facts.principal) ∧
    bindings.scope.lookup "requester" = some (.ofString? bindings.facts.requester) ∧
    bindings.scope.lookup "responder" = some (.ofString? bindings.facts.responder) ∧
    ∀ [ScriptLanguage] (interpreter : Interpreter) (code : ScriptLanguage.Code),
      (CallsOnFacts interpreter.settings.sandbox "has_auth_method" name code →
        interpreter.run code bindings = .ok (.bool condition.isYes)) ∧
      (CallsOnFacts interpreter.settings.sandbox "session_fact" name code →
        interpreter.run code bindings = .ok (.ofOption .string (bindings.facts.sessionFact? name))) := by
  intro condition
  obtain ⟨entries, isMap, found⟩ := Script.Datum.ofJson_facts bindings.facts
  have bound : bindings.scope.lookup "facts" = some (.map entries) := by
    rw [← isMap]
    rfl
  have answered : Script.Datum.hasMethod entries name = condition.isYes := Script.Datum.hasMethod_eq found name
  have finds := Script.Datum.sessionFact_eq found name
  have method : some (Script.Datum.bool (Script.Datum.hasMethod entries name)) = some (.bool condition.isYes) := by
    rw [answered]
  have answers (answer : Bool) : some (Script.Datum.bool (Script.Datum.hasMethod entries name)) = some (.bool answer) ↔
      condition.isYes = answer := by
    rw [answered, Option.some_inj, Script.Datum.bool.injEq]
  refine ⟨⟨.map entries, _, _, bound, rfl, rfl, ?yes, ?no, congrArg some finds⟩, rfl, rfl, rfl, ?run⟩
  case yes => exact (answers true).trans Tristate.isYes_eq_true_iff
  case no => exact (answers false).trans Tristate.isYes_eq_false_iff
  case run =>
    intro _ interpreter code
    constructor
    · intro calls
      have value := calls Script.functions bindings.scope _ _ _ rfl bound method
      rw [Interpreter.run, value]
      rfl
    · intro calls
      have value := calls Script.functions bindings.scope _ _ _ rfl bound (congrArg some finds)
      rw [Interpreter.run, value]
      cases bindings.facts.sessionFact? name <;> rfl

end ScriptBindings

attribute [local instance] Regex.language Script.Expr.language

namespace ScriptBindings

private def onFacts (function text : String) : Script.Expr :=
  .call function [.variable "facts", .literal (.string text)]

private theorem callsOnFacts_onFacts (function text : String) :
    CallsOnFacts (ScriptSettings.sandbox {}) function text (onFacts function text) := by
  intro functions scope call facts value given bound called
  have evaluated : ((onFacts function text).evaluate ⟨ScriptSettings.sandbox {}, functions, scope⟩).run (some 10000) =
      some (value, some 9997) := by
    have tick (left : Nat) : Script.Evaluation.tick.run (some (left + 1)) = some ((), some left) := rfl
    simp [onFacts, Script.Expr.evaluate, Script.evaluateItems, bound, given, called, tick]
  unfold ScriptLanguage.run
  simp only [ScriptSettings.sandbox] at evaluated ⊢
  rw [if_neg (by decide), evaluated]

private def byMethods (methods : List String) : ScriptBindings :=
  { facts := { requester := some "https://sp.example.org", authenticationMethods := methods, requestTime := .epoch } }

/-- Without methods or a session there is nothing of them in the written facts. -/
theorem scripts_see_facts_mfa :
    let interpreter : Interpreter := {}
    interpreter.run (onFacts "has_auth_method" "mfa") (byMethods ["password", "mfa"]) = .ok (.bool true) ∧
      interpreter.run (onFacts "has_auth_method" "mfa") (byMethods []) = .ok (.bool false) ∧
      interpreter.run (onFacts "session_fact" "mfa") (byMethods []) = .ok .null ∧
      (byMethods []).scope.lookup "principal" = some .unit ∧
      (byMethods []).scope.lookup "requester" = some (.string "https://sp.example.org") := by
  intro interpreter
  obtain ⟨_, _, _, _, both⟩ := (byMethods ["password", "mfa"]).scripts_see_facts "mfa"
  obtain ⟨_, principal, requester, _, neither⟩ := (byMethods []).scripts_see_facts "mfa"
  have calls (function : String) := callsOnFacts_onFacts function "mfa"
  exact ⟨(both interpreter _).1 (calls _), (neither interpreter _).1 (calls _), (neither interpreter _).2 (calls _),
    principal, requester⟩

end ScriptBindings

end AttributeRelease
