import AttributeRelease.Expression.Language
import AttributeRelease.Proofs.Fields
import AttributeRelease.Script.Cache
import Mathlib.Data.Finset.Card

/-! An evaluator that keeps what it has compiled answers like one that compiles every time. What it keeps after any calls
are the distinct expressions among them that compile. -/

namespace AttributeRelease

theorem Dictionary.mem_names_iff {α : Type} {dictionary : Dictionary α} {name : String} :
    name ∈ dictionary.entries.map Prod.fst ↔ (dictionary.get? name).isSome := by
  rw [Option.isSome_iff_exists]
  simp only [get?_eq_some_iff, List.mem_map, Prod.exists, exists_and_right, exists_eq_right]

section

namespace CachingEvaluator

/-- A call to an evaluator. -/
inductive Call where
  | check (expression : String)
  | evaluate (expression : String) (bindings : ScriptBindings)

def Call.expression : Call → String
  | .check expression => expression
  | .evaluate expression _ => expression

abbrev Answer := Except ScriptError (Option Json)

variable [ScriptLanguage]

def Call.uncached (interpreter : Interpreter) : Call → Answer
  | .check expression => (interpreter.check expression).map fun _ => none
  | .evaluate expression bindings => (interpreter.evaluate expression bindings).map some

/-- What a call answers, and the evaluator after it. -/
def answer (caching : CachingEvaluator) : Call → Answer × CachingEvaluator
  | .check expression =>
    let (result, next) := caching.check expression
    (result.map fun _ => none, next)
  | .evaluate expression bindings =>
    let (result, next) := caching.evaluate expression bindings
    (result.map some, next)

def serve (caching : CachingEvaluator) : List Call → List Answer × CachingEvaluator
  | [] => ([], caching)
  | call :: rest =>
    let (result, next) := caching.answer call
    let (results, last) := next.serve rest
    (result :: results, last)

/-- The cache holds what compiles of the expressions called for so far, and nothing if scripts are disabled. -/
structure Holds (caching : CachingEvaluator) (runtime : Interpreter) (called : List String) : Prop where
  interpreter : caching.interpreter = runtime
  compiled : ∀ expression, caching.compiled.get? expression =
    if runtime.settings.enabled = true ∧ expression ∈ called then (runtime.compile expression).toOption else none

variable {caching : CachingEvaluator} {runtime : Interpreter} {called : List String}

theorem Holds.fresh (runtime : Interpreter) : Holds { interpreter := runtime } runtime [] where
  interpreter := rfl
  compiled expression := by simp

theorem Holds.compile_of_found (holds : caching.Holds runtime called) {expression : String} {code : ScriptLanguage.Code}
    (found : caching.compiled.get? expression = some code) : runtime.compile expression = .ok code := by
  have kept := holds.compiled expression
  rw [found] at kept
  split at kept
  case isFalse => cases kept
  case isTrue =>
    cases compiled : runtime.compile expression with
    | error error =>
      rw [compiled] at kept
      cases kept
    | ok same =>
      rw [compiled] at kept
      cases kept
      rfl

/-- A call that leaves the cache as it is has to agree with what the cache has for its expression. -/
theorem Holds.noted (holds : caching.Holds runtime called) {expression : String}
    (agrees : caching.compiled.get? expression =
      if runtime.settings.enabled then (runtime.compile expression).toOption else none) :
    caching.Holds runtime (expression :: called) where
  interpreter := holds.interpreter
  compiled other := by
    by_cases same : other = expression
    · subst same
      simp [agrees]
    · simp [holds.compiled, same]

theorem Holds.compile (holds : caching.Holds runtime called) (enabled : runtime.settings.enabled = true)
    (expression : String) :
    (caching.compile expression).1 = runtime.compile expression ∧
      (caching.compile expression).2.Holds runtime (expression :: called) := by
  rw [CachingEvaluator.compile, holds.interpreter]
  cases found : caching.compiled.get? expression with
  | some code =>
    have compiled := holds.compile_of_found found
    refine ⟨compiled.symm, holds.noted ?_⟩
    rw [found, if_pos enabled, compiled]
    rfl
  | none =>
    cases compiled : runtime.compile expression with
    | error error =>
      refine ⟨rfl, holds.noted ?_⟩
      rw [found, if_pos enabled, compiled]
      rfl
    | ok code =>
      refine ⟨rfl, rfl, fun other => ?_⟩
      rw [Dictionary.get?_insert]
      by_cases same : other = expression
      · simp [same, enabled, compiled, Except.toOption]
      · simp [holds.compiled, enabled, same]

theorem Holds.answer (holds : caching.Holds runtime called) (call : Call) :
    (caching.answer call).1 = call.uncached runtime ∧
      (caching.answer call).2.Holds runtime (call.expression :: called) := by
  cases enabled : runtime.settings.enabled with
  | false =>
    have unchanged : caching.Holds runtime (call.expression :: called) := by
      apply holds.noted
      rw [holds.compiled, enabled]
      rfl
    cases call <;>
      simpa [CachingEvaluator.answer, CachingEvaluator.check, CachingEvaluator.evaluate, Call.uncached, Interpreter.check,
        Interpreter.evaluate, holds.interpreter, enabled] using unchanged
  | true =>
    cases call with
    | check expression =>
      obtain ⟨result, next⟩ := holds.compile enabled expression
      simp only [CachingEvaluator.answer, CachingEvaluator.check, holds.interpreter, enabled, if_true, result]
      refine ⟨?_, next⟩
      rw [Call.uncached, Interpreter.check, if_pos enabled]
    | evaluate expression bindings =>
      obtain ⟨result, next⟩ := holds.compile enabled expression
      simp only [CachingEvaluator.answer, CachingEvaluator.evaluate, holds.interpreter, enabled, if_true, result]
      refine ⟨?_, next⟩
      rw [Call.uncached, Interpreter.evaluate, if_pos enabled]
      rfl

theorem Holds.serve (holds : caching.Holds runtime called) (calls : List Call) :
    (caching.serve calls).1 = calls.map (Call.uncached runtime) ∧
      (caching.serve calls).2.Holds runtime ((calls.map Call.expression).reverse ++ called) := by
  induction calls generalizing caching called with
  | nil => exact ⟨rfl, holds⟩
  | cons call rest ih =>
    obtain ⟨result, next⟩ := holds.answer call
    obtain ⟨results, last⟩ := ih next
    refine ⟨?_, ?_⟩
    · rw [CachingEvaluator.serve, List.map_cons, ← result, ← results]
    · rw [List.map_cons, List.reverse_cons, List.append_assoc]
      exact last

theorem Holds.size_eq (holds : caching.Holds runtime called) :
    caching.size =
      if runtime.settings.enabled then {expression ∈ called.toFinset | (runtime.compile expression).isOk}.card else 0 := by
  have names : (caching.compiled.entries.map Prod.fst).toFinset =
      if runtime.settings.enabled then {expression ∈ called.toFinset | (runtime.compile expression).isOk} else ∅ := by
    ext expression
    rw [List.mem_toFinset, Dictionary.mem_names_iff, holds.compiled]
    cases runtime.settings.enabled with
    | false => simp
    | true =>
      rw [if_pos rfl, Finset.mem_filter, List.mem_toFinset]
      cases runtime.compile expression <;> simp [Except.toOption, Except.isOk, Except.toBool]
  rw [size, ← List.length_map, ← List.toFinset_card_of_nodup caching.compiled.distinct, names]
  split <;> rfl

/-- Whatever calls are made to an evaluator, each is answered as by a fresh evaluator of the same settings, and as without
a cache, down to the text of an error. After the calls there is one entry for each expression among them that compiles,
whether or not it could be evaluated, and none if scripts are disabled. -/
theorem serve_like_fresh (settings : ScriptSettings) (calls : List Call) :
    let fresh : CachingEvaluator := { interpreter := { settings } }
    let (answers, last) := fresh.serve calls
    answers = calls.map (fun call => (fresh.answer call).1) ∧
      answers = calls.map (Call.uncached { settings }) ∧
      last.size =
        if settings.enabled then
          {expression ∈ (calls.map Call.expression).toFinset | (fresh.interpreter.compile expression).isOk}.card
        else 0 := by
  intro fresh
  have start := Holds.fresh { settings }
  obtain ⟨answers, last⟩ := start.serve calls
  refine ⟨answers.trans (List.map_congr_left fun call _ => (start.answer call).1.symm), answers, ?_⟩
  rw [last.size_eq, List.append_nil, List.toFinset_reverse]

end CachingEvaluator

end

attribute [local instance] Script.Expr.language

namespace CachingEvaluator

/-- An expression that has no value is kept, and one that is not complete is not. -/
example : (serve { interpreter := {} }
    [.check "1 +", .evaluate "1 / 0" { facts := default }, .check "1 / 0", .check "1"]).2.size = 2 := by
  decide +kernel

end CachingEvaluator

end AttributeRelease
