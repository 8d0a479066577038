import AttributeRelease.Script.Interpreter

/-! An interpreter that keeps what it has compiled, by the text of the expressions. -/

namespace AttributeRelease

variable [ScriptLanguage]

structure CachingEvaluator where
  interpreter : Interpreter
  compiled : Dictionary ScriptLanguage.Code := ∅

namespace CachingEvaluator

/-- The number of expressions that are kept. -/
def size (caching : CachingEvaluator) : Nat := caching.compiled.entries.length

/-- An expression from the cache, or else compiled now and kept. -/
def compile (caching : CachingEvaluator) (expression : String) :
    Except ScriptError ScriptLanguage.Code × CachingEvaluator :=
  match caching.compiled.get? expression with
  | some code => (.ok code, caching)
  | none =>
    match caching.interpreter.compile expression with
    | .ok code => (.ok code, { caching with compiled := caching.compiled.insert expression code })
    | .error error => (.error error, caching)

def check (caching : CachingEvaluator) (expression : String) :
    Except ScriptError Unit × CachingEvaluator :=
  if caching.interpreter.settings.enabled then
    let (result, next) := caching.compile expression
    (result.map fun _ => (), next)
  else (.error .disabled, caching)

def evaluate (caching : CachingEvaluator) (expression : String) (bindings : ScriptBindings) :
    Except ScriptError Json × CachingEvaluator :=
  if caching.interpreter.settings.enabled then
    let (result, next) := caching.compile expression
    (result.bind fun code => caching.interpreter.run code bindings, next)
  else (.error .disabled, caching)

end CachingEvaluator

end AttributeRelease
