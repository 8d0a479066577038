import AttributeRelease.Script.Functions
import AttributeRelease.Script.Settings

/-! What is asked of a language of scripts. -/

namespace AttributeRelease

/-- What an expression may use, where zero stands for any amount, and the words that it may not use. -/
structure Sandbox where
  maxOperations : Nat
  maxCallLevels : Nat
  /-- How deep expressions nest, outside of functions and in them. -/
  maxExprDepths : Nat × Nat
  /-- Size of strings in bytes. -/
  maxStringSize : Nat
  maxArraySize : Nat := 1000
  maxMapSize : Nat := 1000
  disabledSymbols : List String := ["eval"]

def ScriptSettings.sandbox (settings : ScriptSettings) : Sandbox where
  maxOperations := settings.maxOperations
  maxCallLevels := settings.maxCallLevels
  maxExprDepths := (settings.maxExprDepth, settings.maxExprDepth)
  maxStringSize := settings.maxStringSize

/-- A language in which expressions are compiled and run. Both may fail, with a text that tells why. -/
class ScriptLanguage where
  /-- Compiled expressions. -/
  Code : Type
  compile : Sandbox → String → Except String Code
  /-- The value of an expression under functions and variables by name. -/
  run : Sandbox → List (String × Script.Function) → List (String × Script.Datum) → Code →
    Except String Script.Datum

end AttributeRelease
