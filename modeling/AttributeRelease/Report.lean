import AttributeRelease.Service.Basic

/-! Errors as records, with codes by which callers tell them apart. -/

namespace AttributeRelease

structure ErrorReport where
  code : String
  message : String
  /-- Policies by id, each with the reason why it was refused. -/
  refused : List (String × ConfigError) := []

class Reported (ε : Type) where
  report : ε → ErrorReport

/-- Errors that stand for another one have its code behind their own. -/
def ErrorReport.within (report : ErrorReport) (code message : String) : ErrorReport :=
  { report with code := s!"{code}.{report.code}", message }

instance : Reported ScriptError where
  report error :=
    let code := match error with
      | .compilation _ => "Compile"
      | .execution _ => "Execution"
      | .disabled => "Disabled"
    { code, message := error.message }

def ConfigError.code : ConfigError → String
  | .takesNoChildren .. | .scriptRejected .. | .limitNotPositive .. | .unknownTranscoder ..
  | .conditionNotNamed .. => "InvalidValue"
  | .missing .. => "Missing"
  | .emptyComposition .. => "EmptyComposition"
  | .immutable .. => "Immutable"
  | .notInitialised .. => "NotInitialized"
  | .destroyed .. => "Destroyed"
  | .invalidPattern .. => "InvalidPattern"
  | .unregisteredType .. => "UnregisteredType"
  | .duplicateRule .. | .duplicatePolicy .. => "DuplicateId"
  | .invalidPolicies .. => "InvalidPolicies"

instance : Reported ConfigError where
  report error :=
    let refused := match error with
      | .invalidPolicies refused => refused
      | _ => []
    { code := error.code, message := error.message, refused }

instance : Reported FilterError where
  report error :=
    match error with
    | .configuration cause => (Reported.report cause).within "Configuration" error.message
    | .predicate .. => { code := "Predicate", message := error.message }

instance : Reported EncodingError where
  report error :=
    match error with
    | .unsupportedValue .. => { code := "UnsupportedValue", message := error.message }
    | .invalidProperty .. => { code := "InvalidProperty", message := error.message }
    | .property cause => (Reported.report cause).within "Property" error.message

instance : Reported DecodingError where
  report error :=
    match error with
    | .malformed .. => { code := "Malformed", message := error.message }
    | .invalidProperty .. => { code := "InvalidProperty", message := error.message }
    | .property cause => (Reported.report cause).within "Property" error.message
    | .unmatched .. => { code := "Unmatched", message := error.message }

instance : Reported TranscodingError where
  report error :=
    match error with
    | .configuration cause => (Reported.report cause).within "Configuration" error.message
    | .encoding cause => (Reported.report cause).within "Encoding" error.message
    | .decoding cause => (Reported.report cause).within "Decoding" error.message
    | .wireTypeMismatch .. => { code := "WireTypeMismatch", message := error.message }

instance : Reported ServiceError where
  report error :=
    match error with
    | .configuration cause => (Reported.report cause).within "Configuration" error.message
    | .filter cause => (Reported.report cause).within "Filter" error.message
    | .transcoding cause => (Reported.report cause).within "Transcoding" error.message

namespace ErrorReport

/-- Of a refused policy the record has the code and the message of the reason. -/
def toFields (report : ErrorReport) : List (String × Json) :=
  let refused :=
    if report.refused.isEmpty then []
    else
      [("policyIds", .strings (report.refused.map Prod.fst)),
        ("causes", .array (report.refused.map fun (_, cause) =>
          .ofFields [("error", .string cause.code), ("message", .string cause.message)]))]
  [("error", .string report.code), ("message", .string report.message)] ++ refused

def toJson (report : ErrorReport) : Json := .ofFields report.toFields

end ErrorReport

end AttributeRelease
