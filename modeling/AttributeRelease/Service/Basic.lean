import AttributeRelease.Service.Definitions
import AttributeRelease.Transcoding.Exchange

/-! A service that releases attributes, and whose engine and registry can be exchanged while it
runs. -/

namespace AttributeRelease

inductive ServiceError where
  | configuration (cause : ConfigError)
  | filter (cause : FilterError)
  | transcoding (cause : TranscodingError)

def ServiceError.message : ServiceError → String
  | .configuration cause => s!"Release configuration error: {cause.message}"
  | .filter cause => cause.message
  | .transcoding cause => cause.message

variable [PatternLanguage]

/-- An engine and a registry that belong together. Versions count what was installed. -/
structure Generation where
  version : Nat
  engine : Engine
  registry : Registry

namespace Generation

instance : Inhabited Generation := ⟨⟨1, default, default⟩⟩

/-- The objects of attributes, one attribute after the other. -/
def encodeAttributes (registry : Registry) (type : WireType) (facts : Facts)
    (attributes : List Attribute) : Except TranscodingError (List type.Object) := do
  return (← attributes.mapM (registry.encodeAll type facts)).flatten

/-- Filters the attributes of a request, and encodes what is released. -/
def release (generation : Generation) (type : WireType) (context : FilterContext) :
    Except ServiceError (List type.Object) × FilterContext :=
  match generation.engine.filter context with
  | (.error cause, context) => (.error (.filter cause), context)
  | (.ok released, context) =>
    match encodeAttributes generation.registry type context.request.facts released with
    | .error cause => (.error (.transcoding cause), context)
    | .ok objects => (.ok objects, context)

def decode (generation : Generation) (facts : Facts) {type : WireType} (object : type.Object)
    (strict : Bool) : Except ServiceError (List Attribute) :=
  (generation.registry.decode facts object strict).mapError .transcoding

end Generation

structure Service where
  settings : ReleaseSettings
  current : Generation

namespace Service

instance : Inhabited Service := ⟨⟨{}, default⟩⟩

/-- A service that runs a valid engine. -/
def start (settings : ReleaseSettings) (engine : Engine) (registry : Registry) :
    Except ServiceError Service := do
  (settings.validate).mapError .configuration
  (engine.validate).mapError .configuration
  return { settings, current := { version := 1, engine, registry } }

def version (service : Service) : Nat := service.current.version

/-- Exchanges engine and registry, unless the engine is not valid. -/
def install (service : Service) (engine : Engine) (registry : Registry) :
    Except ServiceError Service :=
  match engine.validate with
  | .error cause => .error (.configuration cause)
  | .ok () =>
    .ok { service with current := { version := service.version + 1, engine, registry } }

/-- Builds engine and registry from definitions, and installs them. -/
def load [ScriptLanguage] (service : Service) (definitions : ReleaseDefinitions) (catalog : Catalog)
    (types : List TypeInfo) : Except ServiceError Service :=
  match definitions.build service.settings catalog types with
  | .error cause => .error (.configuration cause)
  | .ok (engine, registry) => service.install engine registry

def release (service : Service) (type : WireType) (context : FilterContext) :
    Except ServiceError (List type.Object) × FilterContext :=
  service.current.release type context

def decode (service : Service) (facts : Facts) {type : WireType} (object : type.Object) :
    Except ServiceError (List Attribute) :=
  service.current.decode facts object service.settings.strictDecode

end Service

end AttributeRelease
