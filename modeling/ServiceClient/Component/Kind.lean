import ServiceClient.Call.Builder
import ServiceClient.Scope.Contexts

/-!
# Kinds of components

The components that scopes hold: settings and parts of clients, the implementations of capabilities,
and whatever else an application wants to keep there.
-/

namespace ServiceClient

/-- The kinds of components. -/
inductive Kind where
  | loggerLevel
  | exceptionPolicy
  | builderTemplate
  | requestOptions
  | retryPolicy
  | encoder
  | decoder
  | contract
  | errorDecoder
  | errorDecoderFactory
  | queryMapEncoder
  | interceptor
  | setterFactory
  | configurer
  | customizer
  | transport
  /-- Implementations of a capability. -/
  | delegate (capability : String)
  /-- Factories of fallbacks for a capability. -/
  | fallbackFactory (capability : String)
  /-- Components of a type that only the application knows. -/
  | application (typeName : String)
  deriving DecidableEq, Repr

/-- Says whether a client takes over what is configured outside its own scope. -/
structure Configurer where
  inherits : Bool := true
  deriving DecidableEq, Repr

/-- The values of each kind. -/
@[reducible] def Kind.Value : Kind → Type
  | loggerLevel => LoggerLevel
  | exceptionPolicy => ExceptionPolicy
  | builderTemplate => BuilderTemplate
  | requestOptions => RequestOptions
  | retryPolicy => RetryPolicy
  | encoder => Encoder
  | decoder => Decoder
  | contract => Contract
  | errorDecoder => ErrorDecoder
  | errorDecoderFactory => ErrorDecoderFactory
  | queryMapEncoder => QueryMapEncoder
  | interceptor => Interceptor
  | setterFactory => SetterFactory
  | configurer => Configurer
  | customizer => Customizer
  | transport => Transport
  | delegate _ => Delegate
  | fallbackFactory _ => FallbackFactory
  | application _ => Json

/-- A component that a scope of a client may hold. -/
abbrev Registration := Entry Kind.Value

/-- The registration of a value of some kind. -/
def Kind.entry (k : Kind) (name : String) (value : k.Value) (order : Int := 0) : Registration :=
  ⟨k, ⟨name, value, order⟩⟩

/-- What is reported while the component of a registration is made. -/
def Entry.reports : Registration → List Report
  | ⟨.interceptor, c⟩ => c.value.reports
  | _ => []

/-- A form of configurations in which each tells what is reported while it is carried out. -/
class Reporting (γ : Type) where
  reports : γ → List Report

instance : Reporting (Configuration Kind.Value) where
  reports c := c.flatMap Entry.reports

/-- What is reported while configurations are carried out. -/
def configurationReports {γ : Type} [Reporting γ] (configurations : List γ) : List Report :=
  configurations.flatMap Reporting.reports

/-- What every scope of a client holds to begin with. -/
def defaultConfiguration (template : BuilderTemplate) : Configuration Kind.Value :=
  [Kind.entry .builderTemplate "builder-template" template,
    Kind.entry .encoder "json-encoder" .json,
    Kind.entry .decoder "json-decoder" .json,
    Kind.entry .contract "default-contract" .standard] ++
  if template = .faultTolerant then
    [Kind.entry .setterFactory "default-setter-factory" .standard]
  else []

/-- The components that can be made by name from the beginning. -/
def builtins : Catalog Kind.Value :=
  ⟨[Kind.entry .encoder "json-encoder" .json,
    Kind.entry .decoder "json-decoder" .json,
    Kind.entry .contract "default-contract" .standard,
    Kind.entry .errorDecoder "default-error-decoder" .standard,
    Kind.entry .queryMapEncoder "field-query-map-encoder" .fields,
    Kind.entry .retryPolicy "default-retryer" .standard,
    Kind.entry .retryPolicy "never-retry" .never]⟩

end ServiceClient
