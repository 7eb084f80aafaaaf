import ServiceClient.Call.Client
import ServiceClient.Factory.Error
import ServiceClient.Scope.Basic

/-!
# Builders

A builder gathers the settings of a client. Interceptors come in two groups: those of a scope, which
are replaced as a whole, and those that are added one by one.
-/

namespace ServiceClient

/-- The settings of a client that is being made. -/
structure Builder where
  template : BuilderTemplate
  loggerLevel : LoggerLevel := .none
  options : RequestOptions := {}
  retry : Component RetryPolicy := ⟨"never-retry", .never, 0⟩
  decode404 : Bool := false
  exceptionPolicy : ExceptionPolicy := .none
  encoder : Component Encoder
  decoder : Component Decoder
  contract : Component Contract
  errorDecoder : Component ErrorDecoder := ⟨"default-error-decoder", .standard, 0⟩
  queryMapEncoder : Component QueryMapEncoder := ⟨"field-query-map-encoder", .fields, 0⟩
  scopeInterceptors : List (Component Interceptor) := []
  addedInterceptors : List (Component Interceptor) := []
  transport : Option (Component Transport) := none
  setterFactory : Option (Component SetterFactory) := none

/-- One change of a builder. -/
inductive Setting where
  | loggerLevel (level : LoggerLevel)
  | options (options : RequestOptions)
  /-- Replaces the limits that are given. -/
  | limits (connectMillis readMillis : Option Nat) (followRedirects : Option Bool)
  | connectTimeout (d : Duration)
  | readTimeout (d : Duration)
  | retry (policy : Component RetryPolicy)
  | decode404
  | exceptionPolicy (policy : ExceptionPolicy)
  | encoder (c : Component Encoder)
  | decoder (c : Component Decoder)
  | contract (c : Component Contract)
  | errorDecoder (c : Component ErrorDecoder)
  | queryMapEncoder (c : Component QueryMapEncoder)
  /-- Replaces the interceptors of the scope. -/
  | scopeInterceptors (cs : List (Component Interceptor))
  /-- Adds an interceptor behind all others. -/
  | interceptor (c : Component Interceptor)
  | transport (c : Component Transport)
  | setterFactory (c : Component SetterFactory)

/-- What is reported while the components of a change are made. -/
def Setting.reports : Setting → List Report
  | scopeInterceptors cs => cs.flatMap (·.value.reports)
  | interceptor c => c.value.reports
  | _ => []

/-- The configuration of a client, with names in the place of components. -/
structure EffectiveConfiguration where
  template : BuilderTemplate
  loggerLevel : LoggerLevel
  connectMillis : Nat
  readMillis : Nat
  followRedirects : Bool
  retryer : String
  maxAttempts : Nat
  decode404 : Bool
  exceptionPolicy : ExceptionPolicy
  encoder : String
  decoder : String
  contract : String
  errorDecoder : String
  queryMapEncoder : String
  interceptors : List String
  transport : Option String
  deriving DecidableEq, Repr

/-- A configuration as JSON. -/
def EffectiveConfiguration.json (c : EffectiveConfiguration) : Json :=
  .ofFields [("template", .string c.template.word), ("logger_level", .string c.loggerLevel.word),
    ("connect_timeout_ms", .int c.connectMillis), ("read_timeout_ms", .int c.readMillis),
    ("follow_redirects", .bool c.followRedirects), ("retryer", .string c.retryer),
    ("max_attempts", .int c.maxAttempts), ("decode404", .bool c.decode404),
    ("exception_policy", .string c.exceptionPolicy.word), ("encoder", .string c.encoder),
    ("decoder", .string c.decoder), ("contract", .string c.contract),
    ("error_decoder", .string c.errorDecoder), ("query_map_encoder", .string c.queryMapEncoder),
    ("request_interceptors", .array (c.interceptors.map .string)),
    ("transport", Json.ofText? c.transport)]

/-- The diagnostic text of a configuration. -/
def EffectiveConfiguration.debugText (c : EffectiveConfiguration) : String :=
  "EffectiveConfiguration \x7b template: " ++ c.template.debugWord ++ ", logger_level: " ++
    c.loggerLevel.debugWord ++ ", connect_timeout_ms: " ++ toString c.connectMillis ++
    ", read_timeout_ms: " ++ toString c.readMillis ++ ", follow_redirects: " ++
    Text.truthWord c.followRedirects ++ ", retryer: " ++ Text.quoted c.retryer ++
    ", max_attempts: " ++ toString c.maxAttempts ++ ", decode404: " ++ Text.truthWord c.decode404 ++
    ", exception_policy: " ++ c.exceptionPolicy.debugWord ++ ", encoder: " ++
    Text.quoted c.encoder ++ ", decoder: " ++ Text.quoted c.decoder ++ ", contract: " ++
    Text.quoted c.contract ++ ", error_decoder: " ++ Text.quoted c.errorDecoder ++
    ", query_map_encoder: " ++ Text.quoted c.queryMapEncoder ++ ", request_interceptors: " ++
    Text.quotedList c.interceptors ++ ", transport: " ++ Text.quoted? c.transport ++ " \x7d"

namespace Builder

/-- The builder with one setting changed. -/
def set (b : Builder) : Setting → Builder
  | .loggerLevel level => { b with loggerLevel := level }
  | .options options => { b with options }
  | .limits connect read follow => { b with options := b.options.merge connect read follow }
  | .connectTimeout d => { b with options := { b.options with connectTimeout := d } }
  | .readTimeout d => { b with options := { b.options with readTimeout := d } }
  | .retry c => { b with retry := c }
  | .decode404 => { b with decode404 := true }
  | .exceptionPolicy policy => { b with exceptionPolicy := policy }
  | .encoder c => { b with encoder := c }
  | .decoder c => { b with decoder := c }
  | .contract c => { b with contract := c }
  | .errorDecoder c => { b with errorDecoder := c }
  | .queryMapEncoder c => { b with queryMapEncoder := c }
  | .scopeInterceptors cs => { b with scopeInterceptors := cs }
  | .interceptor c => { b with addedInterceptors := b.addedInterceptors ++ [c] }
  | .transport c => { b with transport := some c }
  | .setterFactory c => { b with setterFactory := some c }

/-- The builder with several settings changed, one after the other. -/
def setAll (b : Builder) (settings : List Setting) : Builder :=
  settings.foldl set b

/-- Settings are changed in two parts. -/
theorem setAll_append (b : Builder) (xs ys : List Setting) :
    b.setAll (xs ++ ys) = (b.setAll xs).setAll ys :=
  List.foldl_append

/-- All interceptors in the order in which they run. -/
def interceptors (b : Builder) : List (Component Interceptor) :=
  b.scopeInterceptors ++ b.addedInterceptors

/-- Whether the clients have commands and fallbacks. -/
def supportsFallback (b : Builder) : Bool :=
  b.template == .faultTolerant

/-- The configuration that a client would have. -/
def effective (b : Builder) : EffectiveConfiguration where
  template := b.template
  loggerLevel := b.loggerLevel
  connectMillis := b.options.connectTimeout.clampedMillis
  readMillis := b.options.readTimeout.clampedMillis
  followRedirects := b.options.followRedirects
  retryer := b.retry.name
  maxAttempts := b.retry.value.maxAttempts
  decode404 := b.decode404
  exceptionPolicy := b.exceptionPolicy
  encoder := b.encoder.name
  decoder := b.decoder.name
  contract := b.contract.name
  errorDecoder := b.errorDecoder.name
  queryMapEncoder := b.queryMapEncoder.name
  interceptors := b.interceptors.map (·.name)
  transport := b.transport.map (·.name)

/-- The diagnostic text of a builder. -/
def debugText (b : Builder) : String :=
  "ClientBuilder \x7b configuration: " ++ b.effective.debugText ++ ", .. \x7d"

/-- The handler of a client over a transport. -/
def handler (b : Builder) (transport : Transport) : Handler where
  loggerLevel := b.loggerLevel
  options := b.options
  retry := b.retry.value
  decode404 := b.decode404
  exceptionPolicy := b.exceptionPolicy
  encoder := b.encoder.value
  decoder := b.decoder.value
  contract := b.contract.value
  errorDecoder := b.errorDecoder.value
  queryMapEncoder := b.queryMapEncoder.value
  interceptors := b.interceptors.map (·.value)
  transport
  setterFactory := b.setterFactory.map (·.value)

/-- The client; there is none without a transport. -/
def build (b : Builder) (target : Target) (fallback : Fallback) : Except FactoryError Client :=
  match b.transport with
  | none => .error (.missingComponent "TransportClient" target.name)
  | some t => .ok ⟨target, b.handler t.value, fallback⟩

end Builder

/-- A last change of a builder. It is handed the builder, and tells which settings it changes there,
one after the other. -/
structure Customizer where
  settings : Builder → List Setting

/-- Settings that are changed whatever the builder is. -/
instance : Coe (List Setting) (Builder → List Setting) := ⟨fun settings _ => settings⟩

/-- The settings that customizers change, each one on the builder that the one before it leaves. -/
def Builder.customSettings (b : Builder) : List Customizer → List Setting
  | [] => []
  | c :: cs => c.settings b ++ (b.setAll (c.settings b)).customSettings cs

end ServiceClient
