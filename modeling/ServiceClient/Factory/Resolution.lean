import ServiceClient.Declaration.Basic
import ServiceClient.Properties.Basic

/-!
# Resolution

The configuration of a client comes in layers: the components every client needs, what scopes
declare, what properties tell, and what customizers change at the end. Each layer is a list of
settings, and a later setting counts more than an earlier one.
-/

namespace ServiceClient

/-- The components that a client can see, and what is configured for it. -/
structure Resolution (γ : Type := Configuration Kind.Value) where
  chain : Chain Kind.Value
  catalog : Catalog Kind.Value
  properties : Properties
  descriptor : Descriptor γ

namespace Resolution

variable {γ : Type} (r : Resolution γ)

/-- The component of a kind that every client needs. -/
def required (k : Kind) (name : String) : Except FactoryError (Component k.Value) :=
  match r.chain.find? k with
  | some c => .ok c
  | none => .error (.missingComponent name r.descriptor.contextId)

/-- A builder with the components that every client needs. -/
def base : Except FactoryError Builder := do
  let template ← r.required .builderTemplate "BuilderTemplate"
  let encoder ← r.required .encoder "Encoder"
  let decoder ← r.required .decoder "Decoder"
  let contract ← r.required .contract "Contract"
  return { template := template.value, encoder, decoder, contract }

/-- Whether the client takes over what is configured outside of its own scope. -/
def inherits : Bool :=
  ((r.chain.find? .configurer).map (·.value.inherits)).getD true

/-- The component of a kind and a name: from the scopes, or else from the catalog. -/
def named (k : Kind) (name : String) : Except FactoryError (Component k.Value) :=
  match r.chain.findNamed k name with
  | .ok c => .ok c
  | .error _ =>
    match r.catalog.instantiate? k name with
    | some c => .ok ⟨name, c.value, 0⟩
    | none => .error (.missingComponent name r.descriptor.contextId)

/-- The setting of a component that is told by its name. -/
def namedSetting (k : Kind) (setting : Component k.Value → Setting) :
    Option String → Except FactoryError (List Setting)
  | none => .ok []
  | some name => (r.named k name).map fun c => [setting c]

/-- The settings of interceptors that are told by their names. -/
def namedInterceptors : List String → Except FactoryError (List Setting)
  | [] => .ok []
  | name :: names =>
    match r.named .interceptor name with
    | .error e => .error e
    | .ok c => (namedInterceptors names).map (.interceptor c :: ·)

/-- The interceptors for the headers and the queries of an entry. -/
def valueInterceptors (e : PropertyEntry) : List Setting :=
  (if e.headers.isEmpty then []
    else [.interceptor ⟨"default-request-headers", Interceptor.headers e.headers, 0⟩]) ++
  (if e.queryParameters.isEmpty then []
    else [.interceptor
      ⟨"default-query-parameters", Interceptor.queryParameters e.queryParameters, 0⟩])

/-- The settings of an entry, up to its values for headers and queries. -/
def firstSettings (e : PropertyEntry) : Except FactoryError (List Setting) := do
  let retry ← r.namedSetting .retryPolicy .retry e.retryer
  let errorDecoder ← r.namedSetting .errorDecoder .errorDecoder e.errorDecoder
  let interceptors ← r.namedInterceptors e.interceptors
  let encoder ← r.namedSetting .encoder .encoder e.encoder
  return (e.loggerLevel.map .loggerLevel).toList ++
    [.limits (e.connectMillis.map UInt64.toNat) (e.readMillis.map UInt64.toNat)
      e.followRedirects] ++ retry ++ errorDecoder ++ interceptors ++
    (if e.decode404 = some true then [.decode404] else []) ++ encoder ++ valueInterceptors e

/-- The settings of an entry behind its values for headers and queries. -/
def lastSettings (e : PropertyEntry) : Except FactoryError (List Setting) := do
  let decoder ← r.namedSetting .decoder .decoder e.decoder
  let contract ← r.namedSetting .contract .contract e.contract
  return decoder ++ contract ++ (e.exceptionPolicy.map .exceptionPolicy).toList

/-- The settings of an entry. -/
def entrySettings (e : PropertyEntry) : Except FactoryError (List Setting) := do
  let first ← r.firstSettings e
  let last ← r.lastSettings e
  return first ++ last

/-- The entries for the client: the one for all clients, and then its own. -/
def entries : List PropertyEntry :=
  r.properties.defaultEntry?.toList ++
    (r.properties.clientEntry? r.descriptor.contextId).toList

/-- The settings of several entries. -/
def entriesSettings : List PropertyEntry → Except FactoryError (List Setting)
  | [] => .ok []
  | e :: es => do
    let settings ← r.entrySettings e
    let more ← entriesSettings es
    return settings ++ more

/-- The error decoder that is declared; a factory of one counts if there is no decoder. -/
def declaredErrorDecoder (inherit : Bool) : Option (Component ErrorDecoder) :=
  (r.chain.lookup inherit .errorDecoder).or
    ((r.chain.lookup inherit .errorDecoderFactory).map fun f =>
      ⟨f.name, f.value.create r.descriptor.clientType, 0⟩)

/-- The setting for the interceptors that are declared, if there are any. -/
def declaredInterceptors (inherit : Bool) : List Setting :=
  match r.chain.lookupAll inherit .interceptor with
  | [] => []
  | cs => [.scopeInterceptors cs]

/-- The settings that scopes and the descriptor declare. -/
def declaredSettings (inherit : Bool) : List Setting :=
  ((r.chain.lookup inherit .loggerLevel).map (.loggerLevel ·.value)).toList ++
    ((r.chain.lookup inherit .retryPolicy).map .retry).toList ++
    ((r.declaredErrorDecoder inherit).map .errorDecoder).toList ++
    ((r.chain.lookup inherit .requestOptions).map (.options ·.value)).toList ++
    r.declaredInterceptors inherit ++
    ((r.chain.lookup inherit .queryMapEncoder).map .queryMapEncoder).toList ++
    ((r.chain.lookup inherit .exceptionPolicy).map (.exceptionPolicy ·.value)).toList ++
    (if r.descriptor.decode404 then [.decode404] else [])

/-- The settings of a client before those of its customizers, the one that counts most at the
end. -/
def settings : Except FactoryError (List Setting) :=
  if r.inherits then do
    let told ← r.entriesSettings r.entries
    let declared := r.declaredSettings true
    return if r.properties.defaultToProperties then declared ++ told else told ++ declared
  else .ok (r.declaredSettings false)

/-- The builder that the customizers are handed. -/
def draft : Except FactoryError Builder := do
  let base ← r.base
  let settings ← r.settings
  return base.setAll settings

/-- The customizers: those of the scopes, and then those of the descriptor. -/
def customizers : List Customizer :=
  (r.chain.lookupAll r.inherits .customizer).map (·.value) ++ r.descriptor.customizers

/-- The builder of the client. -/
def builder : Except FactoryError Builder :=
  r.draft.map fun b => b.setAll (b.customSettings r.customizers)

/-- The settings that the customizers change; they change none when there is no builder. -/
def customSettings : List Setting :=
  match r.draft with
  | .ok b => b.customSettings r.customizers
  | .error _ => []

/-- What is reported while interceptors are found by their names: the catalog makes them anew. -/
def namedReports : List String → List Report
  | [] => []
  | name :: names =>
    match r.chain.findNamed .interceptor name, r.catalog.instantiate? .interceptor name with
    | .ok _, _ => namedReports names
    | .error _, some c => c.value.reports ++ namedReports names
    | .error _, none => []

/-- What is reported while the settings of an entry are put together. -/
def entryReports (e : PropertyEntry) : List Report :=
  match r.namedSetting .retryPolicy .retry e.retryer,
      r.namedSetting .errorDecoder .errorDecoder e.errorDecoder with
  | .ok _, .ok _ =>
    r.namedReports e.interceptors ++
      match r.firstSettings e with
      | .ok _ => (valueInterceptors e).flatMap Setting.reports
      | .error _ => []
  | _, _ => []

/-- What is reported while the settings of entries are put together. -/
def entriesReports : List PropertyEntry → List Report
  | [] => []
  | e :: es =>
    r.entryReports e ++
      match r.entrySettings e with
      | .ok _ => entriesReports es
      | .error _ => []

/-- What is reported on the way to the builder. -/
def reports : List Report :=
  match r.base with
  | .error _ => []
  | .ok _ =>
    (if r.inherits then r.entriesReports r.entries else []) ++
      r.customSettings.flatMap Setting.reports

end Resolution
end ServiceClient
