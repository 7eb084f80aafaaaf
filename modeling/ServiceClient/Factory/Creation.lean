import ServiceClient.Factory.Basic

/-!
# The creation of clients

A client is made of its resolved configuration, a transport, and a fallback if one is declared. A
client with a fixed address goes around all load balancers.
-/

namespace ServiceClient

namespace Descriptor

/-- Where the calls of the client go. -/
def target {γ : Type} (d : Descriptor γ) : Target :=
  ⟨d.clientType, d.name, (d.url.getD (ClientName.address d.name)) ++ d.path⟩

/-- The transport from the scopes as the client uses it. -/
def route {γ : Type} (d : Descriptor γ) (t : Component Transport) : Component Transport :=
  match d.url with
  | some _ => ⟨t.name, t.value.unwrapped, 0⟩
  | none => t

end Descriptor

/-- The error for a fallback that is not found by the name of its type. -/
def ScopeError.fallbackError {κ : Type} (mechanism : FallbackMechanism)
    (fallbackType capability contextId : String) : ScopeError κ → FactoryError
  | typeMismatch .. => .incompatibleFallback mechanism fallbackType capability contextId
  | notFound .. => .missingFallback mechanism fallbackType contextId

namespace Resolution

variable {γ : Type} (r : Resolution γ)

/-- The fallback that the descriptor declares. -/
def fallback (capability : String) : Except FactoryError Fallback :=
  let id := r.descriptor.contextId
  match r.descriptor.fallback with
  | .none => .ok .none
  | .delegate t =>
    match r.chain.findNamed (.delegate capability) t.name with
    | .ok c => .ok (.delegate c.value)
    | .error e => .error (e.fallbackError .fallback t.name capability id)
  | .factory t =>
    match r.chain.findNamed (.fallbackFactory capability) t.name with
    | .ok c => .ok (.factory c.value)
    | .error e => .error (e.fallbackError .fallbackFactory t.name capability id)

/-- The builder with a transport from the scopes, if there is one. -/
def withTransport (b : Builder) : Except FactoryError Builder :=
  match r.chain.find? .transport with
  | some t => .ok (b.set (.transport (r.descriptor.route t)))
  | none =>
    if b.transport.isSome then .ok b
    else .error (.missingComponent "TransportClient" r.descriptor.contextId)

/-- Builds the client; commands and fallbacks are for the kinds of clients that have them. -/
def link (capability : String) (b : Builder) : Except FactoryError Client :=
  if b.supportsFallback then
    let b := match r.chain.find? .setterFactory with
      | some c => b.set (.setterFactory c)
      | none => b
    match r.fallback capability with
    | .error e => .error e
    | .ok fallback => b.build r.descriptor.target fallback
  else b.build r.descriptor.target .none

/-- The client for a capability. -/
def client (capability : String) : Except FactoryError Client := do
  let b ← r.builder
  let b ← r.withTransport b
  r.link capability b

end Resolution

namespace Factory

variable {γ τ : Type} (f : Factory γ τ)

/-- A client that is kept, if it has the capability. -/
def kept [Capability τ] (capability : τ) (contextId : String) (c : KeptClient τ) :
    Except FactoryError MadeClient :=
  if c.capability = capability then .ok c.made
  else
    .error (.capabilityMismatch contextId
      (((f.descriptor? contextId).map (·.clientType.name)).getD "") (Capability.name capability))

variable [Acts Kind.Value γ]

/-- The resolution of a descriptor; it takes the scope of its context into use. -/
def resolution (d : Descriptor γ) : Resolution γ :=
  ⟨f.contexts.chain d.contextId, (f.contexts.ensure d.contextId).catalog, f.properties, d⟩

/-- Where the transport of the next client of a context is made. -/
def origin (contextId : String) : Origin :=
  let cs := f.contexts.ensure contextId
  if ((cs.scopeOf contextId).findLocal? .transport).isSome then .scope (cs.scopeId contextId)
  else if (cs.shared.findLocal? .transport).isSome then .shared
  else .client f.made

variable [Reporting γ]

/-- The factory with a scope for a context, and that scope. -/
def ensure (contextId : String) : Result (Scope Kind.Value) γ τ where
  value := .ok (f.contexts.scopeOf contextId)
  factory := { f with contexts := f.contexts.ensure contextId }
  reports := configurationReports (f.contexts.configurationsUsing contextId)

/-- The configuration that a client would have. -/
def resolve (contextId : String) : Result EffectiveConfiguration γ τ :=
  match f.descriptor? contextId with
  | none => { value := .error (.unknownClient contextId), factory := f }
  | some d =>
    let r := f.resolution d
    { value := r.builder.map Builder.effective
      factory := (f.ensure contextId).factory
      reports := (f.ensure contextId).reports ++ r.reports }

variable [Capability τ]

/-- Makes a client, without keeping it. -/
def create (capability : τ) (contextId : String) : Result MadeClient γ τ :=
  match f.descriptor? contextId with
  | none => { value := .error (.unknownClient contextId), factory := f }
  | some d =>
    if d.clientType.name = Capability.name capability then
      let r := f.resolution d
      let ensured := f.ensure contextId
      let reports := ensured.reports ++ r.reports
      match r.client (Capability.name capability) with
      | .error e => { value := .error e, factory := ensured.factory, reports }
      | .ok c =>
        { value := .ok ⟨f.made, c, f.origin contextId⟩
          factory := { ensured.factory with made := f.made + 1 }
          reports }
    else
      { value := .error
          (.capabilityMismatch contextId d.clientType.name (Capability.name capability))
        factory := f }

/-- The client of a context; it is made at the first time and kept. -/
def get (capability : τ) (contextId : String) : Result MadeClient γ τ :=
  match f.clients.get? contextId with
  | some c => { value := f.kept capability contextId c, factory := f }
  | none =>
    let made := f.create capability contextId
    match made.value with
    | .error _ => made
    | .ok c =>
      { made with
        factory :=
          { made.factory with
            clients := made.factory.clients.put contextId ⟨capability, c⟩ } }

/-- The client with a qualifier. -/
def getQualified (capability : τ) (qualifier : String) : Result MadeClient γ τ :=
  match f.qualified? qualifier with
  | none => { value := .error (.unknownClient qualifier), factory := f }
  | some d => f.get capability d.contextId

/-- The primary client of a capability. -/
def getPrimary (capability : τ) : Result MadeClient γ τ :=
  match f.primary? (Capability.name capability) with
  | none => { value := .error (.unknownClient (Capability.name capability)), factory := f }
  | some d =>
    let result := f.get capability d.contextId
    { result with reports := f.primaryReports (Capability.name capability) ++ result.reports }

end Factory
end ServiceClient
