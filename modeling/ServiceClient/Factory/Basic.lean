import ServiceClient.Declaration.Describe
import ServiceClient.Factory.Resolution
import ServiceClient.Transport.Script

/-!
# Client factories

A factory keeps the descriptors of the clients that were registered, the components they can see,
and the clients that were made.
-/

namespace ServiceClient

/-- A client that was made, with the number of its making and the origin of its transport. -/
structure MadeClient where
  serial : Nat
  client : Client
  origin : Origin

/-- Capabilities that can be told apart, and their names. Descriptors know a capability by its name;
a client that was made for one can be got for the same one only. -/
class Capability (τ : Type) where
  name : τ → String
  [same : DecidableEq τ]

attribute [reducible, instance] Capability.same

/-- Capabilities that are nothing but names. -/
instance : Capability String where
  name t := t

/-- A client that is kept, and the capability for which it was made: no other one can be got of
it. -/
structure KeptClient (τ : Type := String) where
  capability : τ
  made : MadeClient

/-- Makes clients and keeps them. -/
structure Factory (γ : Type := Configuration Kind.Value) (τ : Type := String) where
  contexts : Contexts Kind.Value γ
  properties : Properties := {}
  placeholders : Placeholders := {}
  /-- The descriptors by context id. -/
  descriptors : Table (Descriptor γ) := []
  /-- The clients that are kept, by context id. -/
  clients : Table (KeptClient τ) := []
  /-- The number of clients made. -/
  made : Nat := 0

/-- What an operation of a factory gives. -/
structure Factory.Result (α : Type) (γ : Type := Configuration Kind.Value)
    (τ : Type := String) where
  value : Except FactoryError α
  factory : Factory γ τ
  reports : List Report := []

namespace Factory

variable {γ τ : Type}

/-- The clients that are kept when a descriptor is registered: not the one that was made from the
descriptor of an earlier registration. -/
def clientsBeside (f : Factory γ τ) (d : Descriptor γ) : Table (KeptClient τ) :=
  match f.descriptors.get? d.contextId with
  | some _ => f.clients.drop d.contextId
  | none => f.clients

section

variable [Acts Kind.Value γ]

/-- The contexts with the configurations of a descriptor: they replace those of an earlier
registration. -/
def configured (f : Factory γ τ) (d : Descriptor γ) : Contexts Kind.Value γ :=
  match f.descriptors.get? d.contextId with
  | some _ => f.contexts.replaceConfigurations d.contextId d.configurations
  | none => d.configurations.foldl (fun cs c => cs.addConfiguration d.contextId c) f.contexts

variable [Reporting γ]

/-- What is reported while the configurations of a descriptor are taken over. -/
def configuredReports (f : Factory γ τ) (d : Descriptor γ) : List Report :=
  match f.descriptors.get? d.contextId with
  | some _ => [.registeredTwice d.contextId]
  | none =>
    configurationReports (d.configurations.flatMap (f.contexts.configurationsAdding d.contextId))

/-- Registers a client under its context id; an earlier registration gives way. -/
def register (f : Factory γ τ) (declaration : Declaration γ) : Result (Descriptor γ) γ τ :=
  match declaration.describe f.placeholders with
  | .error e => { value := .error e, factory := f }
  | .ok d =>
    { value := .ok d
      factory :=
        { f with
          contexts := f.configured d
          descriptors := f.descriptors.put d.contextId d
          clients := f.clientsBeside d }
      reports := f.configuredReports d }

/-- Adds configurations under a name, for one context or for all. -/
def addConfiguration (f : Factory γ τ) (name : String) (c : γ) : Result Unit γ τ where
  value := .ok ()
  factory := { f with contexts := f.contexts.addConfiguration name c }
  reports := configurationReports (f.contexts.configurationsAdding name c)

/-- Adds a configuration for all clients, under a name. -/
def registerDefault (f : Factory γ τ) (name : String) (c : γ) : Result Unit γ τ :=
  f.addConfiguration ("default." ++ name) c

end

/-- The descriptor of a context id. -/
def descriptor? (f : Factory γ τ) (contextId : String) : Option (Descriptor γ) :=
  f.descriptors.get? contextId

/-- The descriptors for which `p` holds, in the order of their context ids. -/
def descriptorsWith (f : Factory γ τ) (p : Descriptor γ → Bool) : List (Descriptor γ) :=
  (List.map Prod.snd f.descriptors).filter p

/-- The descriptor with a qualifier; of several, the first by context id. -/
def qualified? (f : Factory γ τ) (qualifier : String) : Option (Descriptor γ) :=
  (f.descriptorsWith (·.qualifiers.contains qualifier)).head?

/-- The descriptors that are declared to be primary for a capability. -/
def primaries (f : Factory γ τ) (capability : String) : List (Descriptor γ) :=
  f.descriptorsWith fun d => d.primary && d.clientType.name == capability

/-- The primary descriptor for a capability; of several, the first by context id. -/
def primary? (f : Factory γ τ) (capability : String) : Option (Descriptor γ) :=
  (f.primaries capability).head?

/-- What is reported when the primary descriptor is looked up. -/
def primaryReports (f : Factory γ τ) (capability : String) : List Report :=
  let count := (f.primaries capability).length
  if 1 < count then [.severalPrimaries capability count] else []

/-- The diagnostic text of a factory. -/
def debugText (f : Factory γ τ) : String :=
  "ClientFactory \x7b clients: " ++ Text.quotedList f.descriptors.names ++ ", built: " ++
    toString f.clients.length ++ ", .. \x7d"

end Factory
end ServiceClient
