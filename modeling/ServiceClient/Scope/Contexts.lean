import ServiceClient.Scope.Catalog
import ServiceClient.Scope.Chain
import ServiceClient.Table
import ServiceClient.Text.Blank

/-!
# Contexts

One shared scope, and below it a scope for each context, made when it is first used. What goes into
a new scope is told by configurations: those for every context, those shared under a name, and those
of the context itself, in this order. While a configuration is carried out on a scope it may use
contexts, too.
-/

namespace ServiceClient

/-- A form of configurations that know nothing of contexts. To carry one out changes the components
of the scope at the front of a chain, and not the name of the scope; the scopes above may be looked
at. -/
class Configures {κ : Type} (β : κ → Type) (γ : Type) where
  configure : γ → Chain β → Scope β
  name_configure (c : γ) (chain : Chain β) : (configure c chain).name = chain.nearest.name

/-- The components that a configuration registers, one after the other. -/
abbrev Configuration {κ : Type} (β : κ → Type) := List (Entry β)

instance {κ : Type} [DecidableEq κ] {β : κ → Type} : Configures β (Configuration β) where
  configure c chain := chain.nearest.registerAll c
  name_configure c chain := chain.nearest.name_registerAll c

/-- Tells the scopes of contexts apart, also those of one context that gave way to each other. -/
structure ScopeId where
  contextId : String
  /-- How many scopes of the context there were before. -/
  generation : Nat
  deriving DecidableEq, Repr

/-- The shared scope and the scopes of the contexts. -/
structure Contexts {κ : Type} (β : κ → Type) (γ : Type := Configuration β) where
  /-- The scope above all others. -/
  shared : Scope β := ⟨"application", []⟩
  /-- Configurations for every context. -/
  defaults : List γ := []
  /-- Configurations under a name: that of a context, or one that stands for every context. -/
  configurations : Table (List γ) := []
  /-- The scopes in use, by context. -/
  scopes : Table (Scope β) := []
  /-- The scopes that gave way to new ones but may still be held, by context, the oldest first. -/
  retired : Table (List (Scope β)) := []
  catalog : Catalog β := {}

/-- A form in which configurations are given. A configuration that is carried out on a scope changes
this scope, and it may use contexts meanwhile: look at other scopes, take them into use, and give
configurations. The scope comes back with all that it got meanwhile. -/
class Acts {κ : Type} (β : κ → Type) (γ : Type) where
  act : γ → Contexts β γ → Scope β → Contexts β γ × Scope β

instance {κ : Type} {β : κ → Type} {γ : Type} [Configures β γ] : Acts β γ where
  act c cs s := (cs, Configures.configure c ⟨s, [cs.shared]⟩)

namespace Contexts

variable {κ : Type} {β : κ → Type} {γ : Type} [Acts β γ]

/-- Whether configurations under a name are for every context. -/
def isShared (name : String) : Bool := Text.beginsWith name "default."

/-- Adds a configuration for every context; scopes that are there already do not get it. -/
def addDefault (cs : Contexts β γ) (configuration : γ) : Contexts β γ :=
  { cs with defaults := cs.defaults ++ [configuration] }

/-- The configurations that a new scope gets, in the order in which they are applied. -/
def configurationsFor (cs : Contexts β γ) (contextId : String) : List γ :=
  cs.defaults ++ (cs.configurations.filter (isShared ·.1)).flatMap (·.2) ++
    (cs.configurations.get? contextId).getD []

/-- A scope of a context after a configuration was carried out on it. -/
def configured (cs : Contexts β γ) (s : Scope β) (configuration : γ) : Scope β :=
  (Acts.act configuration cs s).2

/-- What becomes of contexts while a new scope is made for one of them, and this scope. -/
def make (cs : Contexts β γ) (contextId : String) : Contexts β γ × Scope β :=
  (cs.configurationsFor contextId).foldl (fun (cs, s) c => Acts.act c cs s) (cs, ⟨contextId, []⟩)

/-- A new scope for a context. -/
def fresh (cs : Contexts β γ) (contextId : String) : Scope β :=
  (cs.make contextId).2

/-- The contexts with a scope for the given one. -/
def ensure (cs : Contexts β γ) (contextId : String) : Contexts β γ :=
  match cs.scopes.get? contextId with
  | some _ => cs
  | none =>
    let (made, s) := cs.make contextId
    match made.scopes.get? contextId with
    -- a scope that came into use meanwhile stays
    | some _ => made
    | none => { made with scopes := made.scopes.put contextId s }

/-- The scope of a context, as it is or as it would be made. -/
def scopeOf (cs : Contexts β γ) (contextId : String) : Scope β :=
  ((cs.ensure contextId).scopes.get? contextId).getD (cs.fresh contextId)

/-- The chain that begins with the scope of a context. -/
def chain (cs : Contexts β γ) (contextId : String) : Chain β :=
  ⟨cs.scopeOf contextId, [(cs.ensure contextId).shared]⟩

/-- The names of the contexts that have a scope. -/
def contextIds (cs : Contexts β γ) : List String := cs.scopes.names

/-- Whether configurations under a name are for a context. -/
def concerns (name contextId : String) : Bool := isShared name || contextId == name

/-- The scopes of a context that gave way. -/
def retiredScopes (cs : Contexts β γ) (contextId : String) : List (Scope β) :=
  (cs.retired.get? contextId).getD []

/-- Replaces the configurations of a context; its scope is made anew at the next use. -/
def replaceConfigurations (cs : Contexts β γ) (contextId : String) (configurations : List γ) :
    Contexts β γ :=
  { cs with
    configurations :=
      if configurations.isEmpty then cs.configurations.drop contextId
      else cs.configurations.put contextId configurations
    scopes := cs.scopes.drop contextId
    retired :=
      cs.retired.put contextId (cs.retiredScopes contextId ++ (cs.scopes.get? contextId).toList) }

/-- Changes the shared scope. -/
def updateShared (cs : Contexts β γ) (f : Scope β → Scope β) : Contexts β γ :=
  { cs with shared := f cs.shared }

/-- What tells the scope of a context from all others, as it is or as it would be made. -/
def scopeId (cs : Contexts β γ) (contextId : String) : ScopeId :=
  ⟨contextId, (cs.retiredScopes contextId).length⟩

/-- The scope that is meant, whether it is in use or gave way. -/
def scopeAt? (cs : Contexts β γ) (id : ScopeId) : Option (Scope β) :=
  (cs.retiredScopes id.contextId ++ (cs.scopes.get? id.contextId).toList)[id.generation]?

/-- Puts a scope into the place of the one that is meant. -/
def setScope (cs : Contexts β γ) (id : ScopeId) (s : Scope β) : Contexts β γ :=
  if id = cs.scopeId id.contextId then { cs with scopes := cs.scopes.put id.contextId s }
  else
    { cs with
      retired := cs.retired.put id.contextId ((cs.retiredScopes id.contextId).set id.generation s) }

/-- The configurations that are carried out when the scope of a context is used. -/
def configurationsUsing (cs : Contexts β γ) (contextId : String) : List γ :=
  match cs.scopes.get? contextId with
  | some _ => []
  | none => cs.configurationsFor contextId

/-- The scopes in use that configurations under a name are for. -/
def concerned (cs : Contexts β γ) (name : String) : List ScopeId :=
  (cs.contextIds.filter (concerns name)).eraseDups.map cs.scopeId

/-- Carries out a configuration on the scope that is meant. -/
def carryOut (configuration : γ) (cs : Contexts β γ) (id : ScopeId) : Contexts β γ :=
  match cs.scopeAt? id with
  | some s =>
    let (cs, s) := Acts.act configuration cs s
    cs.setScope id s
  | none => cs

/-- Adds a configuration; scopes that are there already get it at once. -/
def addConfiguration (cs : Contexts β γ) (name : String) (configuration : γ) : Contexts β γ :=
  (cs.concerned name).foldl (carryOut configuration)
    { cs with
      configurations :=
        cs.configurations.put name ((cs.configurations.get? name).getD [] ++ [configuration]) }

/-- The configurations that are carried out when one is added: it itself, once for each scope that
it concerns. -/
def configurationsAdding (cs : Contexts β γ) (name : String) (configuration : γ) : List γ :=
  (cs.concerned name).map fun _ => configuration

/-- The diagnostic text of contexts. -/
def debugText (cs : Contexts β γ) : String :=
  "NamedScope \x7b parent: " ++ cs.shared.debugText ++ ", children: " ++
    Text.quotedList cs.contextIds ++ ", .. \x7d"

end Contexts
end ServiceClient
