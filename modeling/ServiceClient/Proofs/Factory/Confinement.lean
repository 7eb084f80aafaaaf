import Mathlib.Data.List.Forall2
import ServiceClient.Proofs.Factory.Creation
import ServiceClient.Proofs.Factory.Isolation

/-!
# Clients that take nothing over

A configurer may tell that a client takes nothing over from outside. Such a client still looks for
what every client needs in all of its scopes, and for the configurer itself; `isRequired` tells
these kinds. `resolve_isolated` compares two worlds that differ in everything else outside of the
scope of the client: its configuration, or the reason why it has none, is the same in both.
-/

namespace ServiceClient

/-- The kinds that every client looks up in all of its scopes. -/
def Kind.isRequired : Kind → Bool
  | builderTemplate | encoder | decoder | contract | configurer => true
  | _ => false

/-- Two scopes hold the same of what every client needs. -/
def SameRequired (s t : Scope Kind.Value) : Prop :=
  ∀ k : Kind, k.isRequired = true → t.findAllLocal k = s.findAllLocal k

namespace Resolution

/-- Two worlds agree on what a client may see that takes nothing over. -/
structure SameInside (r r' : Resolution) : Prop where
  descriptor : r'.descriptor = r.descriptor
  nearest : r'.chain.nearest = r.chain.nearest
  above : List.Forall₂ SameRequired r.chain.above r'.chain.above

namespace SameInside

variable {r r' : Resolution} (same : r.SameInside r')

include same

/-- What every client needs is found alike. -/
lemma find? {k : Kind} (required : k.isRequired = true) : r'.chain.find? k = r.chain.find? k := by
  obtain ⟨-, nearest, above⟩ := same
  unfold Chain.find? Chain.scopes
  rw [List.findSome?_cons, List.findSome?_cons, nearest]
  cases r.chain.nearest.findLocal? k with
  | some x => rfl
  | none =>
    generalize r.chain.above = scopes, r'.chain.above = scopes' at above
    induction above with
    | nil => rfl
    | @cons s s' scopes scopes' here _ ih =>
      have last : s'.findLocal? k = s.findLocal? k := by
        rw [Scope.findLocal?_eq_getLast?, Scope.findLocal?_eq_getLast?, here k required]
      rw [List.findSome?_cons, List.findSome?_cons, last]
      cases s.findLocal? k with
      | some x => rfl
      | none => exact ih

/-- The client takes nothing over in both worlds, or in none. -/
lemma inherits : r'.inherits = r.inherits := by
  unfold Resolution.inherits
  rw [same.find? rfl]

/-- A component that every client needs is missed alike. -/
lemma required {k : Kind} (required : k.isRequired = true) (name : String) :
    r'.required k name = r.required k name := by
  unfold Resolution.required
  rw [same.find? required, same.descriptor]

/-- The builder begins alike. -/
lemma base : r'.base = r.base := by
  unfold Resolution.base
  rw [same.required rfl, same.required rfl, same.required rfl, same.required rfl]

/-- When the chain is cut behind the own scope, the same component is found. -/
lemma lookup (k : Kind) : r'.chain.lookup false k = r.chain.lookup false k := by
  unfold Chain.lookup
  rw [if_neg Bool.false_ne_true, if_neg Bool.false_ne_true, same.nearest]

/-- And the same components are found. -/
lemma lookupAll (k : Kind) : r'.chain.lookupAll false k = r.chain.lookupAll false k := by
  unfold Chain.lookupAll
  rw [if_neg Bool.false_ne_true, if_neg Bool.false_ne_true, same.nearest]

/-- So the own scope and the descriptor declare the same. -/
lemma declaredSettings : r'.declaredSettings false = r.declaredSettings false := by
  have errorDecoder : r'.declaredErrorDecoder false = r.declaredErrorDecoder false := by
    unfold declaredErrorDecoder
    rw [same.lookup, same.lookup, same.descriptor]
  have interceptors : r'.declaredInterceptors false = r.declaredInterceptors false := by
    unfold declaredInterceptors
    rw [same.lookupAll]
  unfold Resolution.declaredSettings
  rw [errorDecoder, interceptors, same.descriptor]
  simp only [same.lookup]

/-- A client that takes nothing over has the same builder. -/
lemma builder (isolated : r.inherits = false) : r'.builder = r.builder := by
  have isolated' : r'.inherits = false := same.inherits.trans isolated
  have draft : r'.draft = r.draft := by
    unfold Resolution.draft
    rw [same.base, settings_of_not_inherits isolated, settings_of_not_inherits isolated',
      same.declaredSettings]
  have customizers : r'.customizers = r.customizers := by
    rw [Resolution.customizers, Resolution.customizers, isolated, isolated', same.lookupAll,
      same.descriptor]
  rw [Resolution.builder, Resolution.builder, draft, customizers]

end SameInside
end Resolution

namespace Factory

/-- Two factories agree on what the client of a context may see that takes nothing over: on its
descriptor, on its own scope, and of the shared scope on what every client needs. -/
structure SameInside (id : String) (f g : Factory) : Prop where
  descriptor : g.descriptor? id = f.descriptor? id
  scope : g.contexts.scopeOf id = f.contexts.scopeOf id
  shared : SameRequired f.contexts.shared g.contexts.shared

/-- The configuration of a client that takes nothing over, or the reason why it has none, depends on
nothing else than its descriptor, its own scope and what every client needs: neither on properties
nor on the catalog, and on nothing else that is shared. -/
theorem resolve_isolated {f g : Factory} (reach : f.Reachable) {id : String}
    (same : SameInside id f g) {c : Component Configurer}
    (found : (f.contexts.chain id).find? .configurer = some c)
    (isolated : c.value.inherits = false) :
    (g.resolve id).value = (f.resolve id).value := by
  cases registered : f.descriptor? id with
  | none =>
    have registered' : g.descriptor? id = none := same.descriptor.trans registered
    simp only [resolve, registered, registered']
  | some d =>
    have registered' : g.descriptor? id = some d := same.descriptor.trans registered
    have own : d.contextId = id := reach.contextId_eq registered
    have inside : (f.resolution d).SameInside (g.resolution d) := by
      rw [resolution_eq, resolution_eq, Contexts.chain_eq, Contexts.chain_eq]
      refine ⟨rfl, ?_, .cons same.shared .nil⟩
      rw [own, same.scope]
    have alone : (f.resolution d).inherits = false := by
      show (((f.contexts.chain d.contextId).find? .configurer).map _).getD true = false
      rw [own, found, Option.map_some, Option.getD_some, isolated]
    rw [resolve_value registered, resolve_value registered', inside.builder alone]

/-- A factory that shares what every client needs, and something more. -/
def sharing (more : Configuration Kind.Value) (properties : Properties)
    (catalog : Catalog Kind.Value) : Factory where
  contexts := { shared := ⟨"application", defaultConfiguration .plain ++ more⟩, catalog }
  properties

/-- A client that takes nothing over, and tells when it tries again. -/
def isolatedClient : Declaration :=
  { usersClient with
    configurations := [[Kind.entry .configurer "isolated" ⟨false⟩,
      Kind.entry .retryPolicy "own" .standard]]
    customizers := [⟨fun _ => [.decode404]⟩] }

/-- Such a client is configured alike in two worlds, in one of which its entry names an encoder that
nobody knows. -/
theorem resolve_isolatedClient :
    let quiet := ((sharing [] {} builtins).register isolatedClient).factory
    let loud := ((sharing [Kind.entry .loggerLevel "shared" LoggerLevel.full,
        Kind.entry .customizer "shared" ⟨fun _ => [.loggerLevel .full]⟩]
      { config := [("users", { encoder := some "unknown" })] } {}).register isolatedClient).factory
    (loud.resolve "users").value = (quiet.resolve "users").value ∧
      (loud.resolve "users").value.map (fun e => (e.retryer, e.decode404, e.loggerLevel)) =
        .ok ("own", true, .none) := by
  intro quiet loud
  have registered : isolatedClient.contextId? {} = some "users" := by decide +kernel
  have reach : quiet.Reachable := (Reachable.new _ _ _).step (.register isolatedClient)
  have contexts : quiet.contexts =
      (sharing [] {} builtins).contexts.addAll (isolatedClient.configurations.map ("users", ·)) :=
    contexts_register registered rfl
  have contexts' : loud.contexts = _ := contexts_register registered rfl
  have same : SameInside "users" quiet loud := by
    refine ⟨?_, ?_, ?_⟩
    · have descriptors : quiet.descriptors = _ := descriptors_step (.register isolatedClient)
      have descriptors' : loud.descriptors = _ := descriptors_step (.register isolatedClient)
      rw [descriptor?, descriptor?, descriptors, descriptors']
      rfl
    · rw [contexts, contexts']
      rfl
    · rw [contexts, contexts']
      intro k required
      cases k with
      | builderTemplate | encoder | decoder | contract | configurer => rfl
      | _ => cases required
  have found : (quiet.contexts.chain "users").find? .configurer =
      some ⟨"isolated", ⟨false⟩, 0⟩ := by
    rw [contexts]
    rfl
  have equal := resolve_isolated reach same found rfl
  refine ⟨equal, ?_⟩
  rw [equal]
  decide +kernel

end Factory
end ServiceClient
