import ServiceClient.Proofs.Declaration.Describe
import ServiceClient.Proofs.Factory.Creation

/-!
# Isolation of clients

A registration is about one context. `register_untouched_iff` says for which context ids it leaves
all other contexts alone: for those that do not begin as the names of shared configurations do.
-/

namespace ServiceClient

namespace Contexts

section

variable {κ : Type} {β : κ → Type}

/-- Contexts that agree on all that concerns one context. -/
structure SameAt (id : String) (cs ds : Contexts β) : Prop where
  scope : ds.scopes.get? id = cs.scopes.get? id
  configurations : ds.configurationsFor id = cs.configurationsFor id
  retired : ds.retiredScopes id = cs.retiredScopes id
  shared : ds.shared = cs.shared
  catalog : ds.catalog = cs.catalog

namespace SameAt

variable {id : String} {cs ds es : Contexts β}

lemma refl (id : String) (cs : Contexts β) : SameAt id cs cs := ⟨rfl, rfl, rfl, rfl, rfl⟩

lemma trans (first : SameAt id cs ds) (second : SameAt id ds es) : SameAt id cs es :=
  ⟨second.scope.trans first.scope, second.configurations.trans first.configurations,
    second.retired.trans first.retired, second.shared.trans first.shared,
    second.catalog.trans first.catalog⟩

end SameAt

/-- Configurations that are replaced leave other contexts alone, unless they are shared. -/
lemma sameAt_replaceConfigurations (cs : Contexts β) {name id : String}
    (configurations : List (Configuration β)) (own : isShared name = false) (ne : id ≠ name) :
    SameAt id cs (cs.replaceConfigurations name configurations) where
  scope := by rw [get?_scopes_replaceConfigurations, if_neg ne]
  configurations := cs.configurationsFor_replaceConfigurations configurations own ne
  retired := by rw [retiredScopes_replaceConfigurations, if_neg ne]
  shared := rfl
  catalog := rfl

end

variable {κ : Type} [DecidableEq κ] {β : κ → Type}

namespace SameAt

variable {id : String} {cs ds : Contexts β}

/-- The scope that would be made is the same. -/
lemma fresh (same : SameAt id cs ds) : ds.fresh id = cs.fresh id :=
  fresh_congr (fun c _ => Acts.alone c) same.shared same.configurations

/-- So is the scope as it is seen. -/
lemma scopeOf (same : SameAt id cs ds) : ds.scopeOf id = cs.scopeOf id := by
  rw [scopeOf_eq, same.scope, same.fresh, scopeOf_eq]

/-- And the chain that begins with it. -/
lemma chain (same : SameAt id cs ds) : ds.chain id = cs.chain id := by
  rw [chain_eq, same.scopeOf, same.shared, chain_eq]

end SameAt

/-- An added configuration leaves alone what it does not concern. -/
lemma sameAt_addConfiguration (cs : Contexts β) {name id : String} (c : Configuration β)
    (apart : concerns name id = false) : SameAt id cs (cs.addConfiguration name c) where
  scope := by
    rw [get?_scopes_addConfiguration, apart]
    exact Option.map_id'
  configurations := cs.configurationsFor_addConfiguration name c apart
  retired := by
    obtain ⟨scopes, eq⟩ := cs.addConfiguration_eq name c
    rw [eq]
    rfl
  shared := by
    obtain ⟨scopes, eq⟩ := cs.addConfiguration_eq name c
    rw [eq]
  catalog := by
    obtain ⟨scopes, eq⟩ := cs.addConfiguration_eq name c
    rw [eq]

/-- Several added configurations leave alone what none of them concerns. -/
lemma sameAt_addAll (cs : Contexts β) {id : String}
    (additions : List (String × Configuration β))
    (apart : ∀ a ∈ additions, concerns a.1 id = false) : SameAt id cs (cs.addAll additions) := by
  induction additions generalizing cs with
  | nil => exact .refl id cs
  | cons a additions ih =>
    have first := cs.sameAt_addConfiguration a.2 (apart a List.mem_cons_self)
    exact first.trans (ih _ fun b mem => apart b (List.mem_cons_of_mem _ mem))

end Contexts

namespace Factory

/-- A context is left alone: its scope stays as it is, or as it would be made, so do its scopes that
gave way, and its client has the configuration that it had. -/
structure Untouched (id : String) (f g : Factory) : Prop where
  scope : g.contexts.scopes.get? id = f.contexts.scopes.get? id
  future : g.contexts.fresh id = f.contexts.fresh id
  retired : g.contexts.retiredScopes id = f.contexts.retiredScopes id
  resolved : (g.resolve id).value = (f.resolve id).value

lemma Untouched.refl (id : String) (f : Factory) : Untouched id f f := ⟨rfl, rfl, rfl, rfl⟩

/-- A client that is new adds its configurations, all under its context id. -/
lemma contexts_register {γ τ : Type} [Acts Kind.Value γ] [Reporting γ] {f : Factory γ τ}
    {d : Declaration γ} {id : String}
    (registered : d.contextId? f.placeholders = some id) (new : f.descriptor? id = none) :
    (f.register d).factory.contexts = f.contexts.addAll (d.configurations.map (id, ·)) := by
  obtain ⟨desc, described, rfl⟩ := Declaration.contextId?_eq_some.1 registered
  simp only [register, described]
  rw [configured_eq, new, Option.isSome_none, if_neg Bool.false_ne_true,
    Declaration.configurations_of_describe described]

variable {f : Factory}

/-- The configurations of a client are taken over without an effect on other contexts, unless its
context id is that of shared ones. -/
lemma sameAt_configured {d : Descriptor} {id : String}
    (own : Contexts.isShared d.contextId = false) (ne : id ≠ d.contextId) :
    Contexts.SameAt id f.contexts (f.configured d) := by
  rw [configured_eq]
  split
  · exact f.contexts.sameAt_replaceConfigurations d.configurations own ne
  · refine f.contexts.sameAt_addAll (d.configurations.map (d.contextId, ·)) fun a mem => ?_
    obtain ⟨c, -, rfl⟩ := List.mem_map.1 mem
    exact Contexts.concerns_eq_false own ne

/-- The configuration of a client stays when the descriptor and all that concerns the context are
the same. -/
lemma Reachable.resolve_congr {g : Factory} (reach : f.Reachable) {id : String}
    (same : Contexts.SameAt id f.contexts g.contexts) (properties : g.properties = f.properties)
    (descriptor : g.descriptor? id = f.descriptor? id) :
    (g.resolve id).value = (f.resolve id).value := by
  cases found : f.descriptor? id with
  | none =>
    rw [found] at descriptor
    simp only [resolve, found, descriptor]
  | some d =>
    obtain rfl := reach.contextId_eq found
    refine resolve_value_congr found (descriptor.trans found) same.chain ?_ properties
    rw [Contexts.catalog_ensure, Contexts.catalog_ensure, same.catalog]

/-- A registration leaves alone what is not its own context. -/
lemma Reachable.register_untouched (reach : f.Reachable) {d : Declaration} {id : String}
    (own : ∀ a, d.contextId? f.placeholders = some a → Contexts.isShared a = false)
    (ne : d.contextId? f.placeholders ≠ some id) : Untouched id f (f.register d).factory := by
  unfold register
  cases described : d.describe f.placeholders with
  | error e => exact .refl id f
  | ok desc =>
    have registered : d.contextId? f.placeholders = some desc.contextId :=
      Declaration.contextId?_eq_some.2 ⟨desc, described, rfl⟩
    have other : id ≠ desc.contextId := fun eq => ne (eq ▸ registered)
    have same := f.sameAt_configured (own _ registered) other
    refine ⟨same.scope, same.fresh, same.retired, reach.resolve_congr same rfl ?_⟩
    exact (Table.get?_put _ _ _ _).trans (if_neg other)

/-- A client under the id of shared configurations is registered twice: what it registers at first
is in the scope that any other context would get, and is gone after the second registration. -/
lemma fresh_register_shared {d : Declaration} {ps : Placeholders} {desc : Descriptor} {id : String}
    (described : d.describe ps = .ok desc) (shared : Contexts.isShared desc.contextId = true)
    (ne : id ≠ desc.contextId) (e : Registration) :
    ∃ f : Factory, f.Reachable ∧ f.placeholders = ps ∧ f.contexts.fresh id = ⟨id, [e]⟩ ∧
      (f.register d).factory.contexts.fresh id =
        Scope.registerAll ⟨id, []⟩ desc.configurations.flatten := by
  have first := d.describe_configurations [[e]] ps
  rw [described] at first
  let f : Factory :=
    { contexts := { configurations := [(desc.contextId, [[e]])] }
      placeholders := ps
      descriptors := [(desc.contextId, { desc with configurations := [[e]] })] }
  have reach : f.Reachable := by
    have new : ({ contexts := {}, placeholders := ps } : Factory).Reachable := .new {} {} ps
    have next := new.step (.register { d with configurations := [[e]] })
    simp only [step, register, first] at next
    exact next
  refine ⟨f, reach, rfl, ?_, ?_⟩
  · rw [Contexts.fresh_eq_registerAll]
    simp [f, Contexts.configurationsFor, shared, Table.get?_cons, ne, Scope.registerAll,
      Scope.register]
  · have known : f.descriptors.get? desc.contextId =
        some { desc with configurations := [[e]] } := by
      rw [Table.get?_cons, if_pos rfl]
    have replaced : (f.register d).factory.contexts.configurationsFor id = desc.configurations := by
      simp only [register, f, described, configured, known, Contexts.replaceConfigurations]
      cases desc.configurations <;>
        simp [Contexts.configurationsFor, Table.drop, Table.put, Table.get?_cons, shared, ne]
    rw [Contexts.fresh_eq_registerAll, replaced]

/-- A registration leaves alone all contexts but its own, in every reachable factory, exactly when
its context id does not begin as the names of shared configurations do. -/
theorem register_untouched_iff (d : Declaration) (ps : Placeholders) :
    (∀ f, Reachable f → f.placeholders = ps → ∀ id, d.contextId? ps ≠ some id →
      Untouched id f (f.register d).factory) ↔
      ∀ a, d.contextId? ps = some a → Contexts.isShared a = false := by
  constructor
  · intro untouched a registered
    cases shared : Contexts.isShared a with
    | false => rfl
    | true =>
      obtain ⟨desc, described, rfl⟩ := Declaration.contextId?_eq_some.1 registered
      have ne : "users" ≠ desc.contextId := by
        intro eq
        rw [← eq] at shared
        exact absurd shared (by decide)
      have other : d.contextId? ps ≠ some "users" := fun eq =>
        ne (Option.some.inj (eq.symm.trans registered))
      -- what a client brings cannot be what was there before, once this and once that
      obtain ⟨f, reach, known, before, after⟩ := fresh_register_shared described shared ne
        (Kind.entry .loggerLevel "own" LoggerLevel.full)
      obtain ⟨g, reach', known', before', after'⟩ := fresh_register_shared described shared ne
        (Kind.entry .loggerLevel "own" LoggerLevel.basic)
      have eq := (untouched f reach known "users" other).future
      have eq' := (untouched g reach' known' "users" other).future
      rw [before, after] at eq
      rw [before', after', eq] at eq'
      cases eq'
  · intro own f reach known id ne
    subst known
    exact reach.register_untouched own ne

/-- A factory whose clients have what every client needs, and nothing else. -/
def plain : Factory where
  contexts := { defaults := [defaultConfiguration .plain], catalog := builtins }

/-- A client that declares nothing. -/
def usersClient : Declaration where
  clientType := ⟨"UsersClient", .interface⟩
  name := some "users"

/-- A client that logs everything, under the context id of a shared configuration. -/
def ordersClient : Declaration where
  clientType := ⟨"OrdersClient", .interface⟩
  name := some "default.orders"
  configurations := [[Kind.entry .loggerLevel "own" LoggerLevel.full]]

/-- What the client of a context logs. -/
def levelOf (f : Factory) (id : String) : Option LoggerLevel :=
  ((f.resolve id).value.map (·.loggerLevel)).toOption

/-- One client logs nothing until another one is registered, so clients are not always left
alone. -/
theorem not_register_untouched :
    ¬ ∀ f d id, Reachable f → d.contextId? f.placeholders ≠ some id →
      Untouched id f (f.register d).factory := by
  intro untouched
  let f := (plain.register usersClient).factory
  have reach : Reachable f := (Reachable.new _ _ _).step (.register usersClient)
  have other : ordersClient.contextId? f.placeholders ≠ some "users" := by decide +kernel
  have before : levelOf f "users" = some .none := by decide +kernel
  have after : levelOf (f.register ordersClient).factory "users" = some .full := by decide +kernel
  have same := (untouched f ordersClient "users" reach other).resolved
  rw [levelOf, same] at after
  cases before.symm.trans after

end Factory
end ServiceClient
