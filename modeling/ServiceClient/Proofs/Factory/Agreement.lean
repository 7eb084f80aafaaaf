import Mathlib.Data.Option.Defs
import ServiceClient.Proofs.Factory.Layers
import ServiceClient.Proofs.Factory.Run

/-!
# Clients from alike scopes

A client is made from what lookups find, so alike chains of scopes give the same client;
`client_congr` and `builder_congr` say so. `step_withScopes` compares a step of a factory with a
step of the same factory with other scopes: when the scopes that it takes into use are alike, the
answers are the same, and afterwards the factories again differ in their scopes only.
-/

namespace ServiceClient

/-- Why a fallback is missed does not depend on where its name is known. -/
lemma ScopeError.fallbackError_congr {κ : Type} {e e' : ScopeError κ}
    (same : e.isMismatch = e'.isMismatch) (m : FallbackMechanism) (t capability id : String) :
    e.fallbackError m t capability id = e'.fallbackError m t capability id := by
  cases e <;> cases e' <;> first | rfl | cases same

namespace Resolution

variable {r : Resolution} {c : Chain Kind.Value} (alike : r.chain.Alike c)

include alike

/-- The same components are there that every client needs. -/
lemma required_congr : { r with chain := c }.required = r.required := by
  funext k name
  simp only [required, alike.find? k]

/-- The same components are found by their names; what is missed is looked up in the catalog. -/
lemma named_congr : { r with chain := c }.named = r.named := by
  funext k name
  unfold named
  rcases alike.findNamed k name with ⟨x, eq, eq'⟩ | ⟨e, e', eq, eq', -⟩
  · rw [eq, eq']
  · rw [eq, eq']

/-- Alike chains declare the same. -/
lemma declaredSettings_congr (inherit : Bool) :
    { r with chain := c }.declaredSettings inherit = r.declaredSettings inherit := by
  simp only [declaredSettings, declaredErrorDecoder, declaredInterceptors, alike.lookup inherit,
    alike.lookupAll inherit]

/-- All layers together are the same. -/
lemma settings_congr : { r with chain := c }.settings = r.settings := by
  have inherits : { r with chain := c }.inherits = r.inherits := by
    simp only [inherits, alike.find?]
  have entries : { r with chain := c }.entries = r.entries := rfl
  simp only [settings, inherits, entries, entriesSettings_congr (named_congr alike),
    declaredSettings_congr alike]

/-- Alike chains give the same configuration. -/
lemma builder_congr : { r with chain := c }.builder = r.builder := by
  have customizers : { r with chain := c }.customizers = r.customizers := by
    simp only [customizers, inherits, alike.find?, alike.lookupAll]
  simp only [builder, draft, base, required_congr alike, settings_congr alike, customizers]

/-- The same fallback is found, or it is missed for the same reason. -/
lemma fallback_congr (capability : String) :
    { r with chain := c }.fallback capability = r.fallback capability := by
  unfold fallback
  cases r.descriptor.fallback with
  | none => rfl
  | delegate t =>
    dsimp only
    rcases alike.findNamed (.delegate capability) t.name with ⟨x, eq, eq'⟩ | ⟨e, e', eq, eq', same⟩
    · rw [eq, eq']
    · rw [eq, eq']
      exact congrArg _ (ScopeError.fallbackError_congr same _ _ _ _).symm
  | factory t =>
    dsimp only
    rcases alike.findNamed (.fallbackFactory capability) t.name with
      ⟨x, eq, eq'⟩ | ⟨e, e', eq, eq', same⟩
    · rw [eq, eq']
    · rw [eq, eq']
      exact congrArg _ (ScopeError.fallbackError_congr same _ _ _ _).symm

/-- Alike chains give the same client. -/
lemma client_congr (capability : String) :
    { r with chain := c }.client capability = r.client capability := by
  simp only [client, builder_congr alike, withTransport, link, fallback_congr alike, alike.find?]

end Resolution

namespace Contexts

variable {κ : Type} [DecidableEq κ] {β : κ → Type} (cs : Contexts β) (t : Table (Scope β))

/-- The contexts with other scopes. -/
def withScopes : Contexts β := { cs with scopes := t }

/-- What is added does not depend on scopes. -/
lemma addAll_withScopes (additions : List (String × Configuration β)) :
    (cs.withScopes t).addAll additions =
      (cs.addAll additions).withScopes ((cs.withScopes t).addAll additions).scopes := by
  induction additions generalizing cs t with
  | nil => rfl
  | cons a additions ih =>
    obtain ⟨scopes, eq⟩ := cs.addConfiguration_eq a.1 a.2
    obtain ⟨scopes', eq'⟩ := (cs.withScopes t).addConfiguration_eq a.1 a.2
    have first : (cs.withScopes t).addConfiguration a.1 a.2 =
        (cs.addConfiguration a.1 a.2).withScopes scopes' := by
      rw [eq, eq']
      rfl
    have rest := ih (cs.addConfiguration a.1 a.2) scopes'
    rw [← first] at rest
    exact rest

/-- To take a scope into use changes nothing but scopes. -/
lemma taking_withScopes (use : Option String) :
    (cs.withScopes t).taking use =
      (cs.taking use).withScopes ((cs.withScopes t).taking use).scopes := by
  obtain ⟨scopes, eq⟩ := cs.taking_eq use
  obtain ⟨scopes', eq'⟩ := (cs.withScopes t).taking_eq use
  rw [eq, eq']
  rfl

/-- Scopes that are there in both contexts stay alike under the same registrations. -/
lemma rel_map_registerAll {s s' : Option (Scope β)} (rel : Option.Rel Scope.Alike s s')
    (es : List (Entry β)) :
    Option.Rel Scope.Alike (s.map (·.registerAll es)) (s'.map (·.registerAll es)) := by
  cases rel with
  | none => exact .none
  | some alike => exact .some (alike.registerAll es)

end Contexts

namespace Factory

variable {τ : Type} (f : Factory (Configuration Kind.Value) τ) (t : Table (Scope Kind.Value))

/-- The factory with other scopes. -/
def withScopes : Factory (Configuration Kind.Value) τ :=
  { f with contexts := f.contexts.withScopes t }

/-- The scopes of a context look alike in a factory and in the one with other scopes. -/
def LooksAlike (id : String) : Prop :=
  (f.contexts.scopeOf id).Alike ((f.withScopes t).contexts.scopeOf id)

/-- Results with the same value, after which the same clients are kept. -/
structure Result.Same {α : Type} (r r' : Result α (Configuration Kind.Value) τ) : Prop where
  value : r.value = r'.value
  clients : r.factory.clients = r'.factory.clients
  made : r.factory.made = r'.factory.made

variable {f t}

/-- The resolution of a descriptor is made with an alike chain. -/
lemma LooksAlike.chain {id : String} (alike : f.LooksAlike t id) :
    (f.contexts.chain id).Alike ((f.withScopes t).contexts.chain id) := by
  rw [Contexts.chain_eq, Contexts.chain_eq]
  exact ⟨alike, rfl⟩

/-- And with nothing else that is different. -/
lemma resolution_withScopes (d : Descriptor) : (f.withScopes t).resolution d =
    { f.resolution d with chain := (f.withScopes t).contexts.chain d.contextId } := by
  rw [resolution_eq, resolution_eq]
  rfl

/-- Transports are made at the same place. -/
lemma LooksAlike.origin {id : String} (alike : f.LooksAlike t id) :
    (f.withScopes t).origin id = f.origin id := by
  rw [origin_eq, origin_eq, ← Scope.Alike.findLocal? alike]
  rfl

variable [Capability τ]

/-- A client whose scope looks alike has the same configuration. -/
lemma resolve_withScopes (reach : f.Reachable) {id : String}
    (look : ∀ u, f.takes? (.resolve id) = some u → f.LooksAlike t u) :
    ((f.withScopes t).resolve id).value = (f.resolve id).value := by
  have same : (f.withScopes t).descriptor? id = f.descriptor? id := rfl
  unfold resolve
  rw [same]
  cases found : f.descriptor? id with
  | none => rfl
  | some d =>
    have alike : f.LooksAlike t d.contextId := by
      rw [reach.contextId_eq found]
      exact look id (by simp [takes?, found])
    have builder := Resolution.builder_congr (r := f.resolution d) alike.chain
    rw [← resolution_withScopes] at builder
    exact congrArg (Except.map Builder.effective) builder

/-- And it is made in the same way. -/
lemma create_withScopes (reach : f.Reachable) {capability : τ} {id : String}
    (look : ∀ u, f.createTakes? (Capability.name capability) id = some u → f.LooksAlike t u) :
    ((f.withScopes t).create capability id).Same (f.create capability id) := by
  have same : (f.withScopes t).descriptor? id = f.descriptor? id := rfl
  unfold create
  rw [same]
  cases found : f.descriptor? id with
  | none => exact ⟨rfl, rfl, rfl⟩
  | some d =>
    dsimp only
    by_cases fits : d.clientType.name = Capability.name capability
    · have alike : f.LooksAlike t d.contextId := by
        rw [reach.contextId_eq found]
        exact look id (by simp [createTakes?, found, fits])
      have client : ((f.withScopes t).resolution d).client (Capability.name capability) =
          (f.resolution d).client (Capability.name capability) := by
        rw [resolution_withScopes]
        exact Resolution.client_congr (r := f.resolution d) alike.chain _
      have origin : (f.withScopes t).origin id = f.origin id :=
        LooksAlike.origin (reach.contextId_eq found ▸ alike)
      rw [if_pos fits, if_pos fits, client, origin]
      cases (f.resolution d).client (Capability.name capability) <;> exact ⟨rfl, rfl, rfl⟩
    · rw [if_neg fits, if_neg fits]
      exact ⟨rfl, rfl, rfl⟩

/-- And it is looked up in the same way. -/
lemma get_withScopes (reach : f.Reachable) {capability : τ} {id : String}
    (look : ∀ u, f.getTakes? (Capability.name capability) id = some u → f.LooksAlike t u) :
    ((f.withScopes t).get capability id).Same (f.get capability id) := by
  have same : (f.withScopes t).clients.get? id = f.clients.get? id := rfl
  unfold get
  rw [same]
  unfold getTakes? at look
  cases kept : f.clients.get? id with
  | some c => exact ⟨rfl, rfl, rfl⟩
  | none =>
    rw [kept] at look
    have created := create_withScopes reach look
    dsimp only
    rw [created.value]
    cases (f.create capability id).value with
    | error e => exact created
    | ok c => exact ⟨rfl, congrArg (Table.put id ⟨capability, c⟩) created.clients, created.made⟩

/-- Each operation is answered alike, and the same clients are kept. -/
lemma answer_withScopes (reach : f.Reachable) (op : Operation (Configuration Kind.Value) τ)
    (look : ∀ u, f.takes? op = some u → f.LooksAlike t u) :
    ((f.withScopes t).step op).1 = (f.step op).1 ∧
      ((f.withScopes t).step op).2.clients = (f.step op).2.clients ∧
      ((f.withScopes t).step op).2.made = (f.step op).2.made := by
  cases op with
  | register d =>
    have same : d.describe (f.withScopes t).placeholders = d.describe f.placeholders := rfl
    simp only [step, register, same]
    cases d.describe f.placeholders <;> exact ⟨rfl, rfl, rfl⟩
  | registerDefault name c => exact ⟨rfl, rfl, rfl⟩
  | resolve id =>
    refine ⟨congrArg Reply.resolved (resolve_withScopes reach look), ?_, ?_⟩
    · simp only [step, resolve_factory]
      rfl
    · simp only [step, resolve_factory]
      rfl
  | create capability id =>
    have same := create_withScopes reach look
    exact ⟨congrArg Reply.client same.value, same.clients, same.made⟩
  | get capability id =>
    have same := get_withScopes reach look
    exact ⟨congrArg Reply.client same.value, same.clients, same.made⟩
  | getQualified capability q =>
    have known : (f.withScopes t).qualified? q = f.qualified? q := rfl
    simp only [takes?] at look
    simp only [step, getQualified, known]
    cases found : f.qualified? q with
    | none => exact ⟨rfl, rfl, rfl⟩
    | some d =>
      rw [found] at look
      have same := get_withScopes reach look
      exact ⟨congrArg Reply.client same.value, same.clients, same.made⟩
  | getPrimary capability =>
    have known : (f.withScopes t).primary? (Capability.name capability) =
        f.primary? (Capability.name capability) := rfl
    simp only [takes?] at look
    simp only [step, getPrimary, known]
    cases found : f.primary? (Capability.name capability) with
    | none => exact ⟨rfl, rfl, rfl⟩
    | some d =>
      rw [found] at look
      have same := get_withScopes reach look
      exact ⟨congrArg Reply.client same.value, same.clients, same.made⟩

attribute [ext] Factory

/-- A step of a factory with other scopes: the answer is the same, and scopes that were alike, or
are taken into use and looked alike, are alike afterwards. -/
lemma step_withScopes (reach : f.Reachable) {op : Operation (Configuration Kind.Value) τ}
    (new : f.RegistersNew op)
    (look : ∀ u, f.takes? op = some u → f.LooksAlike t u) :
    ∃ t', (f.withScopes t).step op = ((f.step op).1, (f.step op).2.withScopes t') ∧
      ∀ id, Option.Rel Scope.Alike (f.contexts.scopes.get? id) (t.get? id) ∨
          f.takes? op = some id →
        Option.Rel Scope.Alike ((f.step op).2.contexts.scopes.get? id) (t'.get? id) := by
  obtain ⟨value, clients, made⟩ := answer_withScopes reach op look
  have contexts := contexts_step new
  have contexts' : ((f.withScopes t).step op).2.contexts =
      (((f.contexts.withScopes t).addAll (op.additions f.placeholders)).taking (f.takes? op)) :=
    contexts_step (f := f.withScopes t) new
  have properties : ((f.withScopes t).step op).2.properties = (f.step op).2.properties := by
    rw [properties_step, properties_step]
    rfl
  have placeholders : ((f.withScopes t).step op).2.placeholders = (f.step op).2.placeholders := by
    rw [placeholders_step, placeholders_step]
    rfl
  have descriptors : ((f.withScopes t).step op).2.descriptors = (f.step op).2.descriptors := by
    rw [descriptors_step, descriptors_step]
    rfl
  refine ⟨((f.withScopes t).step op).2.contexts.scopes, Prod.ext value ?_, ?_⟩
  · refine Factory.ext ?_ properties placeholders descriptors clients made
    show ((f.withScopes t).step op).2.contexts = (f.step op).2.contexts.withScopes _
    rw [contexts, contexts', Contexts.addAll_withScopes]
    exact Contexts.taking_withScopes _ _ _
  · intro id alike
    rw [contexts, contexts', Contexts.get?_scopes_taking, Contexts.get?_scopes_taking]
    -- the scope that is taken into use may be new in one of the factories
    by_cases used : f.takes? op = some id
    · have nothing : op.additions f.placeholders = [] := additions_of_takes? used
      rw [if_pos used, if_pos used, nothing]
      exact .some (look id used)
    · rw [if_neg used, if_neg used, Contexts.get?_scopes_addAll, Contexts.get?_scopes_addAll]
      exact Contexts.rel_map_registerAll (alike.resolve_right used) _

end Factory
end ServiceClient
