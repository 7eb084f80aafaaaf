import ServiceClient.Call.Session
import ServiceClient.Proofs.Factory.Cache
import ServiceClient.Proofs.Factory.Isolation

/-!
# Where requests go

A client hands the requests of all its calls to the outermost layer of its transport. A client with
a fixed address is to go around all load balancers, and so it does when its transport comes from the
scopes. `create_routed_iff` tells this from what happens to a transport that a customizer set.
-/

namespace ServiceClient

namespace Transport

/-- The endpoint inside all load balancers. -/
def innermost : Transport → Endpoint
  | direct e => e
  | balanced _ _ d => d.innermost

/-- Without its load balancers a transport is direct. -/
lemma unwrapped_eq (t : Transport) : t.unwrapped = .direct t.innermost := by
  induction t with
  | direct e => rfl
  | balanced kind e d ih => exact ih

/-- A direct transport is not changed by this. -/
lemma isDirect_iff {t : Transport} : t.isDirect = true ↔ t = .direct t.innermost := by
  cases t with
  | direct e => exact ⟨fun _ => rfl, fun _ => rfl⟩
  | balanced kind e d =>
    constructor
    · intro direct
      cases direct
    · intro eq
      cases eq

end Transport

/-- Requests to an endpoint count for this endpoint only. -/
lemma Network.count_advance (net : Network) (o o' : Origin) (e e' : Endpoint) (n : Nat) :
    (net.advance o e n).count o' e' =
      net.count o' e' + if (e'.id, o') = (e.id, o) then n else 0 := by
  rw [count, advance, List.lookup_cons]
  by_cases here : (e'.id, o') = (e.id, o)
  · have same : net.count o' e' = net.count o e := by rw [count, here, count]
    rw [if_pos here, beq_iff_eq.2 here, same]
    rfl
  · have others := Table.lookup_filter (· != (e.id, o)) net.given (e'.id, o')
    rw [if_pos (by simpa using here)] at others
    rw [if_neg here, beq_eq_false_iff_ne.2 here]
    exact congrArg (·.getD 0) others

namespace Client

/-- All requests of all calls are handed to one endpoint, and nothing to any other. -/
def GoesTo (c : Client) (e : Endpoint) : Prop :=
  ∀ network origin withFallback key t shape,
    let s := c.run network origin withFallback key t shape
    s.deliveries.map (·.request) = s.outcome.exchange.requests ∧
      (∀ x ∈ s.deliveries, x.endpoint = e) ∧
      ∀ o e', s.network.count o e' =
        network.count o e' + if (e'.id, o) = (e.id, origin) then s.deliveries.length else 0

/-- A client has a transport, and hands its requests to the outermost layer of it. -/
structure Uses (c : Client) (t : Transport) : Prop where
  transport : c.handler.transport = t
  goesTo : c.GoesTo t.entry

/-- Every client uses the transport that it has. -/
lemma uses_iff {c : Client} {t : Transport} : c.Uses t ↔ c.handler.transport = t := by
  constructor
  · exact Uses.transport
  · rintro rfl
    refine ⟨rfl, fun network origin withFallback key t shape => ⟨?_, ?_, fun o e' => ?_⟩⟩
    · simp only [run, Handler.deliveries, List.map_map]
      exact List.map_id _
    · intro x mem
      obtain ⟨r, -, rfl⟩ := List.mem_map.1 mem
      rfl
    · simp only [run, Handler.deliveries, List.length_map]
      exact network.count_advance _ _ _ _ _

/-- A client goes where its descriptor tells: with a fixed address straight to the endpoint inside
all load balancers, and else to the outermost layer. -/
structure Routed (d : Descriptor) (t : Transport) (c : Client) : Prop where
  fixed : ∀ url, d.url = some url → c.Uses (.direct t.innermost)
  balanced : d.url = none → c.Uses t

end Client

namespace Resolution
open Builder (Aspect)

variable (r : Resolution)

/-- The transport that customizers set, the last one counting. -/
def customTransport? : Option (Component Transport) :=
  (Aspect.transport.last r.customSettings).getD none

/-- The transport of a client, as it comes from its scopes or else from its customizers. -/
def supplied? : Option (Component Transport) :=
  (r.chain.find? .transport).or r.customTransport?

variable {r} {capability : String}

/-- The transport of the scopes is used as the descriptor tells, and that of a customizer as it
is. -/
lemma withTransport_transport {b b' : Builder} (made : r.builder = .ok b)
    (eq : r.withTransport b = .ok b') : ∃ t, r.supplied? = some t ∧
      b'.transport = some (if r.chain.Holds .transport then r.descriptor.route t else t) := by
  unfold withTransport at eq
  cases found : r.chain.find? .transport with
  | some t =>
    have holds : r.chain.Holds .transport := Chain.find?_isSome.1 (Option.isSome_of_eq_some found)
    rw [found] at eq
    cases eq
    refine ⟨t, ?_, ?_⟩
    · rw [supplied?, found, Option.some_or]
    · rw [if_pos holds]
      rfl
  | none =>
    have nowhere : ¬r.chain.Holds .transport := by
      rw [← Chain.find?_isSome, found]
      exact Bool.false_ne_true
    have custom : b.transport = r.customTransport? := transport_builder made
    rw [found] at eq
    cases there : b.transport with
    | none =>
      simp only [there] at eq
      cases eq
    | some t =>
      simp only [there] at eq
      cases eq
      refine ⟨t, ?_, ?_⟩
      · rw [supplied?, found, Option.none_or, ← custom, there]
      · rw [if_neg nowhere, there]

/-- The client is made over this transport. -/
lemma transport_client {c : Client} (eq : r.client capability = .ok c) :
    ∃ t, r.supplied? = some t ∧ c.handler.transport =
      (if r.chain.Holds .transport then r.descriptor.route t else t).value := by
  obtain ⟨b, made, eq⟩ := bind_ok eq
  obtain ⟨b', connected, eq⟩ := bind_ok eq
  obtain ⟨t, supplied, there⟩ := withTransport_transport made connected
  obtain ⟨setterFactory, law⟩ := link_eq r capability there
  refine ⟨t, supplied, ?_⟩
  rw [law] at eq
  split at eq
  · obtain ⟨x, -, rfl⟩ := map_ok eq
    rfl
  · cases eq
    rfl

/-- A client goes where its descriptor tells unless a customizer set a transport with load balancers
for it although its address is fixed; then it uses this transport as it is. -/
lemma client_routed {c : Client} (eq : r.client capability = .ok c) :
    ∃ t, r.supplied? = some t ∧
      (c.Routed r.descriptor t.value ↔
        r.descriptor.url = none ∨ r.chain.Holds .transport ∨ t.value.isDirect = true) ∧
      (¬c.Routed r.descriptor t.value → c.Uses t.value) := by
  obtain ⟨t, supplied, transport⟩ := transport_client eq
  refine ⟨t, supplied, ?_⟩
  cases fixed : r.descriptor.url with
  | none =>
    have whole : c.Uses t.value := by
      rw [Client.uses_iff, transport, Descriptor.route, fixed, ite_self]
    have routed : c.Routed r.descriptor t.value := by
      refine ⟨fun url eq => ?_, fun _ => whole⟩
      cases fixed.symm.trans eq
    exact ⟨⟨fun _ => .inl rfl, fun _ => routed⟩, fun _ => whole⟩
  | some url =>
    have routed_iff : c.Routed r.descriptor t.value ↔
        c.handler.transport = .direct t.value.innermost := by
      rw [← Client.uses_iff]
      constructor
      · exact fun routed => routed.fixed url fixed
      · refine fun direct => ⟨fun _ _ => direct, fun eq => ?_⟩
        cases fixed.symm.trans eq
    by_cases holds : r.chain.Holds .transport
    · have routed : c.Routed r.descriptor t.value := by
        rw [routed_iff, transport, if_pos holds, Descriptor.route, fixed]
        exact t.value.unwrapped_eq
      exact ⟨⟨fun _ => .inr (.inl holds), fun _ => routed⟩, fun apart => absurd routed apart⟩
    · rw [if_neg holds] at transport
      refine ⟨?_, fun _ => Client.uses_iff.2 transport⟩
      rw [routed_iff, transport, ← Transport.isDirect_iff]
      constructor
      · exact fun direct => .inr (.inr direct)
      · rintro (free | found | direct)
        · cases free
        · exact absurd found holds
        · exact direct

end Resolution

namespace Factory

variable {τ : Type} [Capability τ] {f : Factory (Configuration Kind.Value) τ} {capability : τ}
  {id : String}

/-- Each client that is made has a transport from its scopes or from a customizer. It goes where its
descriptor tells exactly when its address is not fixed, or the transport is from the scopes, or there
is no load balancer around it. Otherwise it uses the transport as it is, so that all its requests go
to the outermost load balancer. -/
theorem create_routed_iff {m : MadeClient} (created : (f.create capability id).value = .ok m) :
    ∃ d t, f.descriptor? id = some d ∧ (f.resolution d).supplied? = some t ∧
      (m.client.Routed d t.value ↔ d.url = none ∨
        (f.resolution d).chain.Holds .transport ∨ t.value.isDirect = true) ∧
      (¬m.client.Routed d t.value → m.client.Uses t.value) := by
  obtain ⟨d, registered, fits, -⟩ := create_ok created
  rw [create_value registered fits] at created
  obtain ⟨c, made, rfl⟩ := map_ok created
  obtain ⟨t, supplied, law, whole⟩ := Resolution.client_routed made
  exact ⟨d, t, registered, supplied, law, whole⟩

/-- A load balancer around another one. -/
def twiceBalanced : Transport :=
  .balanced .blocking ⟨2, "outer"⟩ (.balanced .legacy ⟨1, "inner"⟩ (.direct ⟨0, "direct"⟩))

/-- A client with a fixed address, which may bring a transport of its own or set one at the end. -/
def fixedClient (own set : Option Transport) : Declaration where
  clientType := ⟨"UsersClient", .interface⟩
  name := some "users"
  url := some "http://backend:8080"
  configurations := own.toList.map fun t => [Kind.entry .transport "own" t]
  customizers := set.toList.map fun t => ⟨fun _ => [.transport ⟨"set", t, 0⟩]⟩

/-- A transport from the own scope wins over one that is set, and the client goes around both of its
load balancers. -/
theorem create_fixedClient :
    let f := (plain.register (fixedClient (some twiceBalanced) (some (.direct ⟨3, "set"⟩)))).factory
    ∃ m, (f.create "UsersClient" "users").value = .ok m ∧
      m.client.Uses (.direct ⟨0, "direct"⟩) := by
  intro f
  have made : (f.create "UsersClient" "users").value.map (·.serial) = .ok 0 := by decide +kernel
  have known : (f.descriptor? "users").map (fun d => (d.contextId, d.url)) =
      some ("users", some "http://backend:8080") := by decide +kernel
  have found : ((f.contexts.chain "users").find? .transport).map (·.value) =
      some twiceBalanced := by decide +kernel
  obtain ⟨m, created, -⟩ := map_ok made
  obtain ⟨d, t, registered, supplied, routed_iff, -⟩ := create_routed_iff created
  obtain ⟨d', registered', eq⟩ := Option.map_eq_some_iff.1 known
  cases registered.symm.trans registered'
  obtain ⟨own, fixed⟩ := Prod.mk.inj eq
  have chain : (f.resolution d).chain = f.contexts.chain "users" := congrArg f.contexts.chain own
  obtain ⟨t', found, value⟩ := Option.map_eq_some_iff.1 found
  have holds : (f.resolution d).chain.Holds .transport := by
    rw [chain, ← Chain.find?_isSome, found]
    rfl
  have same : t' = t := by
    rw [Resolution.supplied?, chain, found] at supplied
    exact Option.some.inj supplied
  have uses := (routed_iff.2 (.inr (.inl holds))).fixed _ fixed
  rw [← same, value] at uses
  exact ⟨m, created, uses⟩

/-- A client whose transport is set by a customizer calls its outermost load balancer, although its
address is fixed. -/
theorem not_create_routed :
    ¬ ∀ (f : Factory) capability id m d t, f.Reachable → (f.create capability id).value = .ok m →
      f.descriptor? id = some d → (f.resolution d).supplied? = some t →
      m.client.Routed d t.value := by
  intro routed
  let f := (plain.register (fixedClient none (some twiceBalanced))).factory
  have reach : f.Reachable := (Reachable.new _ _ _).step (.register _)
  have called : (f.create "UsersClient" "users").value.map (fun m =>
      (m.client.run {} .shared false "ping" { path := "/ping" } some).deliveries.map
        (·.endpoint.label)) = .ok ["outer"] := by decide +kernel
  have known : (f.descriptor? "users").map (fun d => (d.url, (f.resolution d).supplied?.map
      (·.value))) = some (some "http://backend:8080", some twiceBalanced) := by decide +kernel
  obtain ⟨m, created, labels⟩ := map_ok called
  obtain ⟨d, registered, eq⟩ := Option.map_eq_some_iff.1 known
  obtain ⟨fixed, eq⟩ := Prod.mk.inj eq
  obtain ⟨t, supplied, value⟩ := Option.map_eq_some_iff.1 eq
  have uses := (routed f _ _ m d t reach created registered supplied).fixed _ fixed
  rw [value] at uses
  obtain ⟨-, handed, -⟩ := uses.goesTo {} .shared false "ping" { path := "/ping" } some
  -- the request was handed to the outer load balancer, and not to the direct transport inside
  have mem : "outer" ∈ (m.client.run {} .shared false "ping" { path := "/ping" }
      some).deliveries.map (·.endpoint.label) := by
    rw [labels]
    exact List.mem_singleton_self _
  obtain ⟨x, mem, label⟩ := List.mem_map.1 mem
  rw [handed x mem] at label
  revert label
  decide

end Factory
end ServiceClient
