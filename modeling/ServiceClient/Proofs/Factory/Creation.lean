import ServiceClient.Proofs.Factory.Precedence
import ServiceClient.Proofs.Factory.Run

/-!
# When a client is made

A client needs a descriptor of its capability, a configuration, a transport and, when commands and
fallbacks are wired, the fallback that it declares. `Makeable` puts these conditions together, and
`Refused` gives the error of the first one that fails, one rule for each. `create_makeable` says
that nothing else counts.
-/

namespace ServiceClient

/-- The way in which a fallback is declared, and the type by whose name it is looked up. -/
def FallbackSpec.declared? : FallbackSpec → Option (FallbackMechanism × TypeRef)
  | none => Option.none
  | delegate t => some (.fallback, t)
  | factory t => some (.fallbackFactory, t)

/-- The kind of the components that stand in for a capability. -/
def FallbackMechanism.kind (capability : String) : FallbackMechanism → Kind
  | fallback => .delegate capability
  | fallbackFactory => .fallbackFactory capability

/-- A fallback is said to be incompatible when its name is known under another kind. -/
lemma ScopeError.fallbackError_eq {κ : Type} (e : ScopeError κ) (m : FallbackMechanism)
    (t capability id : String) : e.fallbackError m t capability id =
      if e.isMismatch then .incompatibleFallback m t capability id
      else .missingFallback m t id := by
  cases e <;> rfl

namespace Resolution
open Builder (Aspect)

variable (r : Resolution)

/-- A transport is there: the scopes hold one, or a customizer sets one. -/
def Connected : Prop :=
  r.chain.Holds .transport ∨ ∃ t, Setting.transport t ∈ r.customSettings

/-- The fallback is there, if one is declared. -/
def Backed (capability : String) : Prop :=
  ∀ m t, r.descriptor.fallback.declared? = some (m, t) →
    r.chain.HoldsNamed (m.kind capability) t.name

/-- Why the fallback that is declared is not there. -/
inductive Unbacked (capability : String) : FactoryError → Prop where
  | incompatible {m t} :
    r.descriptor.fallback.declared? = some (m, t) →
    ¬r.chain.HoldsNamed (m.kind capability) t.name →
    r.chain.Knows t.name →
    Unbacked capability (.incompatibleFallback m t.name capability r.descriptor.contextId)
  | missing {m t} :
    r.descriptor.fallback.declared? = some (m, t) →
    ¬r.chain.HoldsNamed (m.kind capability) t.name →
    ¬r.chain.Knows t.name →
    Unbacked capability (.missingFallback m t.name r.descriptor.contextId)

variable {r} {capability : String}

/-- A part of which neither entries nor declarations tell is as customizers set it last, or as it
was in the beginning. -/
lemma get_builder_of_quiet {α : Type} (F : Aspect α) {b : Builder} {v : α}
    (entries : ∀ e, F.last (r.toldBy e) = none)
    (declared : ∀ inherit, F.last (r.declaredSettings inherit) = none)
    (builtin : ∀ base, r.base = .ok base → F.get base = v) (eq : r.builder = .ok b) :
    F.get b = (F.last r.customSettings).getD v := by
  obtain ⟨base, baseOk, rfl⟩ := builder_eq eq
  have told : F.last (r.entries.flatMap r.toldBy) = none := by
    simp [last_entries, entries]
  have quiet : F.last r.uncustomized = none := by
    unfold uncustomized
    split
    · split <;> simp [told, declared]
    · exact declared false
  rw [F.get_setAll, Aspect.last_append, quiet, Option.or_none, builtin base baseOk]

/-- A setting that tells of the transport sets one. -/
lemma told_transport {s : Setting} {o : Option (Component Transport)}
    (eq : Aspect.transport.told s = some o) : ∃ t, s = .transport t ∧ o = some t := by
  cases s with
  | transport t =>
    cases eq
    exact ⟨t, rfl, rfl⟩
  | _ => cases eq

/-- A builder has the transport that a customizer set last. -/
lemma transport_builder {b : Builder} (eq : r.builder = .ok b) :
    b.transport = (Aspect.transport.last r.customSettings).getD none := by
  refine get_builder_of_quiet Aspect.transport (fun e => ?_) (fun inherit => ?_)
    (fun base baseOk => ?_) eq
  · simp [last_toldBy, Aspect.transport]
  · simp [declaredSettings, Aspect.transport, Option.bind_map]
  · obtain ⟨_, _, _, _, -, -, -, -, rfl⟩ := base_ok baseOk
    rfl

/-- It has one exactly when a customizer sets one. -/
lemma isSome_transport {b : Builder} (eq : r.builder = .ok b) :
    b.transport.isSome ↔ ∃ t, Setting.transport t ∈ r.customSettings := by
  rw [transport_builder eq]
  constructor
  · intro there
    cases told : Aspect.transport.last r.customSettings with
    | none =>
      rw [told] at there
      cases there
    | some o =>
      obtain ⟨s, mem, told⟩ := List.exists_of_findSome?_eq_some told
      obtain ⟨t, rfl, -⟩ := told_transport told
      exact ⟨t, List.mem_reverse.1 mem⟩
  · rintro ⟨t, mem⟩
    have told := (Aspect.transport.last_isSome _).2 ⟨_, mem, rfl⟩
    obtain ⟨o, told⟩ := Option.isSome_iff_exists.1 told
    obtain ⟨s, -, here⟩ := List.exists_of_findSome?_eq_some told
    obtain ⟨t, -, rfl⟩ := told_transport here
    rw [told]
    rfl

/-- A builder that goes on has a transport, and is the same in everything else. -/
lemma withTransport_ok {b b' : Builder} (eq : r.withTransport b = .ok b') :
    ∃ t, b' = { b with transport := some t } := by
  unfold withTransport at eq
  split at eq
  next t found =>
    cases eq
    exact ⟨_, rfl⟩
  next =>
    split at eq
    next there =>
      cases eq
      obtain ⟨t, eq⟩ := Option.isSome_iff_exists.1 there
      exact ⟨t, by rw [← eq]⟩
    next => cases eq

/-- It does not go on without a transport. -/
lemma withTransport_error_iff {b : Builder} (made : r.builder = .ok b) {e : FactoryError} :
    r.withTransport b = .error e ↔
      ¬r.Connected ∧ e = .missingComponent "TransportClient" r.descriptor.contextId := by
  unfold withTransport Connected
  rw [← Chain.find?_isSome, ← isSome_transport made]
  cases r.chain.find? .transport <;> cases b.transport <;> simp [eq_comm]

/-- A fallback is looked up by the name of its type, as a component of its kind. -/
lemma fallback_of_declared {m : FallbackMechanism} {t : TypeRef}
    (declared : r.descriptor.fallback.declared? = some (m, t)) :
    (∀ c, r.chain.findNamed (m.kind capability) t.name = .ok c →
      ∃ x, r.fallback capability = .ok x) ∧
    ∀ e, r.chain.findNamed (m.kind capability) t.name = .error e →
      r.fallback capability =
        .error (e.fallbackError m t.name capability r.descriptor.contextId) := by
  unfold fallback
  cases spec : r.descriptor.fallback with
  | none =>
    rw [spec] at declared
    cases declared
  | delegate =>
    rw [spec] at declared
    cases declared
    simp only [FallbackMechanism.kind]
    refine ⟨fun c found => ⟨.delegate c.value, ?_⟩, fun e missed => ?_⟩
    · simp only [found]
    · simp only [missed]
  | factory =>
    rw [spec] at declared
    cases declared
    simp only [FallbackMechanism.kind]
    refine ⟨fun c found => ⟨.factory c.value, ?_⟩, fun e missed => ?_⟩
    · simp only [found]
    · simp only [missed]

/-- A fallback is found when it is there. -/
lemma Backed.fallback_ok (backed : r.Backed capability) : ∃ x, r.fallback capability = .ok x := by
  cases declared : r.descriptor.fallback.declared? with
  | none =>
    unfold fallback
    cases spec : r.descriptor.fallback with
    | none => exact ⟨.none, rfl⟩
    | delegate | factory =>
      rw [spec] at declared
      cases declared
  | some p =>
    obtain ⟨m, t⟩ := p
    obtain ⟨c, found⟩ := Chain.exists_findNamed_ok.2 (backed m t declared)
    exact (fallback_of_declared declared).1 c found

/-- And it is missed for one of two reasons. -/
lemma Unbacked.fallback_error {e : FactoryError} (unbacked : r.Unbacked capability e) :
    r.fallback capability = .error e := by
  have missed {m : FallbackMechanism} {t : TypeRef}
      (nowhere : ¬r.chain.HoldsNamed (m.kind capability) t.name) :
      ∃ e, r.chain.findNamed (m.kind capability) t.name = .error e := by
    rw [← Chain.exists_findNamed_ok] at nowhere
    cases found : r.chain.findNamed (m.kind capability) t.name with
    | ok c => exact absurd ⟨c, found⟩ nowhere
    | error e => exact ⟨e, rfl⟩
  cases unbacked with
  | incompatible declared nowhere known =>
    obtain ⟨e, found⟩ := missed nowhere
    rw [(fallback_of_declared declared).2 e found, ScopeError.fallbackError_eq,
      if_pos ((Chain.isMismatch_of_findNamed found).2 known)]
  | missing declared nowhere unknown =>
    obtain ⟨e, found⟩ := missed nowhere
    rw [(fallback_of_declared declared).2 e found, ScopeError.fallbackError_eq,
      if_neg fun known => unknown ((Chain.isMismatch_of_findNamed found).1 known)]

variable (r capability) in
/-- There is no third case. -/
lemma backed_or_unbacked : r.Backed capability ∨ ∃ e, r.Unbacked capability e := by
  by_contra neither
  rw [not_or] at neither
  obtain ⟨lacking, unrefused⟩ := neither
  refine lacking fun m t declared => ?_
  by_contra nowhere
  by_cases known : r.chain.Knows t.name
  · exact unrefused ⟨_, .incompatible declared nowhere known⟩
  · exact unrefused ⟨_, .missing declared nowhere known⟩

variable (r capability) in
/-- A builder with a transport gives a client as soon as its fallback is found. Only clients with
commands and fallbacks ask for one. -/
lemma link_eq {b : Builder} {t : Component Transport} (there : b.transport = some t) :
    ∃ setterFactory, r.link capability b =
      if b.template = .faultTolerant then
        (r.fallback capability).map fun x =>
          ⟨r.descriptor.target, { b.handler t.value with setterFactory }, x⟩
      else .ok ⟨r.descriptor.target, b.handler t.value, .none⟩ := by
  unfold link Builder.supportsFallback
  by_cases tolerant : b.template = .faultTolerant
  · rw [if_pos (beq_iff_eq.2 tolerant)]
    simp only [if_pos tolerant]
    cases r.chain.find? .setterFactory with
    | none =>
      refine ⟨b.setterFactory.map (·.value), ?_⟩
      cases r.fallback capability with
      | error e => rfl
      | ok x => simp only [Builder.build, there, Except.map, Builder.handler]
    | some c =>
      refine ⟨some c.value, ?_⟩
      cases r.fallback capability with
      | error e => rfl
      | ok x => simp only [Builder.build, Builder.set, there, Except.map, Builder.handler,
          Builder.interceptors, Option.map_some]
  · rw [if_neg (fun eq => tolerant (beq_iff_eq.1 eq))]
    simp only [if_neg tolerant, Builder.build, there]
    exact ⟨none, trivial⟩

variable (capability) in
/-- A client that is connected is linked over some transport. -/
lemma client_eq {b : Builder} (made : r.builder = .ok b) (connected : r.Connected) :
    ∃ transport setterFactory, r.client capability =
      if b.template = .faultTolerant then
        (r.fallback capability).map fun x =>
          ⟨r.descriptor.target, { b.handler transport with setterFactory }, x⟩
      else .ok ⟨r.descriptor.target, b.handler transport, .none⟩ := by
  cases found : r.withTransport b with
  | error e => exact absurd connected ((withTransport_error_iff made).1 found).1
  | ok b' =>
    obtain ⟨t, rfl⟩ := withTransport_ok found
    obtain ⟨setterFactory, eq⟩ := link_eq r capability (b := { b with transport := some t }) rfl
    refine ⟨t.value, setterFactory, ?_⟩
    simp only [client, made, found, Bind.bind, Except.bind, eq]
    rfl

/-- A client that is not connected is not made. -/
lemma client_of_not_connected {b : Builder} (made : r.builder = .ok b)
    (apart : ¬r.Connected) : r.client capability =
      .error (.missingComponent "TransportClient" r.descriptor.contextId) := by
  have stops := (withTransport_error_iff made).2 ⟨apart, rfl⟩
  simp only [client, made, stops, Bind.bind, Except.bind]

/-- A client is made of its configuration: it has the target of its descriptor, and the handler of
its builder but for what is wired at the end. -/
lemma client_ok {c : Client} (eq : r.client capability = .ok c) :
    ∃ b transport setterFactory, r.builder = .ok b ∧ c.target = r.descriptor.target ∧
      c.handler = { b.handler transport with setterFactory } := by
  cases made : r.builder with
  | error e =>
    simp only [client, made, Bind.bind, Except.bind] at eq
    cases eq
  | ok b =>
    by_cases connected : r.Connected
    · obtain ⟨transport, setterFactory, law⟩ := client_eq capability made connected
      rw [law] at eq
      split at eq
      · obtain ⟨x, -, rfl⟩ := map_ok eq
        exact ⟨b, transport, setterFactory, rfl, rfl, rfl⟩
      · cases eq
        exact ⟨b, transport, _, rfl, rfl, rfl⟩
    · rw [client_of_not_connected made connected] at eq
      cases eq

end Resolution

namespace Factory

section

variable {τ : Type} (f : Factory (Configuration Kind.Value) τ)

/-- All that a client needs: a descriptor of the capability, a configuration, a transport, and the
fallback that it declares if it is of the kind of clients that have one. -/
structure Makeable (capability id : String) (d : Descriptor)
    (e : EffectiveConfiguration) : Prop where
  registered : f.descriptor? id = some d
  fits : d.clientType.name = capability
  resolved : (f.resolve id).value = .ok e
  connected : (f.resolution d).Connected
  backed : e.template = .faultTolerant → (f.resolution d).Backed capability

/-- Why no client is made: each rule is for one thing that is lacking when all before it are
there. -/
inductive Refused (capability id : String) : FactoryError → Prop where
  | unknown :
    f.descriptor? id = none →
    Refused capability id (.unknownClient id)
  | mismatched {d} :
    f.descriptor? id = some d →
    d.clientType.name ≠ capability →
    Refused capability id (.capabilityMismatch id d.clientType.name capability)
  | unresolved {d error} :
    f.descriptor? id = some d →
    d.clientType.name = capability →
    (f.resolve id).value = .error error →
    Refused capability id error
  | unconnected {d e} :
    f.descriptor? id = some d →
    d.clientType.name = capability →
    (f.resolve id).value = .ok e →
    ¬(f.resolution d).Connected →
    Refused capability id (.missingComponent "TransportClient" id)
  | unbacked {d e error} :
    f.descriptor? id = some d →
    d.clientType.name = capability →
    (f.resolve id).value = .ok e →
    (f.resolution d).Connected →
    e.template = .faultTolerant →
    (f.resolution d).Unbacked capability error →
    Refused capability id error

/-- Either nothing is lacking, or something is lacking first. -/
lemma makeable_or_refused (capability id : String) :
    (∃ d e, f.Makeable capability id d e) ∨ ∃ error, f.Refused capability id error := by
  cases registered : f.descriptor? id with
  | none => exact .inr ⟨_, .unknown registered⟩
  | some d =>
    by_cases fits : d.clientType.name = capability
    · cases resolved : (f.resolve id).value with
      | error error => exact .inr ⟨_, .unresolved registered fits resolved⟩
      | ok e =>
        by_cases connected : (f.resolution d).Connected
        · by_cases tolerant : e.template = .faultTolerant
          · rcases (f.resolution d).backed_or_unbacked capability with backed | ⟨error, unbacked⟩
            · exact .inl ⟨d, e, registered, fits, resolved, connected, fun _ => backed⟩
            · exact .inr ⟨error, .unbacked registered fits resolved connected tolerant unbacked⟩
          · exact .inl ⟨d, e, registered, fits, resolved, connected,
              fun eq => absurd eq tolerant⟩
        · exact .inr ⟨_, .unconnected registered fits resolved connected⟩
    · exact .inr ⟨_, .mismatched registered fits⟩

variable {f} [Capability τ] {t : τ} {id : String}

/-- What is made of a descriptor of the capability is a client of its own. -/
lemma create_value {d : Descriptor} (registered : f.descriptor? id = some d)
    (fits : d.clientType.name = Capability.name t) :
    (f.create t id).value =
      ((f.resolution d).client (Capability.name t)).map (⟨f.made, ·, f.origin id⟩) := by
  simp only [create, registered, if_pos fits]
  cases (f.resolution d).client (Capability.name t) <;> rfl

/-- A client for which nothing is lacking is made. -/
lemma Makeable.create_ok {d : Descriptor} {e : EffectiveConfiguration}
    (makeable : f.Makeable (Capability.name t) id d e) : ∃ c, (f.create t id).value = .ok c := by
  obtain ⟨registered, fits, resolved, connected, backed⟩ := makeable
  rw [resolve_value registered] at resolved
  obtain ⟨b, made, rfl⟩ := map_ok resolved
  obtain ⟨transport, setterFactory, eq⟩ :=
    Resolution.client_eq (Capability.name t) made connected
  rw [create_value registered fits, eq]
  split
  next tolerant =>
    obtain ⟨x, found⟩ := (backed tolerant).fallback_ok
    rw [found]
    exact ⟨_, rfl⟩
  next => exact ⟨_, rfl⟩

/-- What is lacking is told. -/
lemma Refused.create_error (reach : f.Reachable) {error : FactoryError}
    (refused : f.Refused (Capability.name t) id error) : (f.create t id).value = .error error := by
  cases refused with
  | unknown unknown => simp only [create, unknown]
  | mismatched registered other => simp only [create, registered, if_neg other]
  | @unresolved d error registered fits resolved =>
    rw [resolve_value registered] at resolved
    rw [create_value registered fits]
    cases made : (f.resolution d).builder with
    | ok b =>
      rw [made] at resolved
      cases resolved
    | error e =>
      rw [made] at resolved
      cases resolved
      simp only [Resolution.client, made, Bind.bind, Except.bind, Except.map]
  | @unconnected d e registered fits resolved apart =>
    rw [resolve_value registered] at resolved
    obtain ⟨b, made, rfl⟩ := map_ok resolved
    have own : (f.resolution d).descriptor.contextId = id := reach.contextId_eq registered
    rw [create_value registered fits, Resolution.client_of_not_connected made apart, own]
    rfl
  | @unbacked d e error registered fits resolved connected tolerant unbacked =>
    rw [resolve_value registered] at resolved
    obtain ⟨b, made, rfl⟩ := map_ok resolved
    obtain ⟨transport, setterFactory, eq⟩ :=
      Resolution.client_eq (Capability.name t) made connected
    rw [create_value registered fits, eq, if_pos (show b.template = .faultTolerant from tolerant),
      unbacked.fallback_error]
    rfl

/-- Nothing else is told than what is lacking. -/
lemma Reachable.refused_of_create (reach : f.Reachable) {error : FactoryError}
    (told : (f.create t id).value = .error error) : f.Refused (Capability.name t) id error := by
  rcases f.makeable_or_refused (Capability.name t) id with ⟨d, e, makeable⟩ | ⟨error', refused⟩
  · obtain ⟨c, made⟩ := makeable.create_ok
    rw [made] at told
    cases told
  · rw [refused.create_error reach] at told
    cases told
    exact refused

/-- A client is made exactly when nothing is lacking, and otherwise the first thing that is lacking
is told. Once there is a transport, only the fallback of a client that has one can be lacking; that
the builder itself lacks a transport is never told. -/
theorem create_makeable (reach : f.Reachable) (t : τ) (id : String) :
    ((∃ c, (f.create t id).value = .ok c) ↔ ∃ d e, f.Makeable (Capability.name t) id d e) ∧
      (∀ error, (f.create t id).value = .error error ↔
        f.Refused (Capability.name t) id error) ∧
      ∀ d b b' error, f.descriptor? id = some d → (f.resolution d).builder = .ok b →
        (f.resolution d).withTransport b = .ok b' →
        (f.resolution d).link (Capability.name t) b' = .error error →
        b.template = .faultTolerant ∧
          (f.resolution d).fallback (Capability.name t) = .error error := by
  refine ⟨⟨?_, ?_⟩,
    fun error => ⟨reach.refused_of_create, fun refused => refused.create_error reach⟩, ?_⟩
  · rintro ⟨c, made⟩
    rcases f.makeable_or_refused (Capability.name t) id with makeable | ⟨error, refused⟩
    · exact makeable
    · rw [refused.create_error reach] at made
      cases made
  · rintro ⟨d, e, makeable⟩
    exact makeable.create_ok
  · intro d b b' error registered made found told
    obtain ⟨transport, rfl⟩ := Resolution.withTransport_ok found
    obtain ⟨setterFactory, eq⟩ := (f.resolution d).link_eq (Capability.name t)
      (b := { b with transport := some transport }) rfl
    rw [eq] at told
    -- with a transport in it, the builder itself fails no more
    split at told
    next tolerant =>
      refine ⟨tolerant, ?_⟩
      cases missed : (f.resolution d).fallback (Capability.name t) with
      | ok x =>
        rw [missed] at told
        cases told
      | error e =>
        rw [missed] at told
        cases told
        rfl
    next => cases told

end

/-- A factory whose clients have commands and fallbacks, and one transport for all of them. -/
def tolerant : Factory where
  contexts :=
    { defaults := [defaultConfiguration .faultTolerant]
      shared := ⟨"application", [Kind.entry .transport "http" (.direct ⟨0, "direct"⟩)]⟩
      catalog := builtins }

/-- A client with a fallback by whose name its own scope knows only a text. -/
def misguardedClient : Declaration where
  clientType := ⟨"UsersClient", .interface⟩
  name := some "users"
  fallback := some ⟨"StaticUsers", .concrete⟩
  configurations := [[Kind.entry (.application "text") "StaticUsers" (.string "users")]]

/-- The fallback is the first thing that this client lacks, and it is of another kind. -/
theorem create_misguarded :
    ((tolerant.register misguardedClient).factory.create "UsersClient" "users").value =
      .error (.incompatibleFallback .fallback "StaticUsers" "UsersClient" "users") := by
  let f := (tolerant.register misguardedClient).factory
  have reach : f.Reachable := (Reachable.new _ _ _).step (.register misguardedClient)
  have known : (f.descriptor? "users").map (fun d => (d.clientType.name, d.contextId, d.fallback)) =
      some ("UsersClient", "users", .delegate ⟨"StaticUsers", .concrete⟩) := by decide +kernel
  obtain ⟨d, registered, eq⟩ := Option.map_eq_some_iff.1 known
  obtain ⟨fits, own, spec⟩ : d.clientType.name = "UsersClient" ∧ d.contextId = "users" ∧
      d.fallback = .delegate ⟨"StaticUsers", .concrete⟩ := by simpa using eq
  have configured : (f.resolve "users").value.map (·.template) = .ok .faultTolerant := by
    decide +kernel
  obtain ⟨e, resolved, tolerant⟩ := map_ok configured
  have chain : (f.resolution d).chain = f.contexts.chain "users" := congrArg f.contexts.chain own
  have connected : (f.contexts.chain "users").Holds .transport := by decide +kernel
  have nowhere : ¬(f.contexts.chain "users").HoldsNamed (.delegate "UsersClient")
      "StaticUsers" := by decide +kernel
  have elsewhere : (f.contexts.chain "users").Knows "StaticUsers" := by decide +kernel
  refine ((create_makeable reach "UsersClient" "users").2.1 _).2 ?_
  refine .unbacked registered fits resolved (.inl (chain ▸ connected)) tolerant ?_
  have declared : (f.resolution d).descriptor.fallback.declared? =
      some (.fallback, ⟨"StaticUsers", .concrete⟩) := congrArg FallbackSpec.declared? spec
  have unbacked : (f.resolution d).Unbacked "UsersClient" (.incompatibleFallback .fallback
      "StaticUsers" "UsersClient" (f.resolution d).descriptor.contextId) :=
    .incompatible declared (by rw [chain]; exact nowhere) (by rw [chain]; exact elsewhere)
  rw [show (f.resolution d).descriptor.contextId = "users" from own] at unbacked
  exact unbacked

end Factory
end ServiceClient
