import ServiceClient.Proofs.Factory.Routing

/-!
# What customizers set

Customizers come behind all other settings of a builder, so that what they set last stays in every
part that is settled with the builder (`Heeds`). The transport and the setter factory are wired
afterwards. `create_obeys_iff` tells when they are the ones that customizers set.
-/

namespace ServiceClient
open Builder (Aspect)

namespace Resolution

variable (r : Resolution)

/-- What customizers set last of a part. -/
def customized? {α : Type} (F : Aspect α) : Option α :=
  F.last r.customSettings

/-- The setter factory that customizers set, the last one counting. -/
def customSetterFactory? : Option (Component SetterFactory) :=
  (r.customized? .setterFactory).getD none

/-- The setter factory of the scopes, which only clients with commands ask for. -/
def scopeSetterFactory? : Option (Component SetterFactory) :=
  if (r.chain.find? .builderTemplate).map (·.value) = some .faultTolerant then
    r.chain.find? .setterFactory
  else none

/-- A client has what customizers set last in every part that is settled with the builder. Behind
interceptors that they set for the scope stand those that were added one by one, by customizers or
before them. -/
structure Heeds (c : Client) : Prop where
  loggerLevel : ∀ v ∈ r.customized? .loggerLevel, c.handler.loggerLevel = v
  connectTimeout : ∀ v ∈ r.customized? .connectTimeout, c.handler.options.connectTimeout = v
  readTimeout : ∀ v ∈ r.customized? .readTimeout, c.handler.options.readTimeout = v
  followRedirects : ∀ v ∈ r.customized? .followRedirects, c.handler.options.followRedirects = v
  retry : ∀ v ∈ r.customized? .retry, c.handler.retry = v.value
  decode404 : ∀ v ∈ r.customized? .decode404, c.handler.decode404 = v
  exceptionPolicy : ∀ v ∈ r.customized? .exceptionPolicy, c.handler.exceptionPolicy = v
  encoder : ∀ v ∈ r.customized? .encoder, c.handler.encoder = v.value
  decoder : ∀ v ∈ r.customized? .decoder, c.handler.decoder = v.value
  contract : ∀ v ∈ r.customized? .contract, c.handler.contract = v.value
  errorDecoder : ∀ v ∈ r.customized? .errorDecoder, c.handler.errorDecoder = v.value
  queryMapEncoder : ∀ v ∈ r.customized? .queryMapEncoder, c.handler.queryMapEncoder = v.value
  interceptors : ∀ cs ∈ r.customized? .scopeInterceptors,
    c.handler.interceptors = cs.map (·.value) ++
      ((r.uncustomized ++ r.customSettings).filterMap Builder.added?).map (·.value)

/-- A client has what customizers set last in every part: also the transport, as its descriptor
tells to use it, and the setter factory. -/
structure Obeys (c : Client) : Prop extends r.Heeds c where
  transport : ∀ t ∈ r.customTransport?, c.Routed r.descriptor t.value
  setterFactory : ∀ s ∈ r.customSetterFactory?, c.handler.setterFactory = some s.value

/-- A transport that is set stays: where the scopes hold one, it is used like that one, and where
they hold none, there is nothing to unwrap. -/
structure KeepsTransport (t : Component Transport) : Prop where
  scopes : ∀ t' ∈ r.chain.find? .transport,
    (r.descriptor.route t').value = (r.descriptor.route t).value
  alone : r.chain.find? .transport = none → r.descriptor.url = none ∨ t.value.isDirect = true

/-- A setter factory that is set stays: no other one comes from the scopes. -/
def KeepsSetterFactory (s : Component SetterFactory) : Prop :=
  ∀ s' ∈ r.scopeSetterFactory?, s'.value = s.value

variable {r} {capability : String}

/-- A builder has what customizers set last. -/
lemma get_of_customized {b : Builder} (eq : r.builder = .ok b) {α : Type} (F : Aspect α) :
    ∀ v ∈ r.customized? F, F.get b = v := by
  obtain ⟨base, -, rfl⟩ := builder_eq eq
  intro v told
  have last : F.last r.customSettings = some v := told
  rw [F.get_setAll, F.last_append, last]
  rfl

/-- It has all interceptors that were added, in their order. -/
lemma addedInterceptors_of_builder {b : Builder} (eq : r.builder = .ok b) :
    b.addedInterceptors =
      (r.uncustomized ++ r.customSettings).filterMap Builder.added? := by
  obtain ⟨base, baseOk, rfl⟩ := builder_eq eq
  obtain ⟨_, _, _, _, -, -, -, -, rfl⟩ := base_ok baseOk
  rw [Builder.addedInterceptors_setAll, List.nil_append]

/-- The kind of a client comes from its scopes. -/
lemma template_builder {b : Builder} (eq : r.builder = .ok b) :
    (r.chain.find? .builderTemplate).map (·.value) = some b.template := by
  obtain ⟨base, baseOk, rfl⟩ := builder_eq eq
  obtain ⟨template, _, _, _, found, -, -, -, rfl⟩ := base_ok baseOk
  rw [Builder.template_setAll, found]
  rfl

/-- A builder has the setter factory that a customizer set last. -/
lemma setterFactory_builder {b : Builder} (eq : r.builder = .ok b) :
    b.setterFactory = r.customSetterFactory? := by
  refine get_builder_of_quiet Aspect.setterFactory (fun e => ?_) (fun inherit => ?_)
    (fun base baseOk => ?_) eq
  · simp [last_toldBy, Aspect.setterFactory]
  · simp [declaredSettings, Aspect.setterFactory, Option.bind_map]
  · obtain ⟨_, _, _, _, -, -, -, -, rfl⟩ := base_ok baseOk
    rfl

/-- The setter factory of the scopes takes the place of the one that a customizer set. -/
lemma setterFactory_client {c : Client} (eq : r.client capability = .ok c) :
    c.handler.setterFactory =
      (r.scopeSetterFactory?.or r.customSetterFactory?).map (·.value) := by
  obtain ⟨b, made, eq⟩ := bind_ok eq
  obtain ⟨b', connected, eq⟩ := bind_ok eq
  obtain ⟨t, rfl⟩ := withTransport_ok connected
  rw [scopeSetterFactory?, template_builder made, ← setterFactory_builder made]
  have build {b : Builder} {fallback : Fallback}
      (eq : b.build r.descriptor.target fallback = .ok c) :
      c.handler.setterFactory = b.setterFactory.map (·.value) := by
    unfold Builder.build at eq
    split at eq
    · cases eq
    · cases eq
      rfl
  unfold link at eq
  split at eq
  next tolerant =>
    rw [if_pos (congrArg some (eq_of_beq tolerant))]
    cases found : r.fallback capability with
    | error e =>
      simp only [found] at eq
      cases eq
    | ok fallback =>
      simp only [found] at eq
      rw [build eq]
      cases r.chain.find? .setterFactory <;> rfl
  next plain =>
    have other : ¬some b.template = some .faultTolerant := fun same =>
      plain (beq_iff_eq.2 (Option.some.inj same))
    rw [if_neg other, build eq, Option.none_or]

/-- A client goes where its descriptor tells when it has the transport in this form. -/
lemma routed_iff_transport {c : Client} {d : Descriptor} {t : Component Transport} :
    c.Routed d t.value ↔ c.handler.transport = (d.route t).value := by
  unfold Descriptor.route
  cases fixed : d.url with
  | none =>
    rw [← Client.uses_iff]
    refine ⟨fun routed => routed.balanced fixed, fun uses => ⟨fun url eq => ?_, fun _ => uses⟩⟩
    cases fixed.symm.trans eq
  | some url =>
    simp only [t.value.unwrapped_eq]
    rw [← Client.uses_iff]
    refine ⟨fun routed => routed.fixed url fixed, fun uses => ⟨fun _ _ => uses, fun eq => ?_⟩⟩
    cases fixed.symm.trans eq

/-- Without load balancers around it, or without a fixed address, a transport is used as it is. -/
lemma route_eq_iff {d : Descriptor} {t : Component Transport} :
    t.value = (d.route t).value ↔ d.url = none ∨ t.value.isDirect = true := by
  unfold Descriptor.route
  cases d.url with
  | none => simp
  | some url => simp [t.value.unwrapped_eq, Transport.isDirect_iff]

/-- The transport of the scopes takes the place of the one that a customizer set. -/
lemma transport_of_find {c : Client} (eq : r.client capability = .ok c) :
    (∀ t ∈ r.chain.find? .transport, c.handler.transport = (r.descriptor.route t).value) ∧
      (r.chain.find? .transport = none →
        ∃ t ∈ r.customTransport?, c.handler.transport = t.value) := by
  obtain ⟨t, supplied, transport⟩ := transport_client eq
  rw [supplied?] at supplied
  cases found : r.chain.find? .transport with
  | none =>
    have nowhere : ¬r.chain.Holds .transport := by
      rw [← Chain.find?_isSome, found]
      exact Bool.false_ne_true
    rw [found, Option.none_or] at supplied
    rw [if_neg nowhere] at transport
    refine ⟨fun t' mem => ?_, fun _ => ⟨t, supplied, transport⟩⟩
    cases mem
  | some t' =>
    have holds : r.chain.Holds .transport := Chain.find?_isSome.1 (Option.isSome_of_eq_some found)
    rw [found] at supplied
    cases supplied
    rw [if_pos holds] at transport
    refine ⟨fun t' mem => ?_, fun nowhere => ?_⟩
    · cases mem
      exact transport
    · cases nowhere

/-- A client heeds its customizers. -/
lemma heeds_client {c : Client} (eq : r.client capability = .ok c) : r.Heeds c := by
  obtain ⟨b, transport, setterFactory, made, -, handler⟩ := client_ok eq
  have sets {α : Type} (F : Aspect α) := get_of_customized made F
  constructor <;> rw [handler]
  case loggerLevel => exact sets .loggerLevel
  case connectTimeout => exact sets .connectTimeout
  case readTimeout => exact sets .readTimeout
  case followRedirects => exact sets .followRedirects
  case decode404 => exact sets .decode404
  case exceptionPolicy => exact sets .exceptionPolicy
  case retry => exact fun v told => congrArg (·.value) (sets .retry v told)
  case encoder => exact fun v told => congrArg (·.value) (sets .encoder v told)
  case decoder => exact fun v told => congrArg (·.value) (sets .decoder v told)
  case contract => exact fun v told => congrArg (·.value) (sets .contract v told)
  case errorDecoder => exact fun v told => congrArg (·.value) (sets .errorDecoder v told)
  case queryMapEncoder => exact fun v told => congrArg (·.value) (sets .queryMapEncoder v told)
  case interceptors =>
    intro xs told
    have group : b.scopeInterceptors = xs := sets .scopeInterceptors xs told
    rw [← addedInterceptors_of_builder made, ← group, ← List.map_append]
    rfl

/-- A transport that customizers set is used as the descriptor tells exactly when it stays. -/
lemma routed_iff_keeps {c : Client} (eq : r.client capability = .ok c) {t : Component Transport}
    (set : t ∈ r.customTransport?) : c.Routed r.descriptor t.value ↔ r.KeepsTransport t := by
  obtain ⟨scopes, alone⟩ := transport_of_find eq
  rw [routed_iff_transport]
  cases found : r.chain.find? .transport with
  | some t' =>
    rw [scopes t' found]
    refine ⟨fun same => ⟨fun t'' mem => ?_, fun none => ?_⟩, fun keeps => keeps.scopes t' found⟩
    · cases found.symm.trans mem
      exact same
    · cases found.symm.trans none
  | none =>
    obtain ⟨t', mem, transport⟩ := alone found
    cases Option.mem_unique set mem
    rw [transport, route_eq_iff]
    refine ⟨fun bare => ⟨fun t' mem => ?_, fun _ => bare⟩, fun keeps => keeps.alone found⟩
    cases found.symm.trans mem

/-- So is a setter factory. -/
lemma setterFactory_iff_keeps {c : Client} (eq : r.client capability = .ok c)
    {s : Component SetterFactory} (set : s ∈ r.customSetterFactory?) :
    c.handler.setterFactory = some s.value ↔ r.KeepsSetterFactory s := by
  have custom : r.customSetterFactory? = some s := set
  rw [setterFactory_client eq, custom, KeepsSetterFactory]
  cases r.scopeSetterFactory? with
  | none => simp
  | some s' => simp

end Resolution

namespace Factory

variable {τ : Type} [Capability τ] {f : Factory (Configuration Kind.Value) τ} {capability : τ}
  {id : String}

/-- Each client that is made has what its customizers, those of its scopes and then those of its
descriptor, set last in every part but two. It has the transport that they set, used as its
descriptor tells, and the setter factory that they set exactly when these stay. Otherwise it has the
transport of its scopes, or the set one with all load balancers around it, and the setter factory of
its scopes. -/
theorem create_obeys_iff {m : MadeClient} (created : (f.create capability id).value = .ok m) :
    ∃ d, f.descriptor? id = some d ∧
      let r := f.resolution d
      r.Heeds m.client ∧
      (r.Obeys m.client ↔
        (∀ t ∈ r.customTransport?, r.KeepsTransport t) ∧
          ∀ s ∈ r.customSetterFactory?, r.KeepsSetterFactory s) ∧
      (∀ t ∈ r.chain.find? .transport, m.client.Uses (d.route t).value) ∧
      (r.chain.find? .transport = none → ∃ t ∈ r.customTransport?, m.client.Uses t.value) ∧
      m.client.handler.setterFactory =
        (r.scopeSetterFactory?.or r.customSetterFactory?).map (·.value) := by
  obtain ⟨d, registered, fits, -⟩ := create_ok created
  rw [create_value registered fits] at created
  obtain ⟨c, made, rfl⟩ := map_ok created
  have heeds := Resolution.heeds_client made
  obtain ⟨scopes, alone⟩ := Resolution.transport_of_find made
  refine ⟨d, registered, heeds, ⟨fun obeys => ⟨?_, ?_⟩, ?_⟩, ?_, ?_,
    Resolution.setterFactory_client made⟩
  · exact fun t set => (Resolution.routed_iff_keeps made set).1 (obeys.transport t set)
  · exact fun s set => (Resolution.setterFactory_iff_keeps made set).1 (obeys.setterFactory s set)
  · rintro ⟨transport, setterFactory⟩
    exact
      { heeds with
        transport := fun t set => (Resolution.routed_iff_keeps made set).2 (transport t set)
        setterFactory := fun s set =>
          (Resolution.setterFactory_iff_keeps made set).2 (setterFactory s set) }
  · exact fun t found => Client.uses_iff.2 (scopes t found)
  · intro nowhere
    obtain ⟨t, set, transport⟩ := alone nowhere
    exact ⟨t, set, Client.uses_iff.2 transport⟩

/-- A client whose customizer sets a logger level, a transport and a setter factory. -/
def customizedClient : Declaration where
  clientType := ⟨"UsersClient", .interface⟩
  name := some "users"
  customizers := [⟨fun _ => [.loggerLevel .full, .transport ⟨"own", .direct ⟨1, "own"⟩, 0⟩,
    .setterFactory ⟨"own", .grouped "own", 0⟩]⟩]

/-- It has the logger level that was set, but the transport of its scopes, and its commands are not
in the group that was set. -/
theorem create_customizedClient :
    let f := (tolerant.register customizedClient).factory
    ∃ m, (f.create "UsersClient" "users").value = .ok m ∧ m.client.handler.loggerLevel = .full ∧
      m.client.Uses (.direct ⟨0, "direct"⟩) ∧
      (m.client.command? "ping").map (·.group) = some "users" := by
  intro f
  have made : (f.create "UsersClient" "users").value.map (·.serial) = .ok 0 := by decide +kernel
  have known : (f.descriptor? "users").map (fun d =>
      (d.url, (f.resolution d).customized? .loggerLevel,
        ((f.resolution d).chain.find? .transport).map (·.value))) =
      some (none, some .full, some (.direct ⟨0, "direct"⟩)) := by decide +kernel
  have grouped : (f.descriptor? "users").map (fun d =>
      (f.resolution d).scopeSetterFactory?.map fun s => (s.value.create d.target "ping").group) =
      some (some "users") := by decide +kernel
  obtain ⟨m, created, -⟩ := map_ok made
  obtain ⟨d, registered, heeds, -, scopes, -, commands⟩ := create_obeys_iff created
  obtain ⟨d', registered', -, target⟩ := create_ok created
  cases registered.symm.trans registered'
  obtain ⟨d', registered', eq⟩ := Option.map_eq_some_iff.1 known
  cases registered.symm.trans registered'
  obtain ⟨d', registered', group⟩ := Option.map_eq_some_iff.1 grouped
  cases registered.symm.trans registered'
  obtain ⟨free, eq⟩ := Prod.mk.inj eq
  obtain ⟨level, found⟩ := Prod.mk.inj eq
  obtain ⟨t, found, value⟩ := Option.map_eq_some_iff.1 found
  have uses := scopes t found
  rw [Descriptor.route, free] at uses
  refine ⟨m, created, heeds.loggerLevel _ level, value ▸ uses, ?_⟩
  obtain ⟨s, wired, group⟩ := Option.map_eq_some_iff.1 group
  rw [Client.command?, commands, wired, target]
  exact congrArg some group

/-- So a client does not have all that its customizers set. -/
theorem not_create_obeys :
    ¬ ∀ (f : Factory) capability id m d, f.Reachable → (f.create capability id).value = .ok m →
      f.descriptor? id = some d → (f.resolution d).Obeys m.client := by
  intro obeys
  let f := (tolerant.register customizedClient).factory
  have reach : f.Reachable := (Reachable.new _ _ _).step (.register _)
  have made : (f.create "UsersClient" "users").value.map (·.client.handler.transport) =
      .ok (.direct ⟨0, "direct"⟩) := by decide +kernel
  have known : (f.descriptor? "users").map (fun d =>
      (d.url, (f.resolution d).customTransport?.map (·.value))) =
      some (none, some (.direct ⟨1, "own"⟩)) := by decide +kernel
  obtain ⟨m, created, used⟩ := map_ok made
  obtain ⟨d, registered, eq⟩ := Option.map_eq_some_iff.1 known
  obtain ⟨free, eq⟩ := Prod.mk.inj eq
  obtain ⟨t, set, value⟩ := Option.map_eq_some_iff.1 eq
  have own := (((obeys f _ _ m d reach created registered).transport t set).balanced free).transport
  rw [used, value] at own
  revert own
  decide

end Factory
end ServiceClient
