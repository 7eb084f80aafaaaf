import Mathlib.Data.List.Basic
import Mathlib.Data.Option.Basic
import ServiceClient.Proofs.Call.Setting
import ServiceClient.Proofs.Factory.Layers

/-!
# The precedence of layers

What a client is configured with comes from its own entry, from the entry for all clients, and from
what scopes and the descriptor declare. `get_builder` is the law for any part of a builder: the
layers are asked in the order of `ranked`, and the first that tells anything counts.
`effective_eq_ranked` reads off all fields of the effective configuration.
-/

namespace ServiceClient.Resolution
open Builder (Aspect)

variable (r : Resolution)

/-- The client's own entry. -/
def own? : Option PropertyEntry := r.properties.clientEntry? r.descriptor.contextId

/-- The entry for all clients. -/
def shared? : Option PropertyEntry := r.properties.defaultEntry?

/-- The first layer that tells anything: properties come before declarations, or behind them. -/
def ranked {α : Type} (own shared declared : Option α) : Option α :=
  if r.properties.defaultToProperties then own.or (shared.or declared)
  else declared.or (own.or shared)

variable {r} {α β : Type}

/-- A layer may be read in another way before or after it is found. -/
lemma map_ranked (f : α → β) (own shared declared : Option α) :
    (r.ranked own shared declared).map f =
      r.ranked (own.map f) (shared.map f) (declared.map f) := by
  unfold ranked
  split <;> simp [Option.map_or]

/-- Reading the first layer, or else what is built in. -/
lemma apply_ranked (f : α → β) (own shared declared : Option α) (builtin : α) :
    f ((r.ranked own shared declared).getD builtin) =
      (r.ranked (own.map f) (shared.map f) (declared.map f)).getD (f builtin) := by
  rw [← map_ranked]
  cases r.ranked own shared declared <;> rfl

/-- Without declarations the mode does not count. -/
lemma ranked_none (own shared : Option α) : r.ranked own shared none = own.or shared := by
  unfold ranked
  split <;> simp

/-- What an entry tells of a part, the setting that counts first. -/
lemma last_toldBy (F : Aspect α) (quiet : ∀ c, F.told (.interceptor c) = none)
    (e : PropertyEntry) :
    F.last (r.toldBy e) =
      (e.exceptionPolicy.bind fun x => F.told (.exceptionPolicy x)).or
      ((e.contract.bind fun n => (r.known? .contract n).bind fun c => F.told (.contract c)).or
      ((e.decoder.bind fun n => (r.known? .decoder n).bind fun c => F.told (.decoder c)).or
      ((e.encoder.bind fun n => (r.known? .encoder n).bind fun c => F.told (.encoder c)).or
      ((if e.decode404 = some true then F.told .decode404 else none).or
      ((e.errorDecoder.bind fun n => (r.known? .errorDecoder n).bind fun c =>
        F.told (.errorDecoder c)).or
      ((e.retryer.bind fun n => (r.known? .retryPolicy n).bind fun c => F.told (.retry c)).or
      ((F.told (.limits (e.connectMillis.map UInt64.toNat) (e.readMillis.map UInt64.toNat)
        e.followRedirects)).or
      (e.loggerLevel.bind fun x => F.told (.loggerLevel x))))))))) := by
  simp [toldBy, valueInterceptors, quiet, F.last_map_of_none, Option.bind_assoc, Option.bind_map,
    Option.or_assoc]

/-- The interceptors of the scope are told only when there are any. -/
@[simp] lemma last_declaredInterceptors (F : Aspect α) (inherit : Bool) :
    F.last (r.declaredInterceptors inherit) =
      if (r.chain.lookupAll inherit .interceptor).isEmpty then none
      else F.told (.scopeInterceptors (r.chain.lookupAll inherit .interceptor)) := by
  unfold declaredInterceptors
  split
  next none => simp [none]
  next some => simp [show r.chain.lookupAll inherit .interceptor ≠ [] from some]

/-- What declarations tell of a part, the setting that counts first. -/
lemma last_declaredSettings (F : Aspect α) :
    F.last (r.declaredSettings true) =
      (if r.descriptor.decode404 then F.told .decode404 else none).or
      (((r.chain.find? .exceptionPolicy).bind fun c => F.told (.exceptionPolicy c.value)).or
      (((r.chain.find? .queryMapEncoder).bind fun c => F.told (.queryMapEncoder c)).or
      ((if (r.chain.lookupAll true .interceptor).isEmpty then none
        else F.told (.scopeInterceptors (r.chain.lookupAll true .interceptor))).or
      (((r.chain.find? .requestOptions).bind fun c => F.told (.options c.value)).or
      (((r.declaredErrorDecoder true).bind fun c => F.told (.errorDecoder c)).or
      (((r.chain.find? .retryPolicy).bind fun c => F.told (.retry c)).or
      ((r.chain.find? .loggerLevel).bind fun c => F.told (.loggerLevel c.value)))))))) := by
  simp [declaredSettings, Chain.lookup, Option.bind_map, Option.or_assoc]

/-- What entries tell of a part: the client's own entry comes first. -/
lemma last_entries (F : Aspect α) :
    F.last (r.entries.flatMap r.toldBy) =
      (r.own?.bind (F.last ∘ r.toldBy)).or (r.shared?.bind (F.last ∘ r.toldBy)) := by
  unfold entries own? shared?
  cases r.properties.defaultEntry? <;>
    cases r.properties.clientEntry? r.descriptor.contextId <;> simp

/-- Any part of a client without customizers comes from the first layer that tells of it. -/
lemma get_builder (F : Aspect α) {base b : Builder} (inherits : r.inherits = true)
    (plain : r.customSettings = []) (baseOk : r.base = .ok base) (eq : r.builder = .ok b) :
    F.get b = (r.ranked (r.own?.bind (F.last ∘ r.toldBy)) (r.shared?.bind (F.last ∘ r.toldBy))
      (F.last (r.declaredSettings true))).getD (F.get base) := by
  obtain ⟨base', baseOk', -, rfl⟩ := builder_ok inherits eq
  rw [baseOk] at baseOk'
  cases baseOk'
  rw [plain, List.append_nil, F.get_setAll]
  unfold ranked
  split <;> simp [last_entries, Option.or_assoc]

/-- A known component bears the name by which an entry tells it. -/
lemma map_name_bind {k : Kind} {o : Option PropertyEntry} {g : PropertyEntry → Option String}
    (knows : ∀ e ∈ o, ((g e).bind (r.known? k)).map (·.name) = g e) :
    (o.bind fun e => (g e).bind (r.known? k)).map (·.name) = o.bind g := by
  cases o with
  | none => rfl
  | some e => exact knows e rfl

/-- The name of a component that entries tell by name. -/
lemma name_ranked {k : Kind} {g : PropertyEntry → Option String}
    (knows : ∀ e ∈ r.entries, ((g e).bind (r.known? k)).map (·.name) = g e)
    (declared : Option (Component k.Value)) (builtin : Component k.Value) :
    ((r.ranked (r.own?.bind fun e => (g e).bind (r.known? k))
      (r.shared?.bind fun e => (g e).bind (r.known? k)) declared).getD builtin).name =
    (r.ranked (r.own?.bind g) (r.shared?.bind g) (declared.map (·.name))).getD builtin.name := by
  have ownKnown : ∀ e ∈ r.own?, ((g e).bind (r.known? k)).map (·.name) = g e := by
    intro e mem
    exact knows e (List.mem_append_right _ (Option.mem_toList.2 mem))
  have sharedKnown : ∀ e ∈ r.shared?, ((g e).bind (r.known? k)).map (·.name) = g e := by
    intro e mem
    exact knows e (List.mem_append_left _ (Option.mem_toList.2 mem))
  rw [apply_ranked (fun c : Component k.Value => c.name), map_name_bind ownKnown,
    map_name_bind sharedKnown]

/-- The names of the interceptors that an entry brings, in their order. -/
def interceptorNames (e : PropertyEntry) : List String :=
  e.interceptors ++ (if e.headers.isEmpty then [] else ["default-request-headers"]) ++
    (if e.queryParameters.isEmpty then [] else ["default-query-parameters"])

variable (r) in
/-- The interceptors that an entry brings, in their order: those that it names, and then those for
its headers and queries. -/
def interceptorsOf (e : PropertyEntry) : List (Component Interceptor) :=
  e.interceptors.filterMap (r.known? .interceptor) ++
    (if e.headers.isEmpty then []
      else [⟨"default-request-headers", Interceptor.headers e.headers, 0⟩]) ++
    (if e.queryParameters.isEmpty then []
      else [⟨"default-query-parameters", Interceptor.queryParameters e.queryParameters, 0⟩])

/-- When all that an entry names is known, it brings an interceptor for each name. -/
lemma names_interceptorsOf {e : PropertyEntry} (knows : r.Knows e) :
    (r.interceptorsOf e).map (·.name) = interceptorNames e := by
  rw [interceptorsOf, List.map_append, List.map_append, knows.interceptors, interceptorNames]
  cases e.headers.isEmpty <;> cases e.queryParameters.isEmpty <;> rfl

/-- So do several entries, one behind the other. -/
lemma names_flatMap_interceptorsOf {es : List PropertyEntry} (knows : ∀ e ∈ es, r.Knows e) :
    (es.flatMap r.interceptorsOf).map (·.name) = es.flatMap interceptorNames := by
  rw [List.map_flatMap]
  exact List.flatMap_congr fun e mem => names_interceptorsOf (knows e mem)

/-- An entry adds the interceptors that it brings, and no others. -/
lemma added_toldBy (e : PropertyEntry) :
    (r.toldBy e).filterMap Builder.added? = r.interceptorsOf e := by
  have values : (valueInterceptors e).filterMap Builder.added? =
      (if e.headers.isEmpty then []
        else [⟨"default-request-headers", Interceptor.headers e.headers, 0⟩]) ++
        (if e.queryParameters.isEmpty then []
          else [⟨"default-query-parameters",
            Interceptor.queryParameters e.queryParameters, 0⟩]) := by
    unfold valueInterceptors
    cases e.headers.isEmpty <;> cases e.queryParameters.isEmpty <;> rfl
  have flag : (if e.decode404 = some true then [Setting.decode404] else []).filterMap
      Builder.added? = [] := by
    split <;> rfl
  simp only [toldBy, List.filterMap_append, List.filterMap_cons, List.filterMap_nil, flag,
    Builder.added_toList, Builder.added_interceptors, Builder.added?, Option.bind_map,
    Function.comp_def, Option.bind_fun_none, Option.toList_none, List.nil_append, List.append_nil,
    values, interceptorsOf, List.append_assoc]

/-- So do several entries. -/
lemma added_entries (es : List PropertyEntry) :
    (es.flatMap r.toldBy).filterMap Builder.added? = es.flatMap r.interceptorsOf := by
  rw [List.filterMap_flatMap]
  exact List.flatMap_congr fun e _ => added_toldBy e

/-- Declarations add no interceptor to those of the scope. -/
lemma added_declaredSettings (inherit : Bool) :
    (r.declaredSettings inherit).filterMap Builder.added? = [] := by
  have interceptors : (r.declaredInterceptors inherit).filterMap Builder.added? = [] := by
    unfold declaredInterceptors
    split <;> rfl
  have flag : (if r.descriptor.decode404 then [Setting.decode404] else []).filterMap
      Builder.added? = [] := by
    split <;> rfl
  simp only [declaredSettings, List.filterMap_append, Builder.added_toList, Builder.added?,
    Option.bind_map, Function.comp_def, Option.bind_fun_none, Option.toList_none, interceptors,
    flag, List.append_nil]

section

variable {base b : Builder} (inherits : r.inherits = true) (plain : r.customSettings = [])
  (baseOk : r.base = .ok base) (eq : r.builder = .ok b)

include inherits plain baseOk eq

/-- The logger level comes from the first layer that tells one. -/
lemma loggerLevel_eq : b.loggerLevel =
    (r.ranked (r.own?.bind (·.loggerLevel)) (r.shared?.bind (·.loggerLevel))
      ((r.chain.find? .loggerLevel).map (·.value))).getD base.loggerLevel := by
  simpa [last_toldBy, last_declaredSettings, Aspect.loggerLevel, Function.comp_def,
    Option.map_eq_bind] using get_builder Aspect.loggerLevel inherits plain baseOk eq

/-- So does what becomes of the last error of a call. -/
lemma exceptionPolicy_eq : b.exceptionPolicy =
    (r.ranked (r.own?.bind (·.exceptionPolicy)) (r.shared?.bind (·.exceptionPolicy))
      ((r.chain.find? .exceptionPolicy).map (·.value))).getD base.exceptionPolicy := by
  simpa [last_toldBy, last_declaredSettings, Aspect.exceptionPolicy, Function.comp_def,
    Option.map_eq_bind] using get_builder Aspect.exceptionPolicy inherits plain baseOk eq

/-- Declared options tell the limit for making a connection, as they tell each limit. -/
lemma connectTimeout_eq : b.options.connectTimeout =
    (r.ranked ((r.own?.bind (·.connectMillis)).map (.ofMillis ·.toNat))
      ((r.shared?.bind (·.connectMillis)).map (.ofMillis ·.toNat))
      ((r.chain.find? .requestOptions).map (·.value.connectTimeout))).getD
        base.options.connectTimeout := by
  simpa [last_toldBy, last_declaredSettings, Aspect.connectTimeout, Function.comp_def,
    Option.bind_assoc, Option.map_eq_bind]
    using get_builder Aspect.connectTimeout inherits plain baseOk eq

/-- The limit for getting an answer. -/
lemma readTimeout_eq : b.options.readTimeout =
    (r.ranked ((r.own?.bind (·.readMillis)).map (.ofMillis ·.toNat))
      ((r.shared?.bind (·.readMillis)).map (.ofMillis ·.toNat))
      ((r.chain.find? .requestOptions).map (·.value.readTimeout))).getD
        base.options.readTimeout := by
  simpa [last_toldBy, last_declaredSettings, Aspect.readTimeout, Function.comp_def,
    Option.bind_assoc, Option.map_eq_bind]
    using get_builder Aspect.readTimeout inherits plain baseOk eq

/-- Whether redirects are followed. -/
lemma followRedirects_eq : b.options.followRedirects =
    (r.ranked (r.own?.bind (·.followRedirects)) (r.shared?.bind (·.followRedirects))
      ((r.chain.find? .requestOptions).map (·.value.followRedirects))).getD
        base.options.followRedirects := by
  simpa [last_toldBy, last_declaredSettings, Aspect.followRedirects, Function.comp_def,
    Option.map_eq_bind] using get_builder Aspect.followRedirects inherits plain baseOk eq

/-- The retry policy is told by its name in entries. -/
lemma retry_eq : b.retry =
    (r.ranked (r.own?.bind fun e => e.retryer.bind (r.known? .retryPolicy))
      (r.shared?.bind fun e => e.retryer.bind (r.known? .retryPolicy))
      (r.chain.find? .retryPolicy)).getD base.retry := by
  simpa [last_toldBy, last_declaredSettings, Aspect.retry, Function.comp_def]
    using get_builder Aspect.retry inherits plain baseOk eq

/-- The error decoder may be declared by a factory. -/
lemma errorDecoder_eq : b.errorDecoder =
    (r.ranked (r.own?.bind fun e => e.errorDecoder.bind (r.known? .errorDecoder))
      (r.shared?.bind fun e => e.errorDecoder.bind (r.known? .errorDecoder))
      (r.declaredErrorDecoder true)).getD base.errorDecoder := by
  simpa [last_toldBy, last_declaredSettings, Aspect.errorDecoder, Function.comp_def]
    using get_builder Aspect.errorDecoder inherits plain baseOk eq

/-- No declaration tells an encoder once more. -/
lemma encoder_eq : b.encoder =
    ((r.own?.bind fun e => e.encoder.bind (r.known? .encoder)).or
      (r.shared?.bind fun e => e.encoder.bind (r.known? .encoder))).getD base.encoder := by
  simpa [last_toldBy, last_declaredSettings, Aspect.encoder, Function.comp_def, ranked_none]
    using get_builder Aspect.encoder inherits plain baseOk eq

/-- Nor a decoder. -/
lemma decoder_eq : b.decoder =
    ((r.own?.bind fun e => e.decoder.bind (r.known? .decoder)).or
      (r.shared?.bind fun e => e.decoder.bind (r.known? .decoder))).getD base.decoder := by
  simpa [last_toldBy, last_declaredSettings, Aspect.decoder, Function.comp_def, ranked_none]
    using get_builder Aspect.decoder inherits plain baseOk eq

/-- Nor a contract. -/
lemma contract_eq : b.contract =
    ((r.own?.bind fun e => e.contract.bind (r.known? .contract)).or
      (r.shared?.bind fun e => e.contract.bind (r.known? .contract))).getD base.contract := by
  simpa [last_toldBy, last_declaredSettings, Aspect.contract, Function.comp_def, ranked_none]
    using get_builder Aspect.contract inherits plain baseOk eq

/-- No entry tells an encoder of query maps. -/
lemma queryMapEncoder_eq : b.queryMapEncoder =
    (r.chain.find? .queryMapEncoder).getD base.queryMapEncoder := by
  simpa [last_toldBy, last_declaredSettings, Aspect.queryMapEncoder, Function.comp_def, ranked]
    using get_builder Aspect.queryMapEncoder inherits plain baseOk eq

/-- Neither entries nor declarations tell a transport. -/
lemma transport_eq : b.transport = base.transport := by
  simpa [last_toldBy, last_declaredSettings, Aspect.transport, Function.comp_def, ranked]
    using get_builder Aspect.transport inherits plain baseOk eq

/-- Decoding of status 404 is turned on by any layer, and never off. -/
lemma decode404_eq : b.decode404 =
    (r.descriptor.decode404 || r.own?.bind (·.decode404) == some true ||
      r.shared?.bind (·.decode404) == some true || base.decode404) := by
  have turned (o : Option PropertyEntry) :
      (o.bind fun e => if e.decode404 = some true then some true else none) =
        if o.bind (·.decode404) == some true then some true else none := by
    cases o <;> simp
  have law := get_builder Aspect.decode404 inherits plain baseOk eq
  simp only [last_toldBy, last_declaredSettings, Aspect.decode404, Function.comp_def, turned,
    Option.bind_fun_none, Option.or_none, Option.none_or, ite_self, implies_true] at law
  rw [law]
  unfold ranked
  cases r.descriptor.decode404 <;> cases r.own?.bind (·.decode404) == some true <;>
    cases r.shared?.bind (·.decode404) == some true <;>
    cases r.properties.defaultToProperties <;> rfl

/-- The interceptors of the scope stand in their order, in both modes. -/
lemma scopeInterceptors_eq (none : base.scopeInterceptors = []) :
    b.scopeInterceptors = r.chain.lookupAll true .interceptor := by
  have law := get_builder Aspect.scopeInterceptors inherits plain baseOk eq
  simp only [last_toldBy, last_declaredSettings, Aspect.scopeInterceptors, Function.comp_def,
    Option.bind_fun_none, Option.or_none, Option.none_or, ite_self, implies_true, none,
    ranked] at law
  rw [law]
  cases r.chain.lookupAll true .interceptor <;> simp

/-- The interceptors of entries stand behind those of the scope: first those of the entry for all
clients, in both modes. -/
lemma addedInterceptors_builder (none : base.addedInterceptors = []) :
    b.addedInterceptors =
      r.shared?.toList.flatMap r.interceptorsOf ++ r.own?.toList.flatMap r.interceptorsOf := by
  obtain ⟨base', baseOk', -, rfl⟩ := builder_ok inherits eq
  rw [baseOk] at baseOk'
  cases baseOk'
  have told : (r.entries.flatMap r.toldBy).filterMap Builder.added? =
      r.shared?.toList.flatMap r.interceptorsOf ++ r.own?.toList.flatMap r.interceptorsOf := by
    rw [added_entries, ← List.flatMap_append]
    rfl
  rw [plain, List.append_nil, Builder.addedInterceptors_setAll, none, List.nil_append]
  split
  · rw [List.filterMap_append, added_declaredSettings, List.nil_append, told]
  · rw [List.filterMap_append, added_declaredSettings, List.append_nil, told]

/-- They bear the names that entries tell. -/
lemma addedInterceptors_eq (none : base.addedInterceptors = []) :
    b.addedInterceptors.map (·.name) =
      r.shared?.toList.flatMap interceptorNames ++ r.own?.toList.flatMap interceptorNames := by
  obtain ⟨-, -, knows, -⟩ := builder_ok inherits eq
  rw [addedInterceptors_builder inherits plain baseOk eq none, ← List.flatMap_append,
    ← List.flatMap_append]
  exact names_flatMap_interceptorsOf knows

end

/-- A number of milliseconds of 64 bits is not cut off. -/
@[simp] lemma clampedMillis_ofMillis (n : UInt64) :
    (Duration.ofMillis n.toNat).clampedMillis = n.toNat := by
  have bound : n.toNat ≤ Nat.pow 2 64 - 1 := Nat.le_pred_of_lt n.toNat_lt
  have whole : (Duration.ofMillis n.toNat).millis = n.toNat := Nat.mul_div_left _ (by decide)
  rw [Duration.clampedMillis, whole]
  exact Nat.min_eq_left bound

/-- The name of the error decoder that is declared, by itself or by a factory. -/
lemma name_declaredErrorDecoder :
    (r.declaredErrorDecoder true).map (·.name) =
      ((r.chain.find? .errorDecoder).map (·.name)).or
        ((r.chain.find? .errorDecoderFactory).map (·.name)) := by
  simp [declaredErrorDecoder, Chain.lookup, Option.map_or, Function.comp_def]

/-- The effective configuration of a client that takes over what is configured outside, field by
field. -/
theorem effective_eq_ranked {b : Builder} (inherits : r.inherits = true)
    (scopes : r.chain.lookupAll true .customizer = []) (declared : r.descriptor.customizers = [])
    (eq : r.builder = .ok b) :
    ∃ template encoder decoder contract,
      r.chain.find? .builderTemplate = some template ∧ r.chain.find? .encoder = some encoder ∧
      r.chain.find? .decoder = some decoder ∧ r.chain.find? .contract = some contract ∧
      b.effective =
        { template := template.value
          loggerLevel :=
            (r.ranked (r.own?.bind (·.loggerLevel)) (r.shared?.bind (·.loggerLevel))
              ((r.chain.find? .loggerLevel).map (·.value))).getD .none
          connectMillis :=
            (r.ranked ((r.own?.bind (·.connectMillis)).map (·.toNat))
              ((r.shared?.bind (·.connectMillis)).map (·.toNat))
              ((r.chain.find? .requestOptions).map (·.value.connectTimeout.clampedMillis))).getD
                10000
          readMillis :=
            (r.ranked ((r.own?.bind (·.readMillis)).map (·.toNat))
              ((r.shared?.bind (·.readMillis)).map (·.toNat))
              ((r.chain.find? .requestOptions).map (·.value.readTimeout.clampedMillis))).getD
                60000
          followRedirects :=
            (r.ranked (r.own?.bind (·.followRedirects)) (r.shared?.bind (·.followRedirects))
              ((r.chain.find? .requestOptions).map (·.value.followRedirects))).getD true
          retryer :=
            (r.ranked (r.own?.bind (·.retryer)) (r.shared?.bind (·.retryer))
              ((r.chain.find? .retryPolicy).map (·.name))).getD "never-retry"
          maxAttempts :=
            (r.ranked
              (((r.own?.bind (·.retryer)).bind (r.known? .retryPolicy)).map (·.value.maxAttempts))
              (((r.shared?.bind (·.retryer)).bind (r.known? .retryPolicy)).map
                (·.value.maxAttempts))
              ((r.chain.find? .retryPolicy).map (·.value.maxAttempts))).getD 1
          decode404 :=
            r.descriptor.decode404 || r.own?.bind (·.decode404) == some true ||
              r.shared?.bind (·.decode404) == some true
          exceptionPolicy :=
            (r.ranked (r.own?.bind (·.exceptionPolicy)) (r.shared?.bind (·.exceptionPolicy))
              ((r.chain.find? .exceptionPolicy).map (·.value))).getD .none
          encoder :=
            ((r.own?.bind (·.encoder)).or (r.shared?.bind (·.encoder))).getD encoder.name
          decoder :=
            ((r.own?.bind (·.decoder)).or (r.shared?.bind (·.decoder))).getD decoder.name
          contract :=
            ((r.own?.bind (·.contract)).or (r.shared?.bind (·.contract))).getD contract.name
          errorDecoder :=
            (r.ranked (r.own?.bind (·.errorDecoder)) (r.shared?.bind (·.errorDecoder))
              (((r.chain.find? .errorDecoder).map (·.name)).or
                ((r.chain.find? .errorDecoderFactory).map (·.name)))).getD
                  "default-error-decoder"
          queryMapEncoder :=
            ((r.chain.find? .queryMapEncoder).map (·.name)).getD "field-query-map-encoder"
          interceptors :=
            (r.chain.lookupAll true .interceptor).map (·.name) ++
              r.shared?.toList.flatMap interceptorNames ++ r.own?.toList.flatMap interceptorNames
          transport := none } := by
  obtain ⟨base, baseOk, knows, built⟩ := builder_ok inherits eq
  obtain ⟨template, encoder, decoder, contract, templateOk, encoderOk, decoderOk, contractOk,
    rfl⟩ := base_ok baseOk
  refine ⟨template, encoder, decoder, contract, templateOk, encoderOk, decoderOk, contractOk, ?_⟩
  have plain : r.customSettings = [] :=
    customSettings_of_nil (customizers_of_nil inherits scopes declared)
  have retry := retry_eq inherits plain baseOk eq
  -- without a declared layer `ranked` is `or`, so one lemma covers all that is told by a name
  have encoder' := encoder_eq inherits plain baseOk eq
  have decoder' := decoder_eq inherits plain baseOk eq
  have contract' := contract_eq inherits plain baseOk eq
  rw [← ranked_none] at encoder' decoder' contract'
  simp only [Builder.effective, Builder.interceptors, EffectiveConfiguration.mk.injEq]
  refine ⟨?_, ?_, ?_, ?_, ?_, ?_, ?_, ?_, ?_, ?_, ?_, ?_, ?_, ?_, ?_, ?_⟩
  · rw [built, Builder.template_setAll]
  · exact loggerLevel_eq inherits plain baseOk eq
  · -- a limit is told in milliseconds and kept in nanoseconds
    rw [connectTimeout_eq inherits plain baseOk eq, apply_ranked Duration.clampedMillis]
    simp only [Option.map_map, Function.comp_def, clampedMillis_ofMillis]
    rfl
  · rw [readTimeout_eq inherits plain baseOk eq, apply_ranked Duration.clampedMillis]
    simp only [Option.map_map, Function.comp_def, clampedMillis_ofMillis]
    rfl
  · exact followRedirects_eq inherits plain baseOk eq
  · rw [retry, name_ranked fun e mem => (knows e mem).retryer]
  · rw [retry, apply_ranked fun c : Component RetryPolicy => c.value.maxAttempts]
    simp [Option.bind_assoc, RetryPolicy.never]
  · rw [decode404_eq inherits plain baseOk eq, Bool.or_false]
  · exact exceptionPolicy_eq inherits plain baseOk eq
  · rw [encoder', name_ranked fun e mem => (knows e mem).encoder, Option.map_none, ranked_none]
  · rw [decoder', name_ranked fun e mem => (knows e mem).decoder, Option.map_none, ranked_none]
  · rw [contract', name_ranked fun e mem => (knows e mem).contract, Option.map_none, ranked_none]
  · rw [errorDecoder_eq inherits plain baseOk eq,
      name_ranked fun e mem => (knows e mem).errorDecoder, name_declaredErrorDecoder]
  · rw [queryMapEncoder_eq inherits plain baseOk eq]
    cases r.chain.find? .queryMapEncoder <;> rfl
  · rw [List.map_append, scopeInterceptors_eq inherits plain baseOk eq rfl,
      addedInterceptors_eq inherits plain baseOk eq rfl, List.append_assoc]
  · rw [transport_eq inherits plain baseOk eq]
    rfl

/-- A client whose scope and both entries tell something, declarations coming first. -/
def layered : Resolution where
  chain := ⟨⟨"users", [Kind.entry .loggerLevel "own" LoggerLevel.full]⟩,
    [⟨"application", defaultConfiguration .plain⟩]⟩
  catalog := builtins
  properties :=
    { defaultToProperties := false
      config := [("default", { loggerLevel := some .basic, readMillis := some 300 }),
        ("users", { loggerLevel := some .headers, connectMillis := some 200 })] }
  descriptor := { clientType := ⟨"UsersClient", .interface⟩, name := "users", contextId := "users" }

/-- The first layer that tells anything counts in each field. -/
theorem layered_effective : ∃ b, layered.builder = .ok b ∧ b.effective.loggerLevel = .full ∧
    b.effective.connectMillis = 200 ∧ b.effective.readMillis = 300 := by
  have noCustomizers : layered.chain.lookupAll true .customizer = [] := by
    have nothing : layered.chain.findAll .customizer = [] := rfl
    rw [Chain.lookupAll, if_pos rfl, nothing, List.mergeSort_nil]
  have made : ∃ b, layered.builder = .ok b := ⟨_, rfl⟩
  obtain ⟨b, eq⟩ := made
  obtain ⟨template, encoder, decoder, contract, -, -, -, -, law⟩ :=
    effective_eq_ranked (by decide) noCustomizers rfl eq
  refine ⟨b, eq, ?_, ?_, ?_⟩
  · exact congrArg (·.loggerLevel) law
  · exact congrArg (·.connectMillis) law
  · exact congrArg (·.readMillis) law

end ServiceClient.Resolution
