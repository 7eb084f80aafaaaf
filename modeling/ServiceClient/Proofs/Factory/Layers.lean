import ServiceClient.Factory.Resolution
import ServiceClient.Proofs.Scope.Lookup
import ServiceClient.Proofs.Steps

/-!
# Layers of settings

When a resolution succeeds, every component that its entries name is known. The settings of an entry
are then a plain list, `toldBy`, and those of the client are such lists one behind the other:
`builder_ok` says in which order.
-/

namespace ServiceClient

namespace Resolution

variable (r : Resolution)

/-- The component of a kind and a name, if it is known. -/
def known? (k : Kind) (name : String) : Option (Component k.Value) :=
  (r.named k name).toOption

/-- What an entry tells, one setting after the other. -/
def toldBy (e : PropertyEntry) : List Setting :=
  (e.loggerLevel.map .loggerLevel).toList ++
    [.limits (e.connectMillis.map UInt64.toNat) (e.readMillis.map UInt64.toNat)
      e.followRedirects] ++
    ((e.retryer.bind (r.known? .retryPolicy)).map .retry).toList ++
    ((e.errorDecoder.bind (r.known? .errorDecoder)).map .errorDecoder).toList ++
    (e.interceptors.filterMap (r.known? .interceptor)).map .interceptor ++
    (if e.decode404 = some true then [.decode404] else []) ++
    ((e.encoder.bind (r.known? .encoder)).map .encoder).toList ++ valueInterceptors e ++
    (((e.decoder.bind (r.known? .decoder)).map .decoder).toList ++
      ((e.contract.bind (r.known? .contract)).map .contract).toList ++
      (e.exceptionPolicy.map .exceptionPolicy).toList)

/-- The settings of a client before those of its customizers: entries before or behind declarations,
and declarations alone when the client takes over nothing from outside. -/
def uncustomized : List Setting :=
  if r.inherits then
    if r.properties.defaultToProperties then
      r.declaredSettings true ++ r.entries.flatMap r.toldBy
    else r.entries.flatMap r.toldBy ++ r.declaredSettings true
  else r.declaredSettings false

/-- Every component that an entry names is known, and bears the name. -/
structure Knows (e : PropertyEntry) : Prop where
  retryer : (e.retryer.bind (r.known? .retryPolicy)).map (·.name) = e.retryer
  errorDecoder : (e.errorDecoder.bind (r.known? .errorDecoder)).map (·.name) = e.errorDecoder
  interceptors :
    (e.interceptors.filterMap (r.known? .interceptor)).map (·.name) = e.interceptors
  encoder : (e.encoder.bind (r.known? .encoder)).map (·.name) = e.encoder
  decoder : (e.decoder.bind (r.known? .decoder)).map (·.name) = e.decoder
  contract : (e.contract.bind (r.known? .contract)).map (·.name) = e.contract

variable {r}

/-- A component that is told by its name bears it. -/
lemma name_of_named {k : Kind} {name : String} {c : Component k.Value}
    (eq : r.named k name = .ok c) : c.name = name := by
  unfold named at eq
  split at eq
  next found =>
    cases eq
    exact Chain.name_of_findNamed found
  next =>
    split at eq
    · cases eq
      rfl
    · cases eq

/-- A setting that is told by a name needs a known component. -/
lemma namedSetting_ok {k : Kind} {f : Component k.Value → Setting} {o : Option String}
    {l : List Setting} (eq : r.namedSetting k f o = .ok l) :
    l = ((o.bind (r.known? k)).map f).toList ∧ (o.bind (r.known? k)).map (·.name) = o := by
  cases o with
  | none =>
    cases eq
    exact ⟨rfl, rfl⟩
  | some name =>
    obtain ⟨c, found, rfl⟩ := map_ok eq
    simp [known?, found, Except.toOption, name_of_named found]

/-- Interceptors that are told by their names need known components. -/
lemma namedInterceptors_ok {names : List String} {l : List Setting}
    (eq : r.namedInterceptors names = .ok l) :
    l = (names.filterMap (r.known? .interceptor)).map .interceptor ∧
      (names.filterMap (r.known? .interceptor)).map (·.name) = names := by
  induction names generalizing l with
  | nil =>
    cases eq
    exact ⟨rfl, rfl⟩
  | cons name names ih =>
    unfold namedInterceptors at eq
    split at eq
    · cases eq
    next c found =>
      obtain ⟨l', eq', rfl⟩ := map_ok eq
      obtain ⟨rfl, named⟩ := ih eq'
      have here : r.known? .interceptor name = some c := toOption_eq_some.2 found
      simp [here, named, name_of_named found]

/-- An entry has settings only when all that it names is known. -/
lemma entrySettings_ok {e : PropertyEntry} {l : List Setting} (eq : r.entrySettings e = .ok l) :
    l = r.toldBy e ∧ r.Knows e := by
  -- each name is looked up in turn, and each lookup succeeds
  obtain ⟨first, eq₁, eq⟩ := bind_ok eq
  obtain ⟨last, eq₂, eq⟩ := bind_ok eq
  obtain ⟨retry, retryOk, eq₁⟩ := bind_ok eq₁
  obtain ⟨errorDecoder, errorDecoderOk, eq₁⟩ := bind_ok eq₁
  obtain ⟨interceptors, interceptorsOk, eq₁⟩ := bind_ok eq₁
  obtain ⟨encoder, encoderOk, eq₁⟩ := bind_ok eq₁
  obtain ⟨decoder, decoderOk, eq₂⟩ := bind_ok eq₂
  obtain ⟨contract, contractOk, eq₂⟩ := bind_ok eq₂
  obtain ⟨rfl, retryer⟩ := namedSetting_ok retryOk
  obtain ⟨rfl, errorDecoder⟩ := namedSetting_ok errorDecoderOk
  obtain ⟨rfl, interceptors⟩ := namedInterceptors_ok interceptorsOk
  obtain ⟨rfl, encoder⟩ := namedSetting_ok encoderOk
  obtain ⟨rfl, decoder⟩ := namedSetting_ok decoderOk
  obtain ⟨rfl, contract⟩ := namedSetting_ok contractOk
  cases eq₁
  cases eq₂
  cases eq
  exact ⟨rfl, retryer, errorDecoder, interceptors, encoder, decoder, contract⟩

/-- The settings of several entries stand one behind the other. -/
lemma entriesSettings_ok {es : List PropertyEntry} {l : List Setting}
    (eq : r.entriesSettings es = .ok l) : l = es.flatMap r.toldBy ∧ ∀ e ∈ es, r.Knows e := by
  induction es generalizing l with
  | nil =>
    cases eq
    simp
  | cons e es ih =>
    obtain ⟨first, eq₁, eq⟩ := bind_ok eq
    obtain ⟨more, eq₂, eq⟩ := bind_ok eq
    obtain ⟨rfl, here⟩ := entrySettings_ok eq₁
    obtain ⟨rfl, others⟩ := ih eq₂
    cases eq
    refine ⟨by simp, fun e' mem => ?_⟩
    rcases List.mem_cons.1 mem with rfl | mem
    · exact here
    · exact others e' mem

/-- What entries tell depends on nothing but the components that are found by their names. -/
lemma entriesSettings_congr {r' : Resolution} (same : r'.named = r.named)
    (es : List PropertyEntry) : r'.entriesSettings es = r.entriesSettings es := by
  have setting : @namedSetting _ r' = @namedSetting _ r := by
    funext k f o
    cases o with
    | none => rfl
    | some name => simp only [namedSetting, same]
  have interceptors (names : List String) :
      r'.namedInterceptors names = r.namedInterceptors names := by
    induction names with
    | nil => rfl
    | cons name names ih => simp only [namedInterceptors, same, ih]
  induction es with
  | nil => rfl
  | cons e es ih =>
    simp only [entriesSettings, entrySettings, firstSettings, lastSettings, setting, interceptors,
      ih]

/-- The components that every client needs are those that its scopes show. -/
lemma base_ok {b : Builder} (eq : r.base = .ok b) :
    ∃ template encoder decoder contract,
      r.chain.find? .builderTemplate = some template ∧ r.chain.find? .encoder = some encoder ∧
      r.chain.find? .decoder = some decoder ∧ r.chain.find? .contract = some contract ∧
      b = { template := template.value, encoder, decoder, contract } := by
  have found {k name c} (eq : r.required k name = .ok c) : r.chain.find? k = some c := by
    unfold required at eq
    split at eq
    next found =>
      cases eq
      exact found
    next => cases eq
  obtain ⟨template, templateOk, eq⟩ := bind_ok eq
  obtain ⟨encoder, encoderOk, eq⟩ := bind_ok eq
  obtain ⟨decoder, decoderOk, eq⟩ := bind_ok eq
  obtain ⟨contract, contractOk, eq⟩ := bind_ok eq
  cases eq
  exact ⟨template, encoder, decoder, contract, found templateOk, found encoderOk,
    found decoderOk, found contractOk, rfl⟩

/-- The settings of a client that takes over what is configured outside: entries before or behind
declarations. -/
lemma settings_ok {l : List Setting} (inherits : r.inherits = true) (eq : r.settings = .ok l) :
    (∀ e ∈ r.entries, r.Knows e) ∧
      l = if r.properties.defaultToProperties then
          r.declaredSettings true ++ r.entries.flatMap r.toldBy
        else r.entries.flatMap r.toldBy ++ r.declaredSettings true := by
  rw [settings, if_pos inherits] at eq
  obtain ⟨told, toldOk, eq⟩ := bind_ok eq
  obtain ⟨rfl, knows⟩ := entriesSettings_ok toldOk
  cases eq
  exact ⟨knows, rfl⟩

/-- The settings of any other client: entries do not count. -/
lemma settings_of_not_inherits (isolated : r.inherits = false) :
    r.settings = .ok (r.declaredSettings false) := by
  rw [settings, isolated, if_neg Bool.false_ne_true]

/-- In both cases they are those that are told before the customizers. -/
lemma settings_eq {l : List Setting} (eq : r.settings = .ok l) : l = r.uncustomized := by
  unfold uncustomized
  cases inherits : r.inherits with
  | false =>
    rw [settings_of_not_inherits inherits] at eq
    cases eq
    rfl
  | true =>
    obtain ⟨-, rfl⟩ := settings_ok inherits eq
    rfl

/-- Customizers are handed a builder that begins with the components that every client needs. -/
lemma draft_eq {b : Builder} (eq : r.draft = .ok b) :
    ∃ base, r.base = .ok base ∧ r.settings = .ok r.uncustomized ∧
      b = base.setAll r.uncustomized := by
  obtain ⟨base, baseOk, eq⟩ := bind_ok eq
  obtain ⟨l, settingsOk, eq⟩ := bind_ok eq
  obtain rfl := settings_eq settingsOk
  cases eq
  exact ⟨base, baseOk, settingsOk, rfl⟩

/-- The settings of customizers are the last ones. -/
lemma builder_eq {b : Builder} (eq : r.builder = .ok b) : ∃ base, r.base = .ok base ∧
    b = base.setAll (r.uncustomized ++ r.customSettings) := by
  obtain ⟨d, draftOk, rfl⟩ := map_ok eq
  obtain ⟨base, baseOk, -, rfl⟩ := draft_eq draftOk
  refine ⟨base, baseOk, ?_⟩
  rw [customSettings, draftOk, Builder.setAll_append]

/-- The builder of a client that takes over what is configured outside. -/
lemma builder_ok {b : Builder} (inherits : r.inherits = true) (eq : r.builder = .ok b) :
    ∃ base, r.base = .ok base ∧ (∀ e ∈ r.entries, r.Knows e) ∧
      b = base.setAll
        ((if r.properties.defaultToProperties then
            r.declaredSettings true ++ r.entries.flatMap r.toldBy
          else r.entries.flatMap r.toldBy ++ r.declaredSettings true) ++
          r.customSettings) := by
  obtain ⟨base, baseOk, whole⟩ := builder_eq eq
  obtain ⟨d, draftOk, -⟩ := map_ok eq
  obtain ⟨-, -, settingsOk, -⟩ := draft_eq draftOk
  obtain ⟨knows, told⟩ := settings_ok inherits settingsOk
  exact ⟨base, baseOk, knows, told ▸ whole⟩

/-- Without customizers no settings are changed at the end. -/
lemma customSettings_of_nil (none : r.customizers = []) : r.customSettings = [] := by
  rw [customSettings, none]
  cases r.draft <;> rfl

/-- There are none when neither the scopes nor the descriptor have any. -/
lemma customizers_of_nil (inherits : r.inherits = true)
    (scopes : r.chain.lookupAll true .customizer = []) (declared : r.descriptor.customizers = []) :
    r.customizers = [] := by
  rw [customizers, inherits, scopes, declared]
  rfl

end Resolution
end ServiceClient
