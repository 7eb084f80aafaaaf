import ServiceClient.Proofs.Factory.Interceptors

/-!
# What a client demands

Every client needs some kinds of components, and one that takes over what is configured outside also
needs each component that its entries name. `Asks` says of a step which components it asks for, one
after the other. `builder_error_iff` puts the steps together: a client is not configured exactly
when a demand is not met, and the first such demand is told. Neither the mode nor a later setting of
the same aspect counts for this.
-/

namespace ServiceClient

namespace Catalog

variable {κ : Type} [DecidableEq κ] {β : κ → Type}

/-- A catalog holds a component of a kind under a name. -/
def Holds (c : Catalog β) (k : κ) (n : String) : Prop :=
  ∃ e ∈ c.entries, e.kind = k ∧ e.name = n

instance (c : Catalog β) (k : κ) (n : String) : Decidable (c.Holds k n) :=
  inferInstanceAs (Decidable (∃ e ∈ c.entries, e.kind = k ∧ e.name = n))

/-- A component can be made exactly when the catalog holds it. -/
lemma instantiate?_isSome {c : Catalog β} {k : κ} {n : String} :
    (c.instantiate? k n).isSome ↔ c.Holds k n := by
  have found : (c.entries.find? (·.isAt k n)).isSome ↔ c.Holds k n := by
    simp [List.find?_isSome, Entry.isAt, Holds]
  rw [← found, instantiate?]
  cases eq : c.entries.find? (·.isAt k n) with
  | none => rfl
  | some e =>
    have here := List.find?_some eq
    simp only [Entry.isAt, Bool.and_eq_true, decide_eq_true_eq] at here
    exact iff_of_true (Entry.ofKind?_isSome.2 here.1) rfl

end Catalog

/-- A component without which a client is not configured. -/
inductive Demand where
  /-- One of a kind, under whatever name. -/
  | ofKind (kind : Kind) (label : String)
  /-- One of a kind and a name. -/
  | named (kind : Kind) (name : String)

namespace Demand

/-- How the component is called when it is missing. -/
def label : Demand → String
  | ofKind _ label => label
  | named _ name => name

/-- What every client needs. -/
def ofClient : List Demand :=
  [.ofKind .builderTemplate "BuilderTemplate", .ofKind .encoder "Encoder",
    .ofKind .decoder "Decoder", .ofKind .contract "Contract"]

/-- The components that an entry names. -/
def ofEntry (e : PropertyEntry) : List Demand :=
  e.retryer.toList.map (.named .retryPolicy) ++ e.errorDecoder.toList.map (.named .errorDecoder) ++
    e.interceptors.map (.named .interceptor) ++ e.encoder.toList.map (.named .encoder) ++
    e.decoder.toList.map (.named .decoder) ++ e.contract.toList.map (.named .contract)

end Demand

namespace Resolution

variable (r : Resolution)

/-- A demand is met by the scopes or, if it is for a name, by the catalog. A component of another
kind under the name does not count in either. -/
def Meets : Demand → Prop
  | .ofKind k _ => r.chain.Holds k
  | .named k n => r.chain.HoldsNamed k n ∨ r.catalog.Holds k n

instance : DecidablePred r.Meets
  | .ofKind k _ => inferInstanceAs (Decidable (r.chain.Holds k))
  | .named k n => inferInstanceAs (Decidable (r.chain.HoldsNamed k n ∨ r.catalog.Holds k n))

/-- The error for a demand that is not met. -/
def lack (d : Demand) : FactoryError :=
  .missingComponent d.label r.descriptor.contextId

/-- The first of several demands that is not met. -/
def unmet? (ds : List Demand) : Option Demand :=
  ds.find? fun d => ¬r.Meets d

/-- All that is demanded for the client: what every client needs, what the entry for all clients
names, and what its own entry names. -/
def demands : List Demand :=
  Demand.ofClient ++
    if r.inherits then
      r.shared?.toList.flatMap Demand.ofEntry ++ r.own?.toList.flatMap Demand.ofEntry
    else []

/-- A step asks for several components, one after the other: it fails when one of them is missing,
and tells the first one. -/
def Asks {α : Type} (x : Except FactoryError α) (ds : List Demand) : Prop :=
  ∀ e, x = .error e ↔ (r.unmet? ds).map r.lack = some e

variable {r}

lemma mem_demands {d : Demand} : d ∈ r.demands ↔ d ∈ Demand.ofClient ∨ r.inherits = true ∧
    ∃ entry, (r.shared? = some entry ∨ r.own? = some entry) ∧ d ∈ Demand.ofEntry entry := by
  rw [demands, List.mem_append]
  refine or_congr_right ?_
  cases r.inherits <;> simp [or_and_right, exists_or]

lemma unmet?_append (ds es : List Demand) :
    r.unmet? (ds ++ es) = (r.unmet? ds).or (r.unmet? es) :=
  List.find?_append

lemma unmet?_singleton (d : Demand) : r.unmet? [d] = if r.Meets d then none else some d := by
  by_cases met : r.Meets d <;> simp [unmet?, met]

/-- The first demand that is not met stands behind demands that are. -/
lemma unmet?_eq_some {ds : List Demand} {d : Demand} :
    r.unmet? ds = some d ↔ ∃ before after, ds = before ++ d :: after ∧
      (∀ d' ∈ before, r.Meets d') ∧ ¬r.Meets d := by
  simp only [unmet?, List.find?_eq_some_iff_append, decide_not, Bool.not_eq_eq_eq_not, Bool.not_true,
    decide_eq_false_iff_not, Bool.not_false, decide_eq_true_eq]
  constructor
  · rintro ⟨lacking, before, after, split, met⟩
    exact ⟨before, after, split, met, lacking⟩
  · rintro ⟨before, after, split, met, lacking⟩
    exact ⟨lacking, before, after, split, met⟩

/-- There is one as soon as some demand is not met. -/
lemma unmet?_isSome {ds : List Demand} : (r.unmet? ds).isSome ↔ ∃ d ∈ ds, ¬r.Meets d := by
  simp [unmet?, List.find?_isSome]

namespace Asks

section

variable {α β : Type} {x : Except FactoryError α} {ds es : List Demand}

/-- A step that asks for nothing succeeds. -/
lemma ok (a : α) : r.Asks (.ok a) [] := by
  intro e
  simp [unmet?]

/-- What a step asks for comes before what the next one asks for. -/
lemma bind {f : α → Except FactoryError β} (first : r.Asks x ds) (next : ∀ a, r.Asks (f a) es) :
    r.Asks (x >>= f) (ds ++ es) := by
  intro e
  rw [unmet?_append, Option.map_or]
  cases x with
  | error e' =>
    rw [(first e').1 rfl, Option.some_or, Option.some_inj]
    exact ⟨Except.error.inj, congrArg _⟩
  | ok a =>
    have met : (r.unmet? ds).map r.lack = none := by
      rw [Option.eq_none_iff_forall_ne_some]
      intro e' lacks
      cases (first e').2 lacks
    rw [met, Option.none_or]
    exact next a e

/-- A change of the result asks for nothing more. -/
lemma map (asks : r.Asks x ds) (f : α → β) : r.Asks (x.map f) ds := by
  intro e
  rw [← asks e]
  cases x <;> simp [Except.map]

end

/-- A component that every client needs is asked for by its kind. -/
lemma required (k : Kind) (label : String) : r.Asks (r.required k label) [.ofKind k label] := by
  intro e
  have found : (r.chain.find? k).isSome ↔ r.Meets (.ofKind k label) := Chain.find?_isSome
  rw [unmet?_singleton, Resolution.required]
  cases eq : r.chain.find? k with
  | some c =>
    rw [eq] at found
    simp [found.1 rfl]
  | none =>
    rw [eq] at found
    have lacking : ¬r.Meets (.ofKind k label) := fun met => Bool.false_ne_true (found.2 met)
    simp [lacking, lack, Demand.label]

/-- A component that is told by its name is asked for by its kind and name. -/
lemma named (k : Kind) (name : String) : r.Asks (r.named k name) [.named k name] := by
  intro e
  have inScopes := Chain.exists_findNamed_ok (c := r.chain) (k := k) (n := name)
  have inCatalog := Catalog.instantiate?_isSome (c := r.catalog) (k := k) (n := name)
  rw [unmet?_singleton, Resolution.named]
  cases found : r.chain.findNamed k name with
  | ok c =>
    have met : r.Meets (.named k name) := .inl (inScopes.1 ⟨c, found⟩)
    simp [met]
  | error miss =>
    -- whatever the reason is, the catalog is asked next
    have outside : ¬r.chain.HoldsNamed k name := by
      rw [← inScopes, found]
      exact nofun
    cases made : r.catalog.instantiate? k name with
    | some c =>
      have met : r.Meets (.named k name) := .inr (inCatalog.1 (by rw [made]; rfl))
      simp [met]
    | none =>
      have lacking : ¬r.Meets (.named k name) := by
        rintro (inside | known)
        · exact outside inside
        · rw [← inCatalog, made] at known
          cases known
      simp [lacking, lack, Demand.label]

lemma namedSetting {k : Kind} (f : Component k.Value → Setting) (o : Option String) :
    r.Asks (r.namedSetting k f o) (o.toList.map (.named k)) := by
  cases o with
  | none => exact .ok []
  | some name => exact (Asks.named k name).map _

lemma namedInterceptors (names : List String) :
    r.Asks (r.namedInterceptors names) (names.map (.named .interceptor)) := by
  induction names with
  | nil => exact .ok []
  | cons name names ih =>
    have step : r.namedInterceptors (name :: names) = r.named .interceptor name >>= fun c =>
        (r.namedInterceptors names).map (.interceptor c :: ·) := by
      rw [Resolution.namedInterceptors]
      cases r.named .interceptor name <;> rfl
    rw [step]
    exact (Asks.named .interceptor name).bind fun c => ih.map _

/-- An entry asks for the components that it names. -/
lemma entrySettings (e : PropertyEntry) : r.Asks (r.entrySettings e) (Demand.ofEntry e) := by
  have first : r.Asks (r.firstSettings e) (e.retryer.toList.map (.named .retryPolicy) ++
      (e.errorDecoder.toList.map (.named .errorDecoder) ++
        (e.interceptors.map (.named .interceptor) ++
          (e.encoder.toList.map (.named .encoder) ++ [])))) :=
    (namedSetting _ _).bind fun _ => (namedSetting _ _).bind fun _ =>
      (namedInterceptors _).bind fun _ => (namedSetting _ _).bind fun _ => .ok _
  have last : r.Asks (r.lastSettings e) (e.decoder.toList.map (.named .decoder) ++
      (e.contract.toList.map (.named .contract) ++ [])) :=
    (namedSetting _ _).bind fun _ => (namedSetting _ _).bind fun _ => .ok _
  have both : r.Asks (r.entrySettings e) _ := first.bind fun _ => last.bind fun _ => .ok _
  simpa [Demand.ofEntry] using both

lemma entriesSettings (es : List PropertyEntry) :
    r.Asks (r.entriesSettings es) (es.flatMap Demand.ofEntry) := by
  induction es with
  | nil => exact .ok []
  | cons e es ih =>
    have both : r.Asks (r.entriesSettings (e :: es)) _ :=
      (entrySettings e).bind fun _ => ih.bind fun _ => .ok _
    rwa [List.append_nil, ← List.flatMap_cons] at both

/-- A builder is begun with what every client needs. -/
lemma base : r.Asks r.base Demand.ofClient :=
  (required _ _).bind fun _ => (required _ _).bind fun _ => (required _ _).bind fun _ =>
    (required _ _).bind fun _ => .ok _

/-- Entries are asked for only when they count, and in the same order in both modes. -/
lemma settings : r.Asks r.settings (if r.inherits then r.entries.flatMap Demand.ofEntry else []) := by
  unfold Resolution.settings
  split
  · have told := (entriesSettings (r := r) r.entries).bind fun told =>
      Asks.ok (if r.properties.defaultToProperties then r.declaredSettings true ++ told
        else told ++ r.declaredSettings true)
    rwa [List.append_nil] at told
  · exact .ok _

variable (r) in
/-- The builder of a client is asked for all that is demanded. -/
lemma builder : r.Asks r.builder r.demands := by
  have draft : r.Asks r.draft _ := base.bind fun _ => settings.bind fun _ => .ok _
  rw [List.append_nil, entries, List.flatMap_append] at draft
  exact draft.map _

end Asks

/-- A client is not configured exactly when every client needs a component of a kind that its scopes
do not hold, or when it takes over what is configured outside and the entry for all clients or its
own one names a component that is known neither to its scopes nor to the catalog under the kind that
is asked for, whether a later setting would replace it or not. The error tells the first such
component, and it is the same when entries count more than declarations and when they count less. -/
theorem builder_error_iff (r : Resolution) :
    ((∃ e, r.builder = .error e) ↔
      (∃ d ∈ Demand.ofClient, ¬r.Meets d) ∨
      r.inherits = true ∧ ∃ entry, (r.shared? = some entry ∨ r.own? = some entry) ∧
        ∃ d ∈ Demand.ofEntry entry, ¬r.Meets d) ∧
    (∀ e, r.builder = .error e ↔ ∃ before d after, r.demands = before ++ d :: after ∧
      (∀ d' ∈ before, r.Meets d') ∧ ¬r.Meets d ∧
      e = .missingComponent d.label r.descriptor.contextId) ∧
    ∀ mode e, (r.withMode mode).builder = .error e ↔ r.builder = .error e := by
  have asks := Asks.builder r
  refine ⟨?_, fun e => ?_, fun mode e => ?_⟩
  · have some : (∃ e, r.builder = .error e) ↔ ∃ d ∈ r.demands, ¬r.Meets d := by
      simp only [asks _, ← Option.isSome_iff_exists, Option.isSome_map, unmet?_isSome]
    simp only [some, mem_demands]
    constructor
    · rintro ⟨d, mem | ⟨inherits, entry, told, mem⟩, lacking⟩
      · exact .inl ⟨d, mem, lacking⟩
      · exact .inr ⟨inherits, entry, told, d, mem, lacking⟩
    · rintro (⟨d, mem, lacking⟩ | ⟨inherits, entry, told, d, mem, lacking⟩)
      · exact ⟨d, .inl mem, lacking⟩
      · exact ⟨d, .inr ⟨inherits, entry, told, mem⟩, lacking⟩
  · rw [asks e, Option.map_eq_some_iff]
    simp only [unmet?_eq_some, lack, eq_comm (b := e)]
    constructor
    · rintro ⟨d, ⟨before, after, split, met, lacking⟩, eq⟩
      exact ⟨before, d, after, split, met, lacking, eq⟩
    · rintro ⟨before, d, after, split, met, lacking, eq⟩
      exact ⟨d, ⟨before, after, split, met, lacking⟩, eq⟩
  · -- the mode occurs neither in the demands nor in what meets them
    rw [asks e]
    exact Asks.builder (r.withMode mode) e

end Resolution
end ServiceClient
