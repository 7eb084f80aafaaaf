import ServiceClient.Proofs.Factory.Failure

/-!
# Clients that are registered again

A registration under a context id that is taken replaces the configurations of this context and
drops its scope. Nothing of what there was before can be seen afterwards: `register_again` compares
the factory with a new one in which the context is registered for the first time.
-/

namespace ServiceClient

namespace Contexts

section

variable {κ : Type} {β : κ → Type} {γ : Type} (cs : Contexts β γ)

/-- The configurations under the name of a context itself. -/
def configurationsOf (id : String) : List γ :=
  (cs.configurations.get? id).getD []

/-- A context has certain configurations of its own, and its scope is still to be made. -/
structure Awaits (id : String) (own : List γ) : Prop where
  configurations : cs.configurationsOf id = own
  scope : cs.scopes.get? id = none

/-- New contexts with all that is shared. -/
def anew : Contexts β γ where
  shared := cs.shared
  defaults := cs.defaults
  configurations := cs.configurations.filter (isShared ·.1)
  catalog := cs.catalog

lemma configurationsOf_replaceConfigurations (name id : String) (own : List γ) :
    (cs.replaceConfigurations name own).configurationsOf id =
      if id = name then own else cs.configurationsOf id := by
  unfold configurationsOf replaceConfigurations
  cases own with
  | nil =>
    simp only [List.isEmpty_nil, if_true, Table.get?_drop]
    split <;> rfl
  | cons c own =>
    simp only [List.isEmpty_cons, Bool.false_eq_true, if_false, Table.get?_put]
    split <;> rfl

/-- Replaced configurations wait for a new scope. -/
lemma awaits_replaceConfigurations (id : String) (own : List γ) :
    (cs.replaceConfigurations id own).Awaits id own where
  configurations := by rw [configurationsOf_replaceConfigurations, if_pos rfl]
  scope := by rw [get?_scopes_replaceConfigurations, if_pos rfl]

/-- A configuration that is added for a context without a scope waits for one. -/
lemma addConfiguration_of_missing [Acts β γ] {id : String} (unshared : isShared id = false)
    (missing : cs.scopes.get? id = none) (c : γ) :
    cs.addConfiguration id c =
      { cs with configurations := cs.configurations.put id (cs.configurationsOf id ++ [c]) } := by
  have nowhere : cs.contextIds.filter (concerns id) = [] := by
    refine List.filter_eq_nil_iff.2 fun name known => ?_
    obtain ⟨row, mem, rfl⟩ := List.mem_map.1 known
    have other : id ≠ row.1 := bne_iff_ne.1 (List.lookup_eq_none_iff.1 missing row mem)
    simpa [concerns, unshared] using other.symm
  rw [addConfiguration, concerned, nowhere]
  rfl

/-- So do several. -/
lemma addAll_of_missing [Acts β γ] {id : String} (unshared : isShared id = false)
    (missing : cs.scopes.get? id = none) (l : List γ) :
    cs.addAll (l.map (id, ·)) =
      if l.isEmpty then cs
      else
        { cs with configurations := cs.configurations.put id (cs.configurationsOf id ++ l) } := by
  induction l generalizing cs with
  | nil => rfl
  | cons c l ih =>
    have first := cs.addConfiguration_of_missing unshared missing c
    have rest := ih (cs.addConfiguration id c) (first ▸ missing)
    refine rest.trans ?_
    rw [first]
    cases l with
    | nil => rfl
    | cons d l => simp [configurationsOf, Table.put_put]

/-- To replace configurations is to drop what there was of them, and to add the new ones. -/
lemma addAll_replaceConfigurations [Acts β γ] (ordered : cs.configurations.Ordered) {id : String}
    (unshared : isShared id = false) (own : List γ) :
    (cs.replaceConfigurations id []).addAll (own.map (id, ·)) =
      cs.replaceConfigurations id own := by
  have missing : (cs.replaceConfigurations id []).scopes.get? id = none := by
    rw [get?_scopes_replaceConfigurations, if_pos rfl]
  have nothing : (cs.replaceConfigurations id []).configurationsOf id = [] := by
    rw [configurationsOf_replaceConfigurations, if_pos rfl]
  rw [addAll_of_missing _ unshared missing, nothing]
  cases own with
  | nil => rfl
  | cons c own => simp [replaceConfigurations, ordered.put_drop]

/-- In new contexts only what is shared is left for a context. -/
lemma configurationsFor_anew {id : String} (own : isShared id = false) :
    cs.anew.configurationsFor id =
      cs.defaults ++ (cs.configurations.filter (isShared ·.1)).flatMap (·.2) := by
  have none : Table.get? (cs.configurations.filter (isShared ·.1)) id = none := by
    rw [Table.get?_filter, if_neg (by simp [own])]
  simp only [configurationsFor, anew, none, List.filter_filter, Bool.and_self, Option.getD_none,
    List.append_nil]

variable {cs}

/-- A context goes on waiting when the configurations of another one are replaced. -/
lemma Awaits.replaceConfigurations {id name : String} {own : List γ}
    (awaits : cs.Awaits id own) (ne : id ≠ name) (others : List γ) :
    (cs.replaceConfigurations name others).Awaits id own where
  configurations := by
    rw [configurationsOf_replaceConfigurations, if_neg ne, awaits.configurations]
  scope := by rw [get?_scopes_replaceConfigurations, if_neg ne, awaits.scope]

end

variable {κ : Type} {β : κ → Type} {γ : Type} [Acts β γ]

namespace Awaits

variable {cs : Contexts β γ} {id : String} {own : List γ}

/-- A context goes on waiting when a configuration is added under another name. -/
lemma addConfiguration (awaits : cs.Awaits id own) {name : String} (ne : id ≠ name) {c : γ}
    (alone : Acts.Alone β c) : (cs.addConfiguration name c).Awaits id own := by
  obtain ⟨scopes, eq, found⟩ := addConfiguration_of_alone alone cs name
  rw [eq]
  refine ⟨?_, (found id).trans ?_⟩
  · rw [← awaits.configurations, configurationsOf, Table.get?_put, if_neg ne, configurationsOf]
  · rw [awaits.scope, Option.map_none]

lemma addAll (awaits : cs.Awaits id own) {additions : List (String × γ)}
    (apart : ∀ a ∈ additions, id ≠ a.1) (alone : ∀ a ∈ additions, Acts.Alone β a.2) :
    (cs.addAll additions).Awaits id own := by
  induction additions generalizing cs with
  | nil => exact awaits
  | cons a additions ih =>
    obtain ⟨ne, apart⟩ := List.forall_mem_cons.1 apart
    obtain ⟨here, alone⟩ := List.forall_mem_cons.1 alone
    exact ih (awaits.addConfiguration ne here) apart alone

/-- A context goes on waiting when the scope of another one is taken into use. -/
lemma taking (awaits : cs.Awaits id own) {use : Option String} (ne : use ≠ some id)
    (all : cs.AllAlone) : (cs.taking use).Awaits id own := by
  obtain ⟨scopes, eq, found⟩ := taking_of_keeps fun name (_ : use = some name) => all.keeps
  rw [eq]
  refine ⟨awaits.configurations, (found id).trans ?_⟩
  rw [if_neg ne, awaits.scope]

/-- The scope will be as in new contexts to which only these configurations are added. -/
lemma anew (awaits : cs.Awaits id own) (unshared : isShared id = false) (all : cs.AllAlone) :
    (cs.anew.addAll (own.map (id, ·))).chain id = cs.chain id ∧
      ((cs.anew.addAll (own.map (id, ·))).ensure id).catalog = (cs.ensure id).catalog := by
  have alone : ∀ c ∈ own, Acts.Alone β c := by
    intro c mem
    rw [← awaits.configurations] at mem
    exact all.of_mem c (List.mem_append_right _ mem)
  have configurations : (cs.anew.addAll (own.map (id, ·))).configurationsFor id =
      cs.configurationsFor id := by
    rw [configurationsFor_addAll _ unshared alone, configurationsFor_anew _ unshared,
      ← awaits.configurations]
    rfl
  have keeps : ∀ c ∈ (cs.anew.addAll (own.map (id, ·))).configurationsFor id, Acts.Keeps β c :=
    configurations ▸ all.keeps
  have added := cs.anew.addAll_of_missing unshared rfl own
  have shared : (cs.anew.addAll (own.map (id, ·))).shared = cs.shared := by
    rw [added]
    split <;> rfl
  have missing : (cs.anew.addAll (own.map (id, ·))).scopes.get? id = none := by
    rw [added]
    split <;> rfl
  have catalog : (cs.anew.addAll (own.map (id, ·))).catalog = cs.catalog := by
    rw [added]
    split <;> rfl
  constructor
  · rw [chain_of_keeps keeps, chain_of_keeps all.keeps, scopeOf_of_keeps keeps,
      scopeOf_of_keeps all.keeps, missing, awaits.scope, shared,
      fresh_congr all.of_mem shared configurations]
  · rw [catalog_of_keeps keeps, catalog_of_keeps all.keeps, catalog]

end Awaits
end Contexts

namespace Factory

section

variable {γ τ : Type}

/-- A new factory with all that is shared by clients. -/
def anew (f : Factory γ τ) : Factory γ τ where
  contexts := f.contexts.anew
  properties := f.properties
  placeholders := f.placeholders

/-- A factory without all that it has of a context: its descriptor, its configurations, its scope
and its client. -/
def forget (f : Factory γ τ) (id : String) : Factory γ τ :=
  { f with
    contexts := f.contexts.replaceConfigurations id []
    descriptors := f.descriptors.drop id
    clients := f.clients.drop id }

variable [Acts Kind.Value γ] {f : Factory γ τ}

/-- The configurations of a descriptor are taken over beside others that act alone. -/
lemma allAlone_configured {d : Descriptor γ} (all : f.contexts.AllAlone)
    (alone : ∀ c ∈ d.configurations, Acts.Alone Kind.Value c) : (f.configured d).AllAlone := by
  rw [configured_eq]
  split
  · exact all.replaceConfigurations alone
  · refine all.addAll fun a mem => ?_
    obtain ⟨c, own, rfl⟩ := List.mem_map.1 mem
    exact alone c own

/-- A registration of another client leaves a context waiting. -/
lemma awaits_configured {id : String} {own : List γ} {d : Descriptor γ}
    (awaits : f.contexts.Awaits id own) (ne : id ≠ d.contextId)
    (alone : ∀ c ∈ d.configurations, Acts.Alone Kind.Value c) :
    (f.configured d).Awaits id own := by
  rw [configured_eq]
  split
  · exact awaits.replaceConfigurations ne d.configurations
  · refine awaits.addAll (fun a mem => ?_) fun a mem => ?_
    · obtain ⟨c, -, rfl⟩ := List.mem_map.1 mem
      exact ne
    · obtain ⟨c, own, rfl⟩ := List.mem_map.1 mem
      exact alone c own

variable [Reporting γ]

/-- A context waits for its new scope after it was registered again. -/
lemma awaits_register {declaration : Declaration γ} {d : Descriptor γ}
    (registered : (f.register declaration).value = .ok d)
    (again : (f.descriptor? d.contextId).isSome) :
    (f.register declaration).factory.contexts.Awaits d.contextId d.configurations := by
  rw [register_value] at registered
  simp only [register, registered]
  rw [configured_eq, if_pos again]
  exact f.contexts.awaits_replaceConfigurations d.contextId d.configurations

/-- A new factory takes over the configurations of the client that is registered first. -/
lemma contexts_register_anew {declaration : Declaration γ} {d : Descriptor γ}
    (described : declaration.describe f.placeholders = .ok d) :
    (f.anew.register declaration).factory.contexts =
      f.contexts.anew.addAll (d.configurations.map (d.contextId, ·)) := by
  rw [Declaration.configurations_of_describe described]
  exact contexts_register (Declaration.contextId?_eq_some.2 ⟨d, described, rfl⟩) rfl

/-- To register a client again is to forget its context, and to register it for the first time. -/
lemma register_forget {declaration : Declaration γ} {d : Descriptor γ}
    (registered : (f.register declaration).value = .ok d)
    (again : (f.descriptor? d.contextId).isSome) (unshared : Contexts.isShared d.contextId = false)
    (descriptors : f.descriptors.Ordered) (configurations : f.contexts.configurations.Ordered) :
    ((f.forget d.contextId).register declaration).factory = (f.register declaration).factory := by
  have new : (f.forget d.contextId).descriptor? d.contextId = none :=
    (Table.get?_drop _ _ _).trans (if_pos rfl)
  obtain ⟨old, known⟩ := Option.isSome_iff_exists.1 again
  have contexts : (f.forget d.contextId).configured d = f.configured d := by
    rw [configured_eq, new, configured_eq, if_pos again]
    exact f.contexts.addAll_replaceConfigurations configurations unshared d.configurations
  have clients : (f.forget d.contextId).clientsBeside d = f.clientsBeside d := by
    rw [clientsBeside, clientsBeside, ← descriptor?, ← descriptor?, new, known]
    rfl
  have descriptors : (f.forget d.contextId).descriptors.put d.contextId d =
      f.descriptors.put d.contextId d := descriptors.put_drop _ _
  have described : declaration.describe f.placeholders = .ok d := by
    rw [← register_value, registered]
  have described' : declaration.describe (f.forget d.contextId).placeholders = .ok d := described
  simp only [register, described, described', contexts, clients, descriptors]
  rfl

variable [Capability τ]

/-- The factories to which operations lead that neither register anything under a context id nor
take its scope into use, and that bring no configurations but those that act alone. -/
inductive Unused (id : String) (s : Factory γ τ) : Factory γ τ → Prop where
  | here : Unused id s s
  | step {f : Factory γ τ} (op) : Unused id s f → op.registers? f.placeholders ≠ some id →
      f.takes? op ≠ some id → (∀ a ∈ op.additions f.placeholders, Acts.Alone Kind.Value a.2) →
      Unused id s (f.step op).2

/-- The client of a context is in one factory as it is in another one, from its next use on. -/
structure Renewed (id : String) (g f : Factory γ τ) : Prop where
  missing : f.contexts.scopes.get? id = none
  scope : f.contexts.scopeOf id = g.contexts.scopeOf id
  resolved : (f.resolve id).value = (g.resolve id).value
  used : ∀ op, f.takes? op = some id →
    (f.step op).2.contexts.scopes.get? id = some (g.contexts.scopeOf id) ∧
      ((f.step op).2.resolve id).value = (g.resolve id).value

lemma Unused.since {id : String} {s : Factory γ τ} (unused : Unused id s f) : Since id s f := by
  induction unused with
  | here => exact .here
  | step op _ other _ _ ih => exact .step op ih other

/-- A context goes on waiting through every operation that does not use its scope. -/
lemma awaits_step {id : String} {own : List γ} {op : Operation γ τ}
    (awaits : f.contexts.Awaits id own) (all : f.contexts.AllAlone)
    (unshared : Contexts.isShared id = false) (other : op.registers? f.placeholders ≠ some id)
    (unused : f.takes? op ≠ some id)
    (alone : ∀ a ∈ op.additions f.placeholders, Acts.Alone Kind.Value a.2) :
    (f.step op).2.contexts.Awaits id own ∧ (f.step op).2.contexts.AllAlone := by
  cases op with
  | register declaration =>
    show (f.register declaration).factory.contexts.Awaits id own ∧
      (f.register declaration).factory.contexts.AllAlone
    simp only [Operation.additions] at alone
    unfold register
    cases described : declaration.describe f.placeholders with
    | error e => exact ⟨awaits, all⟩
    | ok d =>
      rw [described] at alone
      have brought : ∀ c ∈ d.configurations, Acts.Alone Kind.Value c :=
        fun c mem => alone (d.contextId, c) (List.mem_map.2 ⟨c, mem, rfl⟩)
      refine ⟨awaits_configured awaits (fun eq => other ?_) brought,
        allAlone_configured all brought⟩
      exact Declaration.contextId?_eq_some.2 ⟨d, described, eq.symm⟩
  | registerDefault name c =>
    have here := alone _ (List.mem_singleton_self _)
    refine ⟨awaits.addConfiguration (fun eq => ?_) here, all.addConfiguration here⟩
    rw [eq, Contexts.isShared_default] at unshared
    cases unshared
  | _ =>
    rw [contexts_step]
    · exact ⟨awaits.taking unused all, all.taking _⟩
    · intro _ _ eq
      cases eq

/-- It waits as long as its scope is not used. -/
lemma Unused.awaits {id : String} {s : Factory γ τ} {own : List γ} (unused : Unused id s f)
    (unshared : Contexts.isShared id = false) (awaits : s.contexts.Awaits id own)
    (all : s.contexts.AllAlone) : f.contexts.Awaits id own ∧ f.contexts.AllAlone := by
  induction unused with
  | here => exact ⟨awaits, all⟩
  | step op _ other unused alone ih => exact awaits_step ih.1 ih.2 unshared other unused alone

/-- Taking the scope of a client into use does not change the configuration of this client. -/
lemma resolve_step {op : Operation γ τ} {d : Descriptor γ} (used : f.takes? op = some d.contextId)
    (registered : f.descriptor? d.contextId = some d) :
    ((f.step op).2.resolve d.contextId).value = (f.resolve d.contextId).value := by
  have other : op.registers? f.placeholders ≠ some d.contextId := by
    cases op with
    | register => cases used
    | _ => exact fun eq => nomatch eq
  refine resolve_value_congr registered ((descriptor?_step other).trans registered) ?_ ?_
    (properties_step op)
  · rw [contexts_step_of_takes? used, Contexts.chain_ensure]
  · rw [contexts_step_of_takes? used, Contexts.ensure_ensure]

/-- When a client is registered that was registered before, this leaves no trace of what was
registered for its context: all is as if the context were forgotten and then registered for the
first time, whatever its configurations do. When from then on all configurations act alone, it is
even as in a new factory in which only the new declaration was registered for the context: from its
next use on the scope holds the same entries in the same order, and the configuration is the
same. -/
theorem register_again {declaration : Declaration γ} {d : Descriptor γ}
    (registered : (f.register declaration).value = .ok d)
    (again : (f.descriptor? d.contextId).isSome)
    (unshared : Contexts.isShared d.contextId = false) :
    (f.descriptors.Ordered → f.contexts.configurations.Ordered →
      (f.register declaration).factory =
        ((f.forget d.contextId).register declaration).factory) ∧
    ((f.register declaration).factory.contexts.AllAlone →
      ∀ h, Unused d.contextId (f.register declaration).factory h →
        Renewed d.contextId (h.anew.register declaration).factory h) := by
  refine ⟨fun descriptors configurations => ?_, fun all h unused => ?_⟩
  · exact (register_forget registered again unshared descriptors configurations).symm
  obtain ⟨awaits, all⟩ := unused.awaits unshared (awaits_register registered again) all
  have known : h.descriptor? d.contextId = some d :=
    unused.since.descriptor?_eq.trans (register_ok registered).2
  -- the declaration is described in the new factory as it was
  have placeholders : h.placeholders = f.placeholders :=
    unused.since.placeholders_eq.trans (placeholders_step (.register declaration))
  have described : declaration.describe h.placeholders = .ok d := by
    rw [placeholders, ← register_value, registered]
  have known' : (h.anew.register declaration).factory.descriptor? d.contextId = some d :=
    (register_ok ((h.anew.register_value declaration).trans described)).2
  obtain ⟨chain, catalog⟩ := awaits.anew unshared all
  rw [← contexts_register_anew described] at chain catalog
  have scope : h.contexts.scopeOf d.contextId =
      (h.anew.register declaration).factory.contexts.scopeOf d.contextId :=
    congrArg Chain.nearest chain.symm
  have resolved : (h.resolve d.contextId).value =
      ((h.anew.register declaration).factory.resolve d.contextId).value :=
    resolve_value_congr known' known chain.symm catalog.symm
      (properties_step (f := h.anew) (.register declaration)).symm
  refine ⟨awaits.scope, scope, resolved, fun op used => ⟨?_, ?_⟩⟩
  · rw [contexts_step_of_takes? used, Contexts.get?_ensure, scope]
  · rw [resolve_step used known, resolved]

end

/-- A client that tells what it logs. -/
def loggingAt (level : LoggerLevel) : Declaration :=
  { usersClient with configurations := [[Kind.entry .loggerLevel "own" level]] }

/-- A default that came late wins in the scope of a client, until this client is registered again:
then it logs what it tells itself. -/
theorem register_again_loggingAt :
    let f := (((plain.register (loggingAt .basic)).factory.resolve "users").factory.registerDefault
      "late" [Kind.entry .loggerLevel "late" LoggerLevel.full]).factory
    let g := (f.register (loggingAt .headers)).factory
    levelOf f "users" = some .full ∧ levelOf g "users" = some .headers ∧
      g = ((f.forget "users").register (loggingAt .headers)).factory ∧
      Renewed "users" (g.anew.register (loggingAt .headers)).factory g := by
  intro f g
  have described : (f.register (loggingAt .headers)).value.map (·.contextId) = .ok "users" := by
    decide +kernel
  obtain ⟨d, registered, own⟩ := map_ok described
  have again : (f.descriptor? "users").isSome := by decide +kernel
  have law := register_again registered (own ▸ again) (own ▸ by decide)
  rw [own] at law
  have descriptors : f.descriptors.Ordered := by
    have rows : List.Pairwise (fun a b => a.1 < b.1) f.descriptors := by decide +kernel
    exact rows
  have configurations : f.contexts.configurations.Ordered := by
    have rows : List.Pairwise (fun a b => a.1 < b.1) f.contexts.configurations := by
      decide +kernel
    exact rows
  exact ⟨by decide +kernel, by decide +kernel, law.1 descriptors configurations,
    law.2 (fun c _ => Acts.alone c) _ .here⟩

/-- A client that tells what it logs, and another one that tells nothing. -/
def beside : Factory (Reaching Kind.Value) :=
  let orders : Declaration (Reaching Kind.Value) :=
    { clientType := ⟨"OrdersClient", .interface⟩
      name := some "orders"
      configurations := [.registers [Kind.entry .loggerLevel "own" LoggerLevel.full]] }
  let users : Declaration (Reaching Kind.Value) :=
    { clientType := ⟨"UsersClient", .interface⟩
      name := some "users" }
  (({ contexts := {} } : Factory (Reaching Kind.Value)).register orders).factory.register users
    |>.factory

/-- What a new configuration copies from the scope of another client is missing in a new factory,
even if no other configuration does so. -/
theorem not_register_again : ¬ ∀ (f : Factory (Reaching Kind.Value)) declaration d,
    (f.register declaration).value = .ok d → (f.descriptor? d.contextId).isSome →
      Contexts.isShared d.contextId = false → f.contexts.AllAlone →
        Renewed d.contextId ((f.register declaration).factory.anew.register declaration).factory
          (f.register declaration).factory := by
  intro law
  let users : Declaration (Reaching Kind.Value) :=
    { clientType := ⟨"UsersClient", .interface⟩
      name := some "users"
      configurations := [.copies "orders"] }
  have described : (beside.register users).value.map (·.contextId) = .ok "users" := by
    decide +kernel
  obtain ⟨d, registered, own⟩ := map_ok described
  have again : (beside.descriptor? "users").isSome := by decide +kernel
  have defaults : ∀ c ∈ beside.contexts.defaults, c.onlyRegisters = true := by decide +kernel
  have rows : ∀ row ∈ beside.contexts.configurations, ∀ c ∈ row.2, c.onlyRegisters = true := by
    decide +kernel
  have all : beside.contexts.AllAlone := by
    rintro c (first | ⟨row, mem, given⟩)
    · exact Reaching.alone_of_onlyRegisters (defaults c first)
    · exact Reaching.alone_of_onlyRegisters (rows row mem c given)
  have scope := (law _ _ d registered (own ▸ again) (own ▸ by decide) all).scope
  rw [own] at scope
  have copied : ((beside.register users).factory.contexts.scopeOf "users").size = 1 := by
    decide +kernel
  have nothing : (((beside.register users).factory.anew.register users).factory.contexts.scopeOf
      "users").size = 0 := by decide +kernel
  rw [scope, nothing] at copied
  cases copied

end Factory
end ServiceClient
