import ServiceClient.Proofs.Declaration.Describe
import ServiceClient.Proofs.Factory.Demands

/-!
# Clients that are kept

A client is made when it is looked up for the first time, and kept until its context is registered
again. `get?_clients_step` says once, for all operations, which client is kept afterwards. From it
follows how a client that is kept came about (`MadeSince`), and `lookups_coherent` says what this
means for lookups: they give a client that was made of the descriptor that the context has.
-/

namespace ServiceClient.Factory

section

variable {γ τ : Type}

/-- The context id under which an operation registers a client. -/
def Operation.registers? (ps : Placeholders) : Operation γ τ → Option String
  | .register d => d.contextId? ps
  | _ => none

/-- The capability and the context id that an operation looks up. -/
def looksUp? [Capability τ] (f : Factory γ τ) : Operation γ τ → Option (τ × String)
  | .get t id => some (t, id)
  | .getQualified t q => (f.qualified? q).map (t, ·.contextId)
  | .getPrimary t => (f.primary? (Capability.name t)).map (t, ·.contextId)
  | _ => none

/-- A lookup registers nothing. -/
lemma registers?_of_looksUp? [Capability τ] {f : Factory γ τ} {op : Operation γ τ} {p : τ × String}
    (sought : f.looksUp? op = some p) (ps : Placeholders) : op.registers? ps = none := by
  cases op with
  | register => cases sought
  | _ => rfl

variable [Acts Kind.Value γ] [Reporting γ]

section

variable {f : Factory γ τ}

/-- A registration gives the descriptor of the declaration. -/
lemma register_value (f : Factory γ τ) (declaration : Declaration γ) :
    (f.register declaration).value = declaration.describe f.placeholders := by
  unfold register
  split
  next e refused => exact refused.symm
  next d described => exact described.symm

/-- A context that is registered has the descriptor of its declaration. -/
lemma register_ok {declaration : Declaration γ} {d : Descriptor γ}
    (registered : (f.register declaration).value = .ok d) :
    declaration.contextId? f.placeholders = some d.contextId ∧
      (f.register declaration).factory.descriptor? d.contextId = some d := by
  unfold register at registered ⊢
  split at registered
  · cases registered
  next described =>
    cases registered
    refine ⟨Declaration.contextId?_eq_some.2 ⟨d, described, rfl⟩, ?_⟩
    simp only [descriptor?, Table.get?_put, if_pos]

/-- A registration drops the client of its context, if the context had a descriptor before. -/
lemma get?_clients_register (declaration : Declaration γ) (id : String) :
    (f.register declaration).factory.clients.get? id =
      if declaration.contextId? f.placeholders = some id ∧ (f.descriptor? id).isSome then none
      else f.clients.get? id := by
  unfold register
  split
  next e refused => simp [Declaration.contextId?, refused, Except.toOption]
  next d described =>
    have registered : declaration.contextId? f.placeholders = some d.contextId :=
      Declaration.contextId?_eq_some.2 ⟨d, described, rfl⟩
    dsimp only
    rw [registered, clientsBeside]
    by_cases here : d.contextId = id
    · subst here
      rw [← descriptor?]
      cases f.descriptor? d.contextId <;> simp
    · rw [if_neg fun both => here (Option.some.inj both.1)]
      split
      · rw [Table.get?_drop, if_neg (Ne.symm here)]
      · rfl

end

variable [Capability τ]

/-- The factories to which operations lead that register nothing under a context id. -/
inductive Since (id : String) (s : Factory γ τ) : Factory γ τ → Prop where
  | here : Since id s s
  | step {f : Factory γ τ} (op) : Since id s f → op.registers? f.placeholders ≠ some id →
      Since id s (f.step op).2

variable (f : Factory γ τ)

/-- The client that the lookup of one context makes for another one: none, unless it is the same. -/
def getMakes? (t : τ) (other id : String) : Option (KeptClient τ) :=
  if other = id then (f.create t id).value.toOption.map (⟨t, ·⟩) else none

/-- The client that an operation makes for a context if none is kept. -/
def makes? (op : Operation γ τ) (id : String) : Option (KeptClient τ) :=
  (f.looksUp? op).bind fun (t, other) => f.getMakes? t other id

variable {f}

/-- All lookups are answered alike. -/
lemma step_of_looksUp? {op : Operation γ τ} {t : τ} {id : String}
    (sought : f.looksUp? op = some (t, id)) :
    f.step op = (.client (f.get t id).value, (f.get t id).factory) := by
  cases op with
  | get =>
    cases sought
    rfl
  | getQualified t' q =>
    obtain ⟨d, found, eq⟩ := Option.map_eq_some_iff.1 sought
    cases eq
    simp only [step, getQualified, found]
  | getPrimary t' =>
    obtain ⟨d, found, eq⟩ := Option.map_eq_some_iff.1 sought
    cases eq
    simp only [step, getPrimary, found]
  | _ => cases sought

/-- A client is kept when it is given out. -/
lemma get?_clients_get (t : τ) (other id : String) : (f.get t other).factory.clients.get? id =
    (f.clients.get? id).or (f.getMakes? t other id) := by
  have same : (f.create t other).factory.clients = f.clients := by
    obtain ⟨made, eq⟩ := create_factory (f := f) t other
    rw [eq]
  unfold get getMakes?
  by_cases here : other = id
  · subst here
    rw [if_pos rfl]
    cases kept : f.clients.get? other with
    | some c => exact kept
    | none =>
      dsimp only
      cases (f.create t other).value with
      | error e => exact (congrArg (·.get? other) same).trans kept
      | ok c => simp [Except.toOption]
  · rw [if_neg here, Option.or_none]
    cases f.clients.get? other with
    | some c => rfl
    | none =>
      dsimp only
      cases (f.create t other).value with
      | error e => exact congrArg (·.get? id) same
      | ok c => simp [same, Ne.symm here]

/-- A client is kept until its context is registered again; if none is kept, one may be made. -/
lemma get?_clients_step (op : Operation γ τ) (id : String) : (f.step op).2.clients.get? id =
    if op.registers? f.placeholders = some id ∧ (f.descriptor? id).isSome then none
    else (f.clients.get? id).or (f.makes? op id) := by
  cases sought : f.looksUp? op with
  | some p =>
    obtain ⟨t, other⟩ := p
    rw [if_neg (by simp [registers?_of_looksUp? sought]), step_of_looksUp? sought, makes?, sought]
    exact get?_clients_get t other id
  | none =>
    rw [makes?, sought, Option.bind_none, Option.or_none]
    cases op with
    | register d => exact get?_clients_register d id
    | registerDefault => rfl
    | resolve id' => simp [step, resolve_factory, Operation.registers?]
    | create t id' =>
      obtain ⟨made, eq⟩ := create_factory (f := f) t id'
      simp [step, eq, Operation.registers?]
    | get => cases sought
    | getQualified t q =>
      rw [looksUp?, Option.map_eq_none_iff] at sought
      simp [step, getQualified, sought, Operation.registers?]
    | getPrimary t =>
      rw [looksUp?, Option.map_eq_none_iff] at sought
      simp [step, getPrimary, sought, Operation.registers?]

/-- A descriptor stays until its context is registered again. -/
lemma descriptor?_step {op : Operation γ τ} {id : String}
    (other : op.registers? f.placeholders ≠ some id) :
    (f.step op).2.descriptor? id = f.descriptor? id := by
  rw [descriptor?, descriptors_step]
  cases op with
  | register d =>
    simp only [Operation.registers?, Declaration.contextId?] at other
    simp only [descriptorsAfter]
    cases described : d.describe f.placeholders with
    | error e => rfl
    | ok desc =>
      rw [described] at other
      have ne : id ≠ desc.contextId := fun eq => other (congrArg some eq.symm)
      exact (Table.get?_put _ _ _ _).trans (if_neg ne)
  | _ => rfl

namespace Since

variable {id : String} {s : Factory γ τ}

lemma descriptor?_eq (since : Since id s f) : f.descriptor? id = s.descriptor? id := by
  induction since with
  | here => rfl
  | step op _ other ih => rw [descriptor?_step other, ih]

lemma placeholders_eq (since : Since id s f) : f.placeholders = s.placeholders := by
  induction since with
  | here => rfl
  | step op _ _ ih => rw [placeholders_step, ih]

lemma clients_eq (since : Since id s f) {c : KeptClient τ} (kept : s.clients.get? id = some c) :
    f.clients.get? id = some c := by
  induction since with
  | here => exact kept
  | step op _ other ih =>
    rw [get?_clients_step, if_neg fun both => other both.1, ih, Option.some_or]

end Since

end

section

variable {τ : Type} [Capability τ]

/-- A client that is there in one factory was made after another one, of the descriptor that its
context has had from then on, and for the capability of this descriptor. -/
def MadeSince (id : String) (d : Descriptor) (s f : Factory (Configuration Kind.Value) τ)
    (c : KeptClient τ) : Prop :=
  ∃ g, Since id s g ∧ Since id g f ∧ g.descriptor? id = some d ∧
    Capability.name c.capability = d.clientType.name ∧
    (g.create c.capability id).value = .ok c.made

variable {f : Factory (Configuration Kind.Value) τ}

/-- What is made of a descriptor is for its capability. -/
lemma create_ok {t : τ} {id : String} {c : MadeClient} (eq : (f.create t id).value = .ok c) :
    ∃ d, f.descriptor? id = some d ∧ d.clientType.name = Capability.name t ∧
      c.client.target = d.target := by
  cases registered : f.descriptor? id with
  | none =>
    simp only [create, registered] at eq
    cases eq
  | some d =>
    by_cases fits : d.clientType.name = Capability.name t
    · rw [create_value registered fits] at eq
      obtain ⟨client, made, rfl⟩ := map_ok eq
      obtain ⟨_, _, _, -, target, -⟩ := Resolution.client_ok made
      exact ⟨d, rfl, fits, target⟩
    · simp only [create, registered, if_neg fits] at eq
      cases eq

namespace MadeSince

variable {id : String} {d : Descriptor} {s : Factory (Configuration Kind.Value) τ}
  {c : KeptClient τ}

lemma descriptor?_eq (made : MadeSince id d s f c) : f.descriptor? id = some d := by
  obtain ⟨g, -, since, registered, -, -⟩ := made
  rw [since.descriptor?_eq, registered]

lemma fits (made : MadeSince id d s f c) :
    Capability.name c.capability = d.clientType.name := by
  obtain ⟨g, -, -, -, fits, -⟩ := made
  exact fits

/-- The client goes where the descriptor tells. -/
lemma target_eq (made : MadeSince id d s f c) : c.made.client.target = d.target := by
  obtain ⟨g, -, -, registered, -, created⟩ := made
  obtain ⟨d', registered', -, target⟩ := create_ok created
  rw [registered] at registered'
  cases registered'
  exact target

lemma step (made : MadeSince id d s f c) {op : Operation (Configuration Kind.Value) τ}
    (other : op.registers? f.placeholders ≠ some id) : MadeSince id d s (f.step op).2 c := by
  obtain ⟨g, before, after, rest⟩ := made
  exact ⟨g, before, after.step op other, rest⟩

/-- A client that is made now is made of the descriptor that its context has. -/
lemma now {t : τ} {m : MadeClient} (since : Since id s f)
    (created : (f.create t id).value = .ok m) : ∃ d, MadeSince id d s f ⟨t, m⟩ := by
  obtain ⟨d, registered, fits, -⟩ := create_ok created
  exact ⟨d, f, since, .here, registered, fits.symm, created⟩

end MadeSince

/-- A client that is kept after an operation was kept before, or is made by this operation. -/
lemma kept_step {op : Operation (Configuration Kind.Value) τ} {id : String}
    {c : KeptClient τ}
    (kept : (f.step op).2.clients.get? id = some c) :
    (f.clients.get? id = some c ∧
        (op.registers? f.placeholders = some id → f.descriptor? id = none)) ∨
      (op.registers? f.placeholders ≠ some id ∧ (f.create c.capability id).value = .ok c.made) := by
  rw [get?_clients_step] at kept
  split at kept
  · cases kept
  next stays =>
    rcases Option.or_eq_some_iff.1 kept with kept | ⟨-, made⟩
    · refine .inl ⟨kept, fun registers => ?_⟩
      rw [← Option.not_isSome_iff_eq_none]
      exact fun known => stays ⟨registers, known⟩
    · obtain ⟨⟨t, other⟩, sought, made⟩ := Option.bind_eq_some_iff.1 made
      refine .inr ⟨by simp [registers?_of_looksUp? sought], ?_⟩
      simp only [getMakes?, Option.ite_none_right_eq_some] at made
      obtain ⟨m, created, rfl⟩ := Option.map_eq_some_iff.1 made.2
      exact toOption_eq_some.1 created

/-- A client that is kept was made of the descriptor that its context has. -/
lemma Reachable.kept_made (reach : f.Reachable) {id : String} {c : KeptClient τ}
    (kept : f.clients.get? id = some c) : ∃ d s, s.Reachable ∧ MadeSince id d s f c := by
  induction reach generalizing c with
  | new => cases kept
  | @step f op reach ih =>
    rcases kept_step kept with ⟨kept, known⟩ | ⟨other, created⟩
    · -- a client is kept beside a descriptor, so a registration would have dropped it
      obtain ⟨d, s, reach, made⟩ := ih kept
      refine ⟨d, s, reach, made.step fun registers => ?_⟩
      rw [made.descriptor?_eq] at known
      cases known registers
    · obtain ⟨d, made⟩ := MadeSince.now .here created
      exact ⟨d, f, reach, made.step other⟩

/-- So it has the capability of this descriptor. -/
lemma Reachable.kept_fits (reach : f.Reachable) {id : String} {c : KeptClient τ} {d : Descriptor}
    (kept : f.clients.get? id = some c) (registered : f.descriptor? id = some d) :
    Capability.name c.capability = d.clientType.name := by
  obtain ⟨d', s, -, made⟩ := reach.kept_made kept
  cases registered.symm.trans made.descriptor?_eq
  exact made.fits

/-- A client that is kept, but was not kept at first, was made since. -/
lemma Since.kept_made {id : String} {s : Factory (Configuration Kind.Value) τ}
    (since : Since id s f) (empty : s.clients.get? id = none) {c : KeptClient τ}
    (kept : f.clients.get? id = some c) : ∃ d, MadeSince id d s f c := by
  induction since generalizing c with
  | here =>
    rw [empty] at kept
    cases kept
  | @step f op since other ih =>
    rcases kept_step kept with ⟨kept, -⟩ | ⟨-, created⟩
    · obtain ⟨d, made⟩ := ih kept
      exact ⟨d, made.step other⟩
    · obtain ⟨d, made⟩ := MadeSince.now since created
      exact ⟨d, made.step other⟩

/-- But no client is kept for it. -/
lemma Reachable.clients_register (reach : f.Reachable) {declaration : Declaration} {d : Descriptor}
    (registered : (f.register declaration).value = .ok d) :
    (f.register declaration).factory.clients.get? d.contextId = none := by
  rw [get?_clients_register, (register_ok registered).1]
  split
  · rfl
  next stays =>
    cases kept : f.clients.get? d.contextId with
    | none => rfl
    | some c =>
      obtain ⟨d', s, -, made⟩ := reach.kept_made kept
      exact absurd ⟨rfl, Option.isSome_of_eq_some made.descriptor?_eq⟩ stays

/-- A lookup gives the client that is kept, or else makes one. -/
lemma get_value (t : τ) (id : String) : (f.get t id).value =
    match f.clients.get? id with
    | some c => f.kept t id c
    | none => (f.create t id).value := by
  unfold get
  cases f.clients.get? id with
  | some c => rfl
  | none =>
    dsimp only
    split <;> rfl

/-- A client that is given out was kept before, or is made now. -/
lemma get_ok {t : τ} {id : String} {c : MadeClient} (eq : (f.get t id).value = .ok c) :
    f.clients.get? id = some ⟨t, c⟩ ∨
      f.clients.get? id = none ∧ (f.create t id).value = .ok c := by
  rw [get_value] at eq
  split at eq
  next k kept =>
    unfold Factory.kept at eq
    split at eq
    next fits =>
      cases eq
      subst fits
      exact .inl kept
    next => cases eq
  next missing => exact .inr ⟨missing, eq⟩

/-- And it is kept from then on. -/
lemma clients_get {t : τ} {id : String} {c : MadeClient} (eq : (f.get t id).value = .ok c) :
    (f.get t id).factory.clients.get? id = some ⟨t, c⟩ := by
  rw [get?_clients_get, getMakes?, if_pos rfl]
  rcases get_ok eq with kept | ⟨missing, made⟩
  · rw [kept, Option.some_or]
  · rw [missing, made]
    rfl

/-- A lookup for another capability than that of the descriptor is refused. -/
lemma Reachable.get_mismatch (reach : f.Reachable) {t : τ} {id : String} {d : Descriptor}
    (registered : f.descriptor? id = some d) (other : d.clientType.name ≠ Capability.name t) :
    (f.get t id).value =
      .error (.capabilityMismatch id d.clientType.name (Capability.name t)) := by
  rw [get_value]
  split
  next c kept =>
    rw [← reach.kept_fits kept registered] at other
    have apart : c.capability ≠ t := fun eq => other (congrArg Capability.name eq)
    simp only [Factory.kept, if_neg apart, registered, Option.map_some, Option.getD_some]
  next => simp only [create, registered, if_neg other]

/-- Where no two capabilities share a name, a lookup for the capability of the descriptor is never
refused as one for another capability. -/
lemma Reachable.get_fits (reach : f.Reachable)
    (apart : Function.Injective (Capability.name : τ → String)) {t : τ} {id : String}
    {d : Descriptor} (registered : f.descriptor? id = some d)
    (fits : d.clientType.name = Capability.name t) (id' declared requested : String) :
    (f.get t id).value ≠ .error (.capabilityMismatch id' declared requested) := by
  intro told
  rw [get_value] at told
  split at told
  next c kept =>
    have same : c.capability = t := apart ((reach.kept_fits kept registered).trans fits)
    rw [Factory.kept, if_pos same] at told
    cases told
  next =>
    -- what is lacking then is something else
    cases reach.refused_of_create told with
    | mismatched registered' other =>
      rw [registered] at registered'
      cases registered'
      exact other fits
    | unresolved registered' _ unresolved =>
      rw [resolve_value registered'] at unresolved
      obtain ⟨component, -, eq⟩ := Option.map_eq_some_iff.1
        (((Resolution.Asks.builder _).map _ _).1 unresolved)
      cases eq
    | unbacked _ _ _ _ _ unbacked => cases unbacked

/-- The primary descriptor of a capability is registered, and is one of this capability. -/
lemma Reachable.primary_registered (reach : f.Reachable) {t : String} {d : Descriptor}
    (primary : f.primary? t = some d) :
    f.descriptor? d.contextId = some d ∧ d.clientType.name = t := by
  obtain ⟨mem, is⟩ := List.mem_filter.1 (List.mem_of_mem_head? primary)
  rw [Bool.and_eq_true, beq_iff_eq] at is
  exact ⟨reach.descriptor?_of_mem mem, is.2⟩

/-- A client that is kept was made of the descriptor that its context has, and for the capability of
this descriptor. So all lookups of a context give the same client until the context is registered
again, and then one that was made of the new descriptor. Where no two capabilities share a name, the
primary client of a capability always has this capability. A lookup under the name of another one is
refused in the same words whether a client is kept or not. -/
theorem lookups_coherent (reach : f.Reachable) :
    (∀ id c, f.clients.get? id = some c → ∃ d s, s.Reachable ∧ MadeSince id d s f c ∧
      f.descriptor? id = some d ∧ Capability.name c.capability = d.clientType.name ∧
      c.made.client.target = d.target) ∧
    (∀ id op t c g op' t' c', f.looksUp? op = some (t, id) → (f.step op).1 = .client (.ok c) →
      Since id (f.step op).2 g → g.looksUp? op' = some (t', id) →
      (g.step op').1 = .client (.ok c') → c' = c) ∧
    (∀ declaration d g op t c, (f.register declaration).value = .ok d →
      Since d.contextId (f.register declaration).factory g →
      g.looksUp? op = some (t, d.contextId) → (g.step op).1 = .client (.ok c) →
      MadeSince d.contextId d (f.register declaration).factory g ⟨t, c⟩ ∧
        c.client.target = d.target) ∧
    (Function.Injective (Capability.name : τ → String) → ∀ t id declared requested,
      (f.getPrimary t).value ≠ .error (.capabilityMismatch id declared requested)) ∧
    ∀ op t id d, f.looksUp? op = some (t, id) → f.descriptor? id = some d →
      d.clientType.name ≠ Capability.name t →
      (f.step op).1 =
        .client (.error (.capabilityMismatch id d.clientType.name (Capability.name t))) := by
  refine ⟨?_, ?_, ?_, ?_, ?_⟩
  · intro id c kept
    obtain ⟨d, s, reach, made⟩ := reach.kept_made kept
    exact ⟨d, s, reach, made, made.descriptor?_eq, made.fits, made.target_eq⟩
  · intro id op t c g op' t' c' sought eq since sought' eq'
    rw [step_of_looksUp? sought] at eq since
    rw [step_of_looksUp? sought'] at eq'
    -- what the first lookup gave is still kept, so the second one makes nothing
    have kept := since.clients_eq (clients_get (Reply.client.inj eq))
    rcases get_ok (Reply.client.inj eq') with kept' | ⟨missing, -⟩
    · cases kept.symm.trans kept'
      rfl
    · cases kept.symm.trans missing
  · intro declaration d g op t c registered since sought eq
    rw [step_of_looksUp? sought] at eq
    -- nothing is kept right after a registration, so the client was made since
    obtain ⟨d', made⟩ :
        ∃ d', MadeSince d.contextId d' (f.register declaration).factory g ⟨t, c⟩ := by
      rcases get_ok (Reply.client.inj eq) with kept | ⟨-, created⟩
      · exact since.kept_made (reach.clients_register registered) kept
      · exact MadeSince.now since created
    have now : g.descriptor? d.contextId = some d :=
      since.descriptor?_eq.trans (register_ok registered).2
    cases made.descriptor?_eq.symm.trans now
    exact ⟨made, made.target_eq⟩
  · intro apart t id declared requested told
    unfold getPrimary at told
    split at told
    · cases told
    next d primary =>
      obtain ⟨registered, fits⟩ := reach.primary_registered primary
      exact reach.get_fits apart registered fits _ _ _ told
  · intro op t id d sought registered other
    rw [step_of_looksUp? sought, reach.get_mismatch registered other]

end

/-- A primary client, with a fixed address or without. -/
def usersAt (url : Option String) : Declaration where
  clientType := ⟨"UsersClient", .interface⟩
  name := some "users"
  url := url

/-- The client that is made first is found by its context id and by its qualifier. After it is
registered with an address, another one is found, it goes to this address, and it is found for no
other capability. -/
theorem lookups_usersAt :
    let f := (tolerant.register (usersAt none)).factory
    let g := ((f.getPrimary "UsersClient").factory.register
      (usersAt (some "http://backend:8080"))).factory
    (∃ c, (f.getPrimary "UsersClient").value = .ok c ∧
      ((f.getPrimary "UsersClient").factory.get "UsersClient" "users").value = .ok c) ∧
    (∃ c, (g.getQualified "UsersClient" "usersClient").value = .ok c ∧
      c.client.target = ⟨⟨"UsersClient", .interface⟩, "users", "http://backend:8080"⟩) ∧
    (g.get "OrdersClient" "users").value =
      .error (.capabilityMismatch "users" "UsersClient" "OrdersClient") ∧
    ∀ id declared requested,
      (g.getPrimary "UsersClient").value ≠ .error (.capabilityMismatch id declared requested) := by
  intro f g
  have reach : f.Reachable := (Reachable.new _ _ _).step (.register (usersAt none))
  have reach' : (f.getPrimary "UsersClient").factory.Reachable :=
    reach.step (.getPrimary "UsersClient")
  have reach'' : g.Reachable := reach'.step (.register (usersAt (some "http://backend:8080")))
  refine ⟨?_, ?_, ?_, (lookups_coherent reach'').2.2.2.1 (fun _ _ same => same) "UsersClient"⟩
  · have primary : (f.primary? "UsersClient").map (("UsersClient", ·.contextId)) =
        some ("UsersClient", "users") := by decide +kernel
    have first : (f.getPrimary "UsersClient").value.map (·.serial) = .ok 0 := by decide +kernel
    have second : ((f.getPrimary "UsersClient").factory.get "UsersClient" "users").value.map
        (·.serial) = .ok 0 := by decide +kernel
    obtain ⟨c, made, -⟩ := map_ok first
    obtain ⟨c', again, -⟩ := map_ok second
    have same : c' = c := (lookups_coherent reach).2.1 "users" (.getPrimary "UsersClient") _ c _
      (.get "UsersClient" "users") _ c' primary (congrArg Reply.client made) .here rfl
      (congrArg Reply.client again)
    exact ⟨c, made, same ▸ again⟩
  · have qualified : (g.qualified? "usersClient").map (("UsersClient", ·.contextId)) =
        some ("UsersClient", "users") := by decide +kernel
    have described : ((f.getPrimary "UsersClient").factory.register
        (usersAt (some "http://backend:8080"))).value.map (fun d => (d.contextId, d.target)) =
          .ok ("users", ⟨⟨"UsersClient", .interface⟩, "users", "http://backend:8080"⟩) := by
      decide +kernel
    have third : (g.getQualified "UsersClient" "usersClient").value.map (·.serial) = .ok 1 := by
      decide +kernel
    obtain ⟨d, registered, eq⟩ := map_ok described
    obtain ⟨own, target⟩ := Prod.mk.inj eq
    obtain ⟨c, made, -⟩ := map_ok third
    obtain ⟨-, goes⟩ := (lookups_coherent reach').2.2.1 _ d g
      (.getQualified "UsersClient" "usersClient") "UsersClient" c registered .here
      (own ▸ qualified) (congrArg Reply.client made)
    exact ⟨c, made, goes.trans target⟩
  · have known : (g.descriptor? "users").map (·.clientType.name) = some "UsersClient" := by
      decide +kernel
    obtain ⟨d, registered, named⟩ := Option.map_eq_some_iff.1 known
    have told := (lookups_coherent reach'').2.2.2.2 (.get "OrdersClient" "users") _ _ d rfl
      registered (by rw [named]; decide)
    rw [named] at told
    exact Reply.client.inj told

end ServiceClient.Factory
