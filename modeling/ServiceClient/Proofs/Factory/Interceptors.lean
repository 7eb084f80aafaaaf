import ServiceClient.Proofs.Factory.Creation
import ServiceClient.Proofs.Scope.Visible

/-!
# The interceptors of a client

Interceptors come from scopes and from entries. The ones from scopes are replaced as a whole, and
the others are added one by one, so it does not count which of the two layers comes first:
`interceptors_arranged` gives one sequence for both modes, and says that it is told and run alike.
-/

namespace ServiceClient

/-- What an attempt sends is the request of the finished template. -/
lemma Handler.finish_of_sent {h : Handler} {target : Target} {key : String} {t : Template}
    {a : Answer} {q : Http.Request} (sent : (h.attempt target key t a).sent = some q) :
    ∃ u, h.finish key t = .ok u ∧ request target key u = .ok q := by
  have prepared : h.prepare target key t = .ok q := by
    unfold attempt at sent
    split at sent
    · cases sent
    next prepared =>
      cases sent
      exact prepared
  unfold prepare at prepared
  split at prepared
  · cases prepared
  next u finished =>
    split at prepared
    · cases prepared
    · exact ⟨u, finished, prepared⟩

namespace Resolution

variable (r : Resolution)

/-- The resolution in which entries count more than declarations, or less. -/
def withMode (defaultToProperties : Bool) : Resolution :=
  { r with properties := { r.properties with defaultToProperties } }

variable {r}

/-- A client is configured in one mode when it is in the other. -/
lemma exists_builder_withMode {b : Builder} (inherits : r.inherits = true)
    (eq : r.builder = .ok b) (mode : Bool) : ∃ b', (r.withMode mode).builder = .ok b' := by
  obtain ⟨d, draftOk, -⟩ := map_ok eq
  obtain ⟨base, baseOk, settingsOk, -⟩ := draft_eq draftOk
  rw [settings, if_pos inherits] at settingsOk
  obtain ⟨told, toldOk, -⟩ := bind_ok settingsOk
  -- the mode says in which order settings stand, not whether they can be told
  have same : (r.withMode mode).named = r.named := rfl
  have told' : (r.withMode mode).entriesSettings (r.withMode mode).entries = .ok told :=
    (entriesSettings_congr same _).trans toldOk
  have base' : (r.withMode mode).base = .ok base := baseOk
  have inherits' : (r.withMode mode).inherits = true := inherits
  simp only [builder, draft, base', settings, if_pos inherits', told', Bind.bind, Except.bind]
  exact ⟨_, rfl⟩

/-- The interceptors of a client without customizers, in both modes. -/
lemma interceptors_builder {b : Builder} (inherits : r.inherits = true)
    (plain : r.customSettings = []) (eq : r.builder = .ok b) :
    b.interceptors = r.chain.lookupAll true .interceptor ++
      r.shared?.toList.flatMap r.interceptorsOf ++ r.own?.toList.flatMap r.interceptorsOf := by
  obtain ⟨base, baseOk, -, -⟩ := builder_ok inherits eq
  obtain ⟨_, _, _, _, -, -, -, -, rfl⟩ := base_ok baseOk
  rw [Builder.interceptors, scopeInterceptors_eq inherits plain baseOk eq rfl,
    addedInterceptors_builder inherits plain baseOk eq rfl, List.append_assoc]

/-- A client runs the interceptors of its builder, one after the other, over each template. -/
lemma finish_client {b : Builder} (made : r.builder = .ok b) {capability : String} {c : Client}
    (eq : r.client capability = .ok c) (key : String) (t : Template) :
    c.handler.finish key t = (c.handler.encodeBody key (c.handler.expandQueries t)).map fun u =>
      b.interceptors.foldl (fun u i => i.value.apply u) u := by
  obtain ⟨b', transport, setterFactory, made', -, handler⟩ := client_ok eq
  rw [made] at made'
  cases made'
  have same : c.handler.interceptors = b.interceptors.map (·.value) := by
    rw [handler]
    rfl
  rw [Handler.finish]
  congr 1
  funext u
  rw [Handler.intercept, same, List.foldl_map]

/-- In each attempt, what a client sends is the request of the template after all interceptors of
its builder. -/
lemma sent_client {b : Builder} (made : r.builder = .ok b) {capability : String} {c : Client}
    (eq : r.client capability = .ok c) {target : Target} {key : String} {t : Template} {a : Answer}
    {q : Http.Request} (sent : (c.handler.attempt target key t a).sent = some q) :
    ∃ u, c.handler.encodeBody key (c.handler.expandQueries t) = .ok u ∧
      Handler.request target key (b.interceptors.foldl (fun u i => i.value.apply u) u) = .ok q := by
  obtain ⟨u, finished, asked⟩ := Handler.finish_of_sent sent
  rw [finish_client made eq] at finished
  obtain ⟨u', encoded, rfl⟩ := map_ok finished
  exact ⟨u', encoded, asked⟩

/-- A client without customizers that takes over what is configured outside tells and runs, in both
modes, the same interceptors: those that are seen in its scopes, arranged by their order, then those
that the entry for all clients brings, and then those that its own entry brings. That scopes are
unique is no restriction: operations leave them so (`Scope.unique_run`). -/
theorem interceptors_arranged (unique : ∀ s ∈ r.chain.above, s.Unique)
    (inherits : r.inherits = true) (scopes : r.chain.lookupAll true .customizer = [])
    (declared : r.descriptor.customizers = []) {b : Builder} (eq : r.builder = .ok b) :
    Arranged (Chain.visible .interceptor r.chain.scopes) (r.chain.lookupAll true .interceptor) ∧
      ∀ mode, ∃ b', (r.withMode mode).builder = .ok b' ∧
        b'.interceptors = r.chain.lookupAll true .interceptor ++
          r.shared?.toList.flatMap r.interceptorsOf ++ r.own?.toList.flatMap r.interceptorsOf ∧
        b'.effective.interceptors =
          (r.chain.lookupAll true .interceptor).map (·.name) ++
            r.shared?.toList.flatMap interceptorNames ++ r.own?.toList.flatMap interceptorNames ∧
        ∀ capability c, (r.withMode mode).client capability = .ok c → ∀ key t,
          (c.handler.finish key t =
            (c.handler.encodeBody key (c.handler.expandQueries t)).map fun u =>
              b'.interceptors.foldl (fun u i => i.value.apply u) u) ∧
          ∀ target a q, (c.handler.attempt target key t a).sent = some q →
            ∃ u, c.handler.encodeBody key (c.handler.expandQueries t) = .ok u ∧
              Handler.request target key
                (b'.interceptors.foldl (fun u i => i.value.apply u) u) = .ok q := by
  have none : r.customizers = [] := customizers_of_nil inherits scopes declared
  refine ⟨?_, fun mode => ?_⟩
  · rw [Chain.lookupAll, if_pos rfl, r.chain.findAll_eq_visible _ unique]
    exact arranged_mergeSort _
  · obtain ⟨b', made⟩ := exists_builder_withMode inherits eq mode
    have law : b'.interceptors = r.chain.lookupAll true .interceptor ++
        r.shared?.toList.flatMap r.interceptorsOf ++ r.own?.toList.flatMap r.interceptorsOf :=
      interceptors_builder (r := r.withMode mode) inherits (customSettings_of_nil none) made
    obtain ⟨-, -, knows, -⟩ := builder_ok inherits eq
    have ofAll : ∀ e ∈ r.shared?.toList, r.Knows e := fun e mem =>
      knows e (List.mem_append_left _ mem)
    have ofOwn : ∀ e ∈ r.own?.toList, r.Knows e := fun e mem =>
      knows e (List.mem_append_right _ mem)
    refine ⟨b', made, law, ?_, fun capability c told key t =>
      ⟨finish_client made told key t, fun target a q => sent_client made told⟩⟩
    simp only [Builder.effective, law, List.map_append]
    rw [names_flatMap_interceptorsOf ofAll, names_flatMap_interceptorsOf ofOwn]

/-- A client with interceptors from its scope and the one above, and from both entries. -/
def intercepted : Resolution where
  chain :=
    ⟨⟨"users", [Kind.entry .interceptor "audit" (.body []) 1,
        Kind.entry .interceptor "trace" (.body [])]⟩,
      [⟨"application", defaultConfiguration .plain ++
        [Kind.entry .interceptor "audit" (.body []) (-2),
          Kind.entry .interceptor "early" (.body []) (-1),
          Kind.entry .interceptor "late" (.body [])]⟩]⟩
  catalog := ⟨builtins.entries ++ [Kind.entry .interceptor "tenant" (.body [])]⟩
  properties :=
    { config := [("default", { interceptors := ["tenant", "early"], headers := [("a", ["1"])] }),
        ("users", { interceptors := ["late"], queryParameters := [("q", ["2"])] })] }
  descriptor := { clientType := ⟨"UsersClient", .interface⟩, name := "users", contextId := "users" }

theorem interceptors_intercepted :
    (intercepted.withMode true).builder.map (·.effective.interceptors) =
        .ok ["early", "trace", "late", "audit", "tenant", "early", "default-request-headers",
          "late", "default-query-parameters"] ∧
      (intercepted.withMode false).builder.map (·.effective.interceptors) =
        (intercepted.withMode true).builder.map (·.effective.interceptors) := by
  have noCustomizers : intercepted.chain.lookupAll true .customizer = [] := by
    have nothing : intercepted.chain.findAll .customizer = [] := rfl
    rw [Chain.lookupAll, if_pos rfl, nothing, List.mergeSort_nil]
  have made : ∃ b, intercepted.builder = .ok b := ⟨_, rfl⟩
  obtain ⟨b, eq⟩ := made
  obtain ⟨-, law⟩ := interceptors_arranged (by decide) (by decide) noCustomizers rfl eq
  have found : intercepted.chain.findAll .interceptor =
      [⟨"audit", .body [], 1⟩, ⟨"trace", .body [], 0⟩, ⟨"early", .body [], -1⟩,
        ⟨"late", .body [], 0⟩] := rfl
  have resident : (intercepted.chain.lookupAll true .interceptor).map (·.name) =
      ["early", "trace", "late", "audit"] := by
    rw [Chain.lookupAll, if_pos rfl, found]
    simp [List.mergeSort, List.MergeSort.Internal.splitInTwo]
  have both (mode : Bool) : (intercepted.withMode mode).builder.map (·.effective.interceptors) =
      .ok ["early", "trace", "late", "audit", "tenant", "early", "default-request-headers",
        "late", "default-query-parameters"] := by
    obtain ⟨b', made, -, names, -⟩ := law mode
    rw [made, Except.map, names, resident]
    decide +kernel
  exact ⟨both true, (both false).trans (both true).symm⟩

end Resolution
end ServiceClient
