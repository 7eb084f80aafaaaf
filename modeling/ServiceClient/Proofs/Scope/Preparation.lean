import Mathlib.Data.List.Sort
import ServiceClient.Proofs.Scope.Contexts
import ServiceClient.Proofs.Text.Utf8
import ServiceClient.Scope.Contexts.Operation

/-!
# How the scopes of contexts are prepared

What is given to contexts is told from the history of operations alone: `givenDefaults` lists the
configurations for every context, and `given` those under a name. `InOrder` puts those for one
context together, and `run_madeFrom` says that its scope is made from them in this order when it is
first used, and that it stays the same scope until its configurations are replaced.
-/

namespace ServiceClient.Contexts

namespace Operation

variable {γ : Type}

/-- The configuration for every context that an operation gives. -/
def default? : Operation γ → Option γ
  | addDefault c => some c
  | _ => none

/-- The name under which an operation gives configurations. -/
def name? : Operation γ → Option String
  | add n _ => some n
  | replace n _ => some n
  | _ => none

/-- The configurations under a name after an operation: an added one stands behind those before it,
and a replacement takes the place of all of them. -/
def under (name : String) (before : List γ) : Operation γ → List γ
  | add n c => if n = name then before ++ [c] else before
  | replace n cs => if n = name then cs else before
  | _ => before

/-- The configurations that an operation brings to the scope of a context that is there. -/
def brings (id : String) : Operation γ → List γ
  | add n c => if concerns n id then [c] else []
  | _ => []

end Operation

section

variable {γ : Type} (ops : List (Operation γ))

/-- The configurations for every context, in the order in which they were given. -/
def givenDefaults : List γ := ops.filterMap Operation.default?

/-- The configurations that were given under a name, since they were last replaced. -/
def given (name : String) : List γ := ops.foldl (Operation.under name) []

/-- The configurations for a context in the order in which a new scope gets them: first those for
every context, then those under each shared name, in the order of the octets of these names, and
then those under the name of the context itself. -/
def InOrder (id : String) (cs : List γ) : Prop :=
  ∃ names : List String,
    names.Pairwise (fun a b => Text.Utf8.encode a < Text.Utf8.encode b) ∧
    (∀ name, name ∈ names ↔ isShared name = true ∧ given ops name ≠ []) ∧
    cs = givenDefaults ops ++ names.flatMap (given ops) ++ given ops id

/-- What was given under a name does not depend on what was done under other names. -/
lemma given_filter (name : String) :
    given (ops.filter (·.name? = some name)) name = given ops name := by
  unfold given
  rw [List.foldl_filter]
  congr 1
  funext before op
  -- an operation under another name is left out, and would leave the configurations as they are
  cases op with
  | add n c => by_cases same : n = name <;> simp [Operation.name?, Operation.under, same]
  | replace n l => by_cases same : n = name <;> simp [Operation.name?, Operation.under, same]
  | addDefault | use => simp [Operation.name?, Operation.under]

variable {ops}

/-- Histories that give the same lead to the same order. -/
lemma InOrder.eq {ops' : List (Operation γ)} {id : String} {l l' : List γ}
    (first : InOrder ops id l) (second : InOrder ops' id l')
    (defaults : givenDefaults ops' = givenDefaults ops)
    (same : ∀ name, given ops' name = given ops name) : l' = l := by
  obtain ⟨names, rising, shared, rfl⟩ := first
  obtain ⟨names', rising', shared', rfl⟩ := second
  have members (name : String) : name ∈ names' ↔ name ∈ names := by
    rw [shared, shared', same]
  have eq : names' = names :=
    List.Pairwise.eq_of_mem_iff (r := (· < ·)) (rising'.imp Text.Utf8.encode_lt_encode_iff.1)
      (rising.imp Text.Utf8.encode_lt_encode_iff.1) members
  rw [eq, defaults, same, funext same]

end

variable {κ : Type} {β : κ → Type} {γ : Type} {cs : Contexts β γ} {ops : List (Operation γ)}

/-- Contexts hold what was given in a history, each name in one row. -/
structure Hold (cs : Contexts β γ) (ops : List (Operation γ)) : Prop where
  defaults : cs.defaults = givenDefaults ops
  ordered : cs.configurations.Ordered
  configurations (name : String) :
    cs.configurations.get? name = if given ops name = [] then none else some (given ops name)

lemma givenDefaults_concat (op : Operation γ) :
    givenDefaults (ops ++ [op]) = givenDefaults ops ++ op.default?.toList := by
  rw [givenDefaults, List.filterMap_append, List.filterMap_eq_flatMap_toList (l := [op])]
  simp [givenDefaults]

lemma given_concat (op : Operation γ) (name : String) :
    given (ops ++ [op]) name = op.under name (given ops name) :=
  List.foldl_concat ..

namespace Hold

lemma getD (hold : cs.Hold ops) (name : String) :
    (cs.configurations.get? name).getD [] = given ops name := by
  rw [hold.configurations]
  split
  next nothing => rw [nothing, Option.getD_none]
  next => rw [Option.getD_some]

/-- A new scope gets the configurations that are held in their order. -/
lemma inOrder (hold : cs.Hold ops) (id : String) : InOrder ops id (cs.configurationsFor id) := by
  let rows := cs.configurations.filter (isShared ·.1)
  refine ⟨rows.map (·.1), ?_, fun name => ?_, ?_⟩
  · rw [List.pairwise_map]
    exact (hold.ordered.filter _).imp fun lower => Text.Utf8.encode_lt_encode_iff.2 lower
  · have row : name ∈ rows.map (·.1) ↔
        isShared name = true ∧ ∃ l, cs.configurations.get? name = some l := by
      constructor
      · intro listed
        obtain ⟨⟨_, l⟩, mem, rfl⟩ := List.mem_map.1 listed
        obtain ⟨mem, shared⟩ := List.mem_filter.1 mem
        exact ⟨shared, l, hold.ordered.get?_of_mem mem⟩
      · rintro ⟨shared, l, found⟩
        exact List.mem_map.2 ⟨(name, l), List.mem_filter.2 ⟨Table.mem_of_get? found, shared⟩, rfl⟩
    rw [row, hold.configurations]
    by_cases nothing : given ops name = [] <;> simp [nothing]
  · have values : rows.flatMap (·.2) = (rows.map (·.1)).flatMap (given ops) := by
      rw [List.flatMap_map]
      refine List.flatMap_congr fun row mem => ?_
      rw [← hold.getD, hold.ordered.get?_of_mem (List.mem_filter.1 mem).1, Option.getD_some]
    rw [configurationsFor, hold.defaults, hold.getD, ← values]

variable [Configures β γ]

/-- What is given by one more operation is held, too. -/
lemma step (hold : cs.Hold ops) (op : Operation γ) : (cs.step op).Hold (ops ++ [op]) := by
  cases op with
  | addDefault c =>
    refine ⟨?_, hold.ordered, fun name => ?_⟩
    · rw [givenDefaults_concat, ← hold.defaults]
      rfl
    · rw [given_concat]
      exact hold.configurations name
  | add n c =>
    obtain ⟨scopes, eq⟩ := cs.addConfiguration_eq n c
    rw [Contexts.step, eq]
    refine ⟨?_, hold.ordered.put _ _, fun name => ?_⟩
    · rw [givenDefaults_concat, ← hold.defaults]
      exact (List.append_nil _).symm
    · rw [given_concat, Table.get?_put, hold.getD, Operation.under]
      by_cases same : name = n
      · subst same
        simp
      · rw [if_neg same, if_neg (Ne.symm same), hold.configurations]
  | replace n l =>
    refine ⟨?_, ?_, fun name => ?_⟩
    · rw [givenDefaults_concat, ← hold.defaults]
      exact (List.append_nil _).symm
    · rw [Contexts.step, replaceConfigurations]
      split
      · exact hold.ordered.drop n
      · exact hold.ordered.put n l
    · rw [given_concat, Operation.under, Contexts.step, replaceConfigurations]
      by_cases same : name = n
      · subst same
        cases l <;> simp
      · rw [if_neg (Ne.symm same), ← hold.configurations]
        cases l <;> simp [same]
  | use id =>
    obtain ⟨scopes, eq⟩ := cs.ensure_eq id
    rw [Contexts.step, eq]
    refine ⟨?_, hold.ordered, fun name => ?_⟩
    · rw [givenDefaults_concat, ← hold.defaults]
      exact (List.append_nil _).symm
    · rw [given_concat]
      exact hold.configurations name

/-- New contexts hold all that is given to them. -/
lemma run (shared : Scope β) (catalog : Catalog β) (ops : List (Operation γ)) :
    (Contexts.run { shared, catalog } ops).Hold ops := by
  induction ops using List.reverseRecOn with
  | nil => exact ⟨rfl, .nil, fun name => rfl⟩
  | append_singleton ops op ih =>
    have last : Contexts.run { shared, catalog } (ops ++ [op]) =
        (Contexts.run { shared, catalog } ops).step op := List.foldl_concat ..
    rw [last]
    exact ih.step op

end Hold

/-- A scope below the shared one after configurations were carried out on it. -/
def carriedOut [Configures β γ] (shared s : Scope β) (l : List γ) : Scope β :=
  l.foldl (fun s c => Configures.configure c ⟨s, [shared]⟩) s

variable [Configures β γ] {shared : Scope β}

variable (cs) in
/-- The scope of a context is in use: it is the one that is meant, it stands below the shared scope,
and it is what certain configurations make of an empty scope. -/
structure MadeFrom (id : ScopeId) (shared : Scope β) (l : List γ) : Prop where
  same : cs.scopeId id.contextId = id
  chain : cs.chain id.contextId = ⟨carriedOut shared ⟨id.contextId, []⟩ l, [shared]⟩
  used : cs.scopes.get? id.contextId = some (carriedOut shared ⟨id.contextId, []⟩ l)

lemma carriedOut_append (s : Scope β) (l l' : List γ) :
    carriedOut shared s (l ++ l') = carriedOut shared (carriedOut shared s l) l' :=
  List.foldl_append

namespace MadeFrom

variable {id : ScopeId} {l : List γ}

lemma of_used (below : cs.shared = shared) (same : cs.scopeId id.contextId = id)
    (used : cs.scopes.get? id.contextId = some (carriedOut shared ⟨id.contextId, []⟩ l)) :
    cs.MadeFrom id shared l := by
  refine ⟨same, ?_, used⟩
  rw [chain_eq, scopeOf_of_some used, below]

lemma below (made : cs.MadeFrom id shared l) : cs.shared = shared :=
  List.singleton_inj.1 (congrArg Chain.above ((cs.chain_eq _).symm.trans made.chain))

/-- A scope in use stays the same, and gets what is brought to it. -/
lemma step (made : cs.MadeFrom id shared l) {op : Operation γ}
    (kept : ∀ l', op ≠ .replace id.contextId l') :
    (cs.step op).MadeFrom id shared (l ++ op.brings id.contextId) := by
  have nothing := List.append_nil l
  cases op with
  | addDefault c =>
    refine .of_used made.below made.same ?_
    exact nothing.symm ▸ made.used
  | add n c =>
    obtain ⟨scopes, eq⟩ := cs.addConfiguration_eq n c
    refine .of_used ?_ ?_ ?_
    · rw [Contexts.step, eq]
      exact made.below
    · rw [Contexts.step, eq]
      exact made.same
    · rw [Contexts.step, get?_scopes_add, made.used, Option.map_some, carriedOut_append,
        Operation.brings, ← made.below]
      split <;> rfl
  | replace n l' =>
    have other : id.contextId ≠ n := fun eq => kept l' (eq ▸ rfl)
    refine .of_used made.below ?_ ?_
    · rw [← made.same, Contexts.step, scopeId, retiredScopes_replaceConfigurations, scopeId]
      simp only [if_neg other]
    · rw [Contexts.step, get?_scopes_replaceConfigurations, if_neg other, made.used]
      exact congrArg (some <| carriedOut shared _ ·) nothing.symm
  | use i =>
    obtain ⟨scopes, eq⟩ := cs.ensure_eq i
    refine .of_used ?_ ?_ ?_
    · rw [Contexts.step, eq]
      exact made.below
    · rw [Contexts.step, eq]
      exact made.same
    · rw [Contexts.step, get?_scopes_ensure, scopeOf_of_some made.used, made.used, ite_self]
      exact congrArg (some <| carriedOut shared _ ·) nothing.symm

/-- It does so until its configurations are replaced. -/
lemma run (made : cs.MadeFrom id shared l) {later : List (Operation γ)}
    (kept : ∀ l', .replace id.contextId l' ∉ later) :
    (cs.run later).MadeFrom id shared (l ++ later.flatMap (·.brings id.contextId)) := by
  induction later generalizing cs l with
  | nil =>
    rw [List.flatMap_nil, List.append_nil]
    exact made
  | cons op later ih =>
    have first := made.step fun l' eq => kept l' (eq ▸ List.mem_cons_self)
    rw [List.flatMap_cons, ← List.append_assoc]
    exact ih first fun l' mem => kept l' (List.mem_cons_of_mem _ mem)

/-- Replaced configurations drop the scope, and the next one is another one. -/
lemma replace (made : cs.MadeFrom id shared l) (l' : List γ) :
    (cs.replaceConfigurations id.contextId l').scopes.get? id.contextId = none ∧
      (cs.replaceConfigurations id.contextId l').scopeId id.contextId ≠ id := by
  refine ⟨by rw [get?_scopes_replaceConfigurations, if_pos rfl], fun same => ?_⟩
  -- one more scope of the context gave way
  have count := congrArg ScopeId.generation (same.trans made.same.symm)
  simp [scopeId, retiredScopes_replaceConfigurations, made.used] at count

end MadeFrom

/-- A new scope is an empty one on which the configurations for its context were carried out. -/
lemma fresh_eq (cs : Contexts β γ) (id : String) :
    cs.fresh id = carriedOut cs.shared ⟨id, []⟩ (cs.configurationsFor id) :=
  fresh_of_keeps (cs.keeps id)

/-- A scope is made when it is first used, from all configurations for its context. -/
lemma madeFrom_ensure {id : String} (missing : cs.scopes.get? id = none) :
    (cs.ensure id).MadeFrom (cs.scopeId id) cs.shared (cs.configurationsFor id) := by
  obtain ⟨scopes, eq⟩ := cs.ensure_eq id
  have used := cs.get?_ensure id
  rw [scopeOf_eq, missing, Option.getD_none, fresh_eq] at used
  refine .of_used ?_ ?_ used
  · rw [eq]
  · rw [eq]
    rfl

lemma run_append (cs : Contexts β γ) (ops ops' : List (Operation γ)) :
    cs.run (ops ++ ops') = (cs.run ops).run ops' :=
  List.foldl_append

/-- No operation changes the shared scope. -/
lemma shared_run (cs : Contexts β γ) (ops : List (Operation γ)) :
    (cs.run ops).shared = cs.shared := by
  induction ops generalizing cs with
  | nil => rfl
  | cons op ops ih =>
    refine (ih (cs.step op)).trans ?_
    cases op with
    | add n c =>
      obtain ⟨scopes, eq⟩ := cs.addConfiguration_eq n c
      rw [step, eq]
    | use id =>
      obtain ⟨scopes, eq⟩ := cs.ensure_eq id
      rw [step, eq]
    | _ => rfl

/-- The scope of a context is made when it is first used: from all that was given until then, in
order, on an empty scope below the shared one. It stays the same scope, and is not made again, until
its configurations are replaced; then it is gone, and the next one is another one. The order in
which configurations were given under different names does not count for it. -/
theorem run_madeFrom (shared : Scope β) (catalog : Catalog β) {ops : List (Operation γ)}
    {id : String} (missing : (run { shared, catalog } ops).scopes.get? id = none) :
    ∃ l, InOrder ops id l ∧
      (∀ later : List (Operation γ), (∀ l', .replace id l' ∉ later) →
        let known := (run { shared, catalog } ops).scopeId id
        let cs := run { shared, catalog } (ops ++ .use id :: later)
        cs.MadeFrom known shared (l ++ later.flatMap (·.brings id)) ∧ cs.step (.use id) = cs ∧
          ∀ l', (cs.step (.replace id l')).scopes.get? id = none ∧
            (cs.step (.replace id l')).scopeId id ≠ known) ∧
      ∀ ops' : List (Operation γ),
        ops'.filterMap Operation.default? = ops.filterMap Operation.default? →
        (∀ name, ops'.filter (·.name? = some name) = ops.filter (·.name? = some name)) →
        (run { shared, catalog } ops').scopes.get? id = none →
        (run { shared, catalog } ops').scopeOf id = (run { shared, catalog } ops).scopeOf id := by
  have inOrder := (Hold.run shared catalog ops).inOrder id
  refine ⟨_, inOrder, fun later kept => ?_, fun ops' defaults names missing' => ?_⟩
  · have made := madeFrom_ensure missing
    rw [shared_run] at made
    have made' := made.run kept
    have eq : run { shared, catalog } (ops ++ .use id :: later) =
        ((run { shared, catalog } ops).ensure id).run later := run_append _ _ _
    dsimp only
    rw [eq]
    exact ⟨made', ensure_of_some made'.used, made'.replace⟩
  · have same (name : String) : given ops' name = given ops name := by
      rw [← given_filter, names, given_filter]
    have order := inOrder.eq ((Hold.run shared catalog ops').inOrder id) defaults same
    rw [scopeOf_eq, scopeOf_eq, missing, missing', Option.getD_none, Option.getD_none, fresh_eq,
      fresh_eq, order, shared_run, shared_run]

/-- Any function of what a chain shows is a configuration. -/
instance : Configures β (Chain β → List (Entry β)) where
  configure f chain := { chain.nearest with entries := f chain }
  name_configure _ _ := rfl

/-- Components of one type, and each is a number. -/
abbrev Numbers : Unit → Type := fun _ => Nat

/-- Registers a number under a name. -/
def numbered (name : String) (n : Nat) (chain : Chain Numbers) : List (Entry Numbers) :=
  (chain.nearest.register ⟨(), ⟨name, n, 0⟩⟩).entries

/-- Configurations of a context, of all contexts and of shared names, one of them replaced, while
the scope of another context is in use. -/
def mixedHistory : List (Operation (Chain Numbers → List (Entry Numbers))) :=
  [.add "users" (numbered "own" 1), .add "default.b" (numbered "old" 2),
    .add "default.a" (numbered "a" 3), .use "orders",
    .add "default.a" fun chain => chain.nearest.entries.filter (·.name != "dropped"),
    .replace "default.b" [numbered "b" 4], .addDefault (numbered "dropped" 5),
    .addDefault (numbered "given" 6)]

theorem run_madeFrom_mixed :
    let shared : Scope Numbers := ⟨"application", []⟩
    (run { shared } mixedHistory).scopes.get? "users" = none ∧
      ∃ l, InOrder mixedHistory "users" l ∧
        (carriedOut shared ⟨"users", []⟩ l).entries.map (·.name) = ["given", "a", "b", "own"] := by
  intro shared
  have missing : (run { shared } mixedHistory).scopes.get? "users" = none := by decide +kernel
  obtain ⟨l, inOrder, law, -⟩ := run_madeFrom shared {} missing
  have made := (law [] fun _ => List.not_mem_nil).1.chain
  rw [List.flatMap_nil, List.append_nil] at made
  have names : ((run { shared } (mixedHistory ++ [.use "users"])).chain "users").nearest.entries.map
      (·.name) = ["given", "a", "b", "own"] := by decide +kernel
  refine ⟨missing, l, inOrder, ?_⟩
  rw [← names]
  exact congrArg (fun chain : Chain Numbers => chain.nearest.entries.map (·.name)) made.symm

end ServiceClient.Contexts
