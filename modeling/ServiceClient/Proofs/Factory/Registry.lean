import ServiceClient.Proofs.Factory.Cache
import ServiceClient.Proofs.Factory.Isolation
import ServiceClient.Proofs.Text.Utf8

/-!
# What is registered

Which descriptors a factory has can be read off the operations that led to it: those that are
`InForce`, because their context was not registered again. `lookups_first` says what the lookups of
descriptors answer in these terms, namely the one of them that comes `First` by its context id. So
the order in which different clients were registered does not count, and neither does what a
context had before its last registration.
-/

namespace ServiceClient.Factory

/-- The descriptor that an operation registers. -/
def Operation.registered? (ps : Placeholders) : Operation → Option Descriptor
  | .register d => (d.describe ps).toOption
  | _ => none

/-- A descriptor is in force after operations: one of them registers it, and no later one registers
its context again. -/
inductive InForce (ps : Placeholders) (d : Descriptor) : List Operation → Prop where
  | last {op ops} (registered : op.registered? ps = some d)
      (final : ∀ op' ∈ ops, op'.registers? ps ≠ some d.contextId) : InForce ps d (op :: ops)
  | later {op ops} (there : InForce ps d ops) : InForce ps d (op :: ops)

/-- Of the descriptors for which `p` holds, the one whose context id comes first in the order of
octets. -/
inductive First (p : Descriptor → Prop) : Option Descriptor → Prop where
  | none (nothing : ∀ d, ¬p d) : First p none
  | some {d} (holds : p d)
      (first : ∀ d', p d' →
        d' = d ∨ Text.Utf8.encode d.contextId < Text.Utf8.encode d'.contextId) :
      First p (some d)

namespace First

variable {p q : Descriptor → Prop} {x y : Option Descriptor}

/-- Only one descriptor comes first. -/
lemma unique (one : First p x) (other : First p y) : x = y := by
  cases one with
  | none nothing =>
    cases other with
    | none => rfl
    | some holds => exact absurd holds (nothing _)
  | some holds first =>
    cases other with
    | none nothing => exact absurd holds (nothing _)
    | some holds' first' =>
      rcases first _ holds' with rfl | lower
      · rfl
      · rcases first' _ holds with rfl | lower'
        · rfl
        · exact absurd lower' (List.lt_asymm lower)

/-- It is told by what holds of it. -/
lemma congr (same : ∀ d, p d ↔ q d) (one : First p x) : First q x := by
  rwa [funext fun d => propext (same d)] at one

end First

/-- The first of descriptors that stand in the order of their context ids. -/
lemma first_head? {l : List Descriptor} (rising : l.Pairwise (·.contextId < ·.contextId))
    (p : Descriptor → Bool) : First (fun d => d ∈ l ∧ p d = true) (l.filter p).head? := by
  cases found : l.filter p with
  | nil =>
    refine .none fun d ⟨mem, holds⟩ => ?_
    exact List.filter_eq_nil_iff.1 found d mem holds
  | cons d ds =>
    have members (d' : Descriptor) : d' ∈ l ∧ p d' = true ↔ d' = d ∨ d' ∈ ds := by
      rw [← List.mem_filter, found, List.mem_cons]
    have behind := rising.filter p
    rw [found, List.pairwise_cons] at behind
    refine .some ((members d).2 (.inl rfl)) fun d' there => ?_
    refine ((members d').1 there).imp_right fun mem => ?_
    exact Text.Utf8.encode_lt_encode_iff.2 (behind.1 d' mem)

section

variable {ps : Placeholders} {ops : List Operation} {d : Descriptor}

/-- The context that an operation registers is that of its descriptor. -/
lemma registers?_eq (op : Operation) :
    op.registers? ps = (op.registered? ps).map (·.contextId) := by
  cases op <;> rfl

/-- Nothing is in force before the first operation. -/
lemma not_inForce_nil : ¬InForce ps d [] := nofun

/-- What the first operation registers is in force as long as the others leave its context alone. -/
lemma inForce_cons (op : Operation) : InForce ps d (op :: ops) ↔ InForce ps d ops ∨
    op.registered? ps = some d ∧ ∀ op' ∈ ops, op'.registers? ps ≠ some d.contextId := by
  constructor
  · intro here
    cases here with
    | last registered final => exact .inr ⟨registered, final⟩
    | later there => exact .inl there
  · rintro (there | ⟨registered, final⟩)
    · exact .later there
    · exact .last registered final

/-- Of two runs of operations the second one counts, and what it leaves alone of the first one. -/
lemma inForce_append (xs ys : List Operation) : InForce ps d (xs ++ ys) ↔
    InForce ps d ys ∨ InForce ps d xs ∧ ∀ op ∈ ys, op.registers? ps ≠ some d.contextId := by
  induction xs with
  | nil => simp [not_inForce_nil]
  | cons op xs ih =>
    rw [List.cons_append, inForce_cons, inForce_cons, ih, List.forall_mem_append]
    tauto

/-- Declarations that are accepted under different context ids are all in force. -/
lemma inForce_map_register {ds : List Declaration}
    (different : (ds.filterMap (·.contextId? ps)).Nodup) :
    InForce ps d (ds.map .register) ↔ ∃ e ∈ ds, e.describe ps = .ok d := by
  induction ds with
  | nil => simp [not_inForce_nil]
  | cons e ds ih =>
    have rest : (ds.filterMap (·.contextId? ps)).Nodup :=
      different.sublist ((List.sublist_cons_self e ds).filterMap _)
    rw [List.map_cons, inForce_cons, ih rest, List.exists_mem_cons_iff, or_comm, List.forall_mem_map]
    refine or_congr_left ⟨fun both => toOption_eq_some.1 both.1, fun described => ?_⟩
    refine ⟨toOption_eq_some.2 described, fun e' mem again => ?_⟩
    have registered : e.contextId? ps = some d.contextId :=
      Declaration.contextId?_eq_some.2 ⟨d, described, rfl⟩
    have kept : (e :: ds).filterMap (·.contextId? ps) =
        d.contextId :: ds.filterMap (·.contextId? ps) := List.filterMap_cons_some registered
    rw [kept, List.nodup_cons] at different
    exact different.1 (List.mem_filterMap.2 ⟨e', mem, again⟩)

end

section

variable {f : Factory} {id : String} {d : Descriptor}

/-- An operation gives a context the descriptor that it registers, or leaves it the one it had. -/
lemma descriptor?_step_eq_some (op : Operation) : (f.step op).2.descriptor? id = some d ↔
    op.registered? f.placeholders = some d ∧ d.contextId = id ∨
      f.descriptor? id = some d ∧ op.registers? f.placeholders ≠ some id := by
  by_cases registers : op.registers? f.placeholders = some id
  · cases op with
    | register declaration =>
      obtain ⟨e, described, rfl⟩ := Declaration.contextId?_eq_some.1 registers
      have now : (f.register declaration).factory.descriptor? e.contextId = some e :=
        (register_ok ((f.register_value declaration).trans described)).2
      have told : Operation.registered? f.placeholders (.register declaration) = some e :=
        toOption_eq_some.2 described
      simp only [step, now, told, registers, Option.some.injEq, ne_eq, not_true_eq_false, and_false,
        or_false]
      constructor
      · rintro rfl
        exact ⟨rfl, rfl⟩
      · exact And.left
    | _ => cases registers
  · rw [descriptor?_step registers]
    refine ⟨fun found => .inr ⟨found, registers⟩, ?_⟩
    rintro (⟨registered, rfl⟩ | ⟨found, -⟩)
    · exact absurd ((registers?_eq op).trans (congrArg _ registered)) registers
    · exact found

/-- A run gives a context the descriptor that is in force, or leaves it the one it had. -/
lemma descriptor?_run_eq_some (ops : List Operation) :
    (f.run ops).2.descriptor? id = some d ↔
      InForce f.placeholders d ops ∧ d.contextId = id ∨
        f.descriptor? id = some d ∧ ∀ op ∈ ops, op.registers? f.placeholders ≠ some id := by
  induction ops generalizing f with
  | nil => simp [run, not_inForce_nil]
  | cons op ops ih =>
    rw [run, ih, placeholders_step, descriptor?_step_eq_some, inForce_cons, List.forall_mem_cons]
    constructor
    · rintro (⟨there, rfl⟩ | ⟨⟨registered, rfl⟩ | ⟨found, kept⟩, final⟩)
      · exact .inl ⟨.inl there, rfl⟩
      · exact .inl ⟨.inr ⟨registered, final⟩, rfl⟩
      · exact .inr ⟨found, kept, final⟩
    · rintro (⟨there | ⟨registered, final⟩, rfl⟩ | ⟨found, kept, final⟩)
      · exact .inl ⟨there, rfl⟩
      · exact .inr ⟨.inl ⟨registered, rfl⟩, final⟩
      · exact .inr ⟨.inr ⟨found, kept⟩, final⟩

/-- The descriptors of a reachable factory stand in the order of their context ids. -/
lemma Reachable.rising (reach : f.Reachable) :
    (List.map Prod.snd f.descriptors).Pairwise (·.contextId < ·.contextId) := by
  rw [List.pairwise_map]
  refine reach.ordered.imp_of_mem fun {a b} mem mem' lower => ?_
  rwa [reach.contextId_eq (reach.ordered.get?_of_mem mem),
    reach.contextId_eq (reach.ordered.get?_of_mem mem')]

/-- Each of them is found under its context id, and each one that is found is among them. -/
lemma Reachable.mem_descriptors (reach : f.Reachable) :
    d ∈ List.map Prod.snd f.descriptors ↔ f.descriptor? d.contextId = some d :=
  ⟨reach.descriptor?_of_mem, fun found => List.mem_map.2 ⟨_, Table.mem_of_get? found, rfl⟩⟩

/-- A lookup by any property gives the first one of them that has it. -/
lemma Reachable.first_descriptorsWith (reach : f.Reachable) (p : Descriptor → Bool) :
    First (fun d => f.descriptor? d.contextId = some d ∧ p d = true) (f.descriptorsWith p).head? :=
  (first_head? reach.rising p).congr fun _ => and_congr_left' reach.mem_descriptors

section

variable (unknown : ∀ id, f.descriptor? id = none) (ops : List Operation)
include unknown

/-- If no context was known before a run, those are known whose descriptors are in force. -/
lemma descriptor?_run_of_unknown :
    (f.run ops).2.descriptor? id = some d ↔ InForce f.placeholders d ops ∧ d.contextId = id := by
  rw [descriptor?_run_eq_some, unknown]
  exact or_iff_left fun known => nomatch known.1

/-- A lookup by any property then gives the first one in force that has it. -/
lemma Reachable.first_run (reach : f.Reachable) (p : Descriptor → Bool) :
    First (fun d => InForce f.placeholders d ops ∧ p d = true)
      ((f.run ops).2.descriptorsWith p).head? := by
  refine (reach.run ops).first_descriptorsWith p |>.congr fun d => ?_
  rw [descriptor?_run_of_unknown unknown ops, and_iff_left rfl]

end

end

/-- Descriptors are looked up among those that are in force: by context id the only one, and by
qualifier or capability the first one that has the qualifier, or is primary for the capability. What
declarations under different context ids register is in force, in any order, and so is what other
contexts had before; in any order the answers of all lookups are the same. -/
theorem lookups_first (contexts : Contexts Kind.Value) (properties : Properties)
    (ps : Placeholders) (ops : List Operation) :
    let f := (run { contexts, properties, placeholders := ps } ops).2
    (∀ id d, f.descriptor? id = some d ↔ InForce ps d ops ∧ d.contextId = id) ∧
    (∀ q, First (fun d => InForce ps d ops ∧ q ∈ d.qualifiers) (f.qualified? q)) ∧
    (∀ t, First (fun d => InForce ps d ops ∧ d.primary = true ∧ d.clientType.name = t)
      (f.primary? t)) ∧
    ∀ ds : List Declaration, (ds.filterMap (·.contextId? ps)).Nodup →
      (∀ d, InForce ps d (ops ++ ds.map .register) ↔
        (∃ e ∈ ds, e.describe ps = .ok d) ∨
          InForce ps d ops ∧ ∀ e ∈ ds, e.contextId? ps ≠ some d.contextId) ∧
      ∀ ds' : List Declaration, ds'.Perm ds → ∀ id q t,
        let g := (f.run (ds.map .register)).2
        let g' := (f.run (ds'.map .register)).2
        g'.descriptor? id = g.descriptor? id ∧ g'.qualified? q = g.qualified? q ∧
          g'.primary? t = g.primary? t := by
  let new : Factory := { contexts, properties, placeholders := ps }
  have found (ops : List Operation) (id : String) (d : Descriptor) :
      (new.run ops).2.descriptor? id = some d ↔ InForce ps d ops ∧ d.contextId = id :=
    descriptor?_run_of_unknown (f := new) (fun _ => rfl) ops
  have first (ops : List Operation) (p : Descriptor → Bool) :
      First (fun d => InForce ps d ops ∧ p d = true) ((new.run ops).2.descriptorsWith p).head? :=
    (Reachable.new ..).first_run (fun _ => rfl) ops p
  have qualified (ops : List Operation) (q : String) :
      First (fun d => InForce ps d ops ∧ q ∈ d.qualifiers) ((new.run ops).2.qualified? q) :=
    (first ops (·.qualifiers.contains q)).congr fun d => by rw [List.contains_iff_mem]
  have primary (ops : List Operation) (t : String) :
      First (fun d => InForce ps d ops ∧ d.primary = true ∧ d.clientType.name = t)
        ((new.run ops).2.primary? t) :=
    (first ops fun d => d.primary && d.clientType.name == t).congr fun d => by
      rw [Bool.and_eq_true, beq_iff_eq]
  have registered {ds : List Declaration} (different : (ds.filterMap (·.contextId? ps)).Nodup)
      (d : Descriptor) : InForce ps d (ops ++ ds.map .register) ↔
        (∃ e ∈ ds, e.describe ps = .ok d) ∨
          InForce ps d ops ∧ ∀ e ∈ ds, e.contextId? ps ≠ some d.contextId := by
    rw [inForce_append, inForce_map_register different, List.forall_mem_map]
    rfl
  refine ⟨found ops, qualified ops, primary ops, fun ds different => ⟨registered different, ?_⟩⟩
  intro ds' perm id q t
  have different' : (ds'.filterMap (·.contextId? ps)).Nodup :=
    (perm.filterMap _).nodup_iff.2 different
  -- the same descriptors are in force in both orders
  have same (d : Descriptor) :
      InForce ps d (ops ++ ds'.map .register) ↔ InForce ps d (ops ++ ds.map .register) := by
    simp only [registered different, registered different', perm.mem_iff]
  have after (xs : List Operation) : ((new.run ops).2.run xs).2 = (new.run (ops ++ xs)).2 := by
    rw [run_append]
  dsimp only
  rw [after, after]
  refine ⟨Option.ext fun d => ?_, ?_, ?_⟩
  · rw [found, found, same]
  · exact ((qualified _ q).congr fun d => and_congr_left' (same d)).unique (qualified _ q)
  · exact ((primary _ t).congr fun d => and_congr_left' (same d)).unique (primary _ t)

/-- A client with the qualifier that another one has when it declares none. -/
def peopleClient (qualifiers : List String) : Declaration where
  clientType := ⟨"UsersClient", .interface⟩
  name := some "people"
  qualifiers := qualifiers

/-- Of two clients with one qualifier the same one is found in both orders, until it is registered
again without the qualifier. -/
theorem lookups_first_colliding :
    let one := (plain.run [.register usersClient, .register (peopleClient ["usersClient"])]).2
    let other := (plain.run [.register (peopleClient ["usersClient"]), .register usersClient]).2
    let again := (other.register (peopleClient [])).factory
    ([usersClient, peopleClient ["usersClient"]].filterMap (·.contextId? {})).Nodup ∧
      (one.qualified? "usersClient").map (·.contextId) = some "people" ∧
      other.qualified? "usersClient" = one.qualified? "usersClient" ∧
      other.primary? "UsersClient" = one.primary? "UsersClient" ∧
      (again.qualified? "usersClient").map (·.contextId) = some "users" := by
  intro one other again
  have different :
      ([usersClient, peopleClient ["usersClient"]].filterMap (·.contextId? {})).Nodup := by
    decide +kernel
  obtain ⟨-, -, -, order⟩ := lookups_first plain.contexts {} {} []
  obtain ⟨-, qualified, primary⟩ := (order _ different).2
    [peopleClient ["usersClient"], usersClient] (.swap ..) "users" "usersClient" "UsersClient"
  exact ⟨different, by decide +kernel, qualified, primary, by decide +kernel⟩

end ServiceClient.Factory
