import Mathlib.Data.List.Infix
import ServiceClient.Proofs.Call.Server

/-!
# What the standard contract lets pass

The standard contract sees a template when its query map has become queries, its body is encoded and
all interceptors have changed it, and nothing changes the template after that. So no assumption on
the encoders and the interceptors is needed: `call_standard` says that every request that is sent
stems from a template that is `Admissible`, and how a call ends whose template is not.
-/

namespace ServiceClient

/-- A part occurs in a text when it is a run of neighbours there. -/
lemma Text.containsRun_iff {part cs : List Char} : containsRun part cs = true ↔ part <:+: cs := by
  induction cs with
  | nil => rw [containsRun, List.isEmpty_iff, List.infix_nil]
  | cons c cs ih =>
    rw [containsRun, Bool.or_eq_true, ih, List.isPrefixOf_iff_prefix, List.infix_cons_iff]

/-- A body is empty when no octets are sent for it; a value is never empty. -/
lemma Body.isEmpty_iff {b : Body} : b.isEmpty = true ↔ b.octets? = some [] := by
  cases b <;> simp [isEmpty, octets?]

namespace Template

/-- The path names a server of its own. -/
def NamesServer (t : Template) : Prop := "://".toList <:+: t.path.toList

/-- The method is one of those whose requests have no body. -/
def OnlyReads (t : Template) : Prop := t.method = "GET" ∨ t.method = "HEAD"

/-- What the standard contract asks of a template. -/
structure Admissible (t : Template) : Prop where
  relative : ¬t.NamesServer
  bodiless : t.OnlyReads → t.body.octets? = some []

/-- A request is the one of an admissible template, and in it nothing is left to be encoded. -/
structure Admits (target : Target) (t : Template) (x : Http.Request) : Prop where
  admissible : t.Admissible
  url : t.url target.url = .ok x.url
  method : t.method = x.method
  headers : t.headers = x.headers
  body : t.body.octets? = some x.body

variable {t : Template} {target : Target}

/-- A request that only reads is sent without a body. -/
lemma Admits.body_eq_nil {x : Http.Request} (admits : t.Admits target x)
    (reads : x.method = "GET" ∨ x.method = "HEAD") : x.body = [] := by
  have empty := admits.admissible.bodiless (by rw [OnlyReads, admits.method]; exact reads)
  rw [admits.body] at empty
  exact Option.some.inj empty

end Template

namespace Contract

variable {t : Template} {target : Target}

/-- The standard contract lets a template pass when it is admissible. -/
lemma standard_validate_ok : standard.validate target t = .ok () ↔ t.Admissible := by
  have absolute : isAbsolute t.path = true ↔ t.NamesServer := Text.containsRun_iff
  have bodiless : isBodiless t.method = true ↔ t.OnlyReads := by
    simp [isBodiless, Template.OnlyReads]
  simp only [standard]
  split
  next path =>
    exact ⟨nofun, fun admissible => absurd (absolute.1 path) admissible.relative⟩
  next path =>
    split
    next body =>
      rw [Bool.and_eq_true, bodiless, Bool.not_eq_true', ← Bool.not_eq_true, Body.isEmpty_iff]
        at body
      exact ⟨nofun, fun admissible => absurd (admissible.bodiless body.1) body.2⟩
    next body =>
      rw [Bool.and_eq_true, bodiless, Bool.not_eq_true', ← Bool.not_eq_true, Body.isEmpty_iff,
        not_and_not_right] at body
      exact ⟨fun _ => ⟨fun named => path (absolute.2 named), body⟩, fun _ => rfl⟩

variable (target) in
/-- And tells a violation of any other one. -/
lemma standard_validate_error (flawed : ¬t.Admissible) :
    ∃ m, standard.validate target t = .error m := by
  cases checked : standard.validate target t with
  | ok => exact absurd (standard_validate_ok.1 checked) flawed
  | error m => exact ⟨m, rfl⟩

end Contract

namespace Handler

variable (h : Handler) (target : Target) (key : String) (t : Template) (s : Surroundings)

/-- A call ends with an error in its first attempt, before anything is sent. -/
structure StopsAtOnce (e : ClientError) : Prop where
  attempt : ∀ a, h.attempt target key t a = { result := .error e }
  first : IsLeast {i | 1 ≤ i ∧ h.EndsAt target key t s i} 1
  result : (h.call target key t s).result = .error e
  requests : (h.call target key t s).requests = []
  waits : (h.call target key t s).waits = []

variable {h target key t}

/-- A call that has no request to send stops at once. -/
lemma stopsAtOnce_of_prepare {e : ClientError} (eq : h.prepare target key t = .error e) :
    h.StopsAtOnce target key t s e := by
  have attempt (a : Answer) : h.attempt target key t a = { result := .error e } := by
    rw [Handler.attempt, eq]
  have final : e.isRetryable = false := by
    by_contra re
    rw [Bool.not_eq_false] at re
    exact Bool.false_ne_true ((prepare_error (s.answer 0) eq).sent_of_isRetryable re)
  have ends : h.EndsAt target key t s 1 := by
    refine .inl ?_
    rintro ⟨e', fails, re⟩
    rw [attemptAt, attempt] at fails
    cases fails
    rw [final] at re
    cases re
  -- whether or not attempts are left, none follows the first one
  have only : h.call target key t s = ⟨.error e, [], [], []⟩ := by
    rw [call]
    cases h.retry.maxAttempts - 1 with
    | zero => simp [attemptsFrom, attempt, final, Except.mapError]
    | succ left => simp [attemptsFrom, attempt, final]
  exact ⟨attempt, ⟨⟨Nat.le_refl 1, ends⟩, fun i mem => mem.1⟩, by rw [only], by rw [only],
    by rw [only]⟩

/-- Under the standard contract, what an attempt sends is the request of an admissible template. -/
lemma admits_of_composed (standard : h.contract = .standard) {x : Http.Request}
    (composed : h.Composed target t x) : ∃ u, h.finish key t = .ok u ∧ u.Admits target x := by
  obtain ⟨encoded, allowed, url, body⟩ := composed
  rw [standard] at allowed
  exact ⟨_, finish_eq_ok.2 ⟨_, encoded, rfl⟩,
    Contract.standard_validate_ok.1 allowed, url, rfl, rfl, body⟩

/-- A template that is not admissible when it is finished violates the contract. -/
lemma stopsAtOnce_of_not_admissible (standard : h.contract = .standard) {u : Template}
    (finished : h.finish key t = .ok u) (flawed : ¬u.Admissible) :
    ∃ m, h.StopsAtOnce target key t s (.contract m) := by
  obtain ⟨m, violated⟩ := Contract.standard_validate_error target flawed
  refine ⟨m, stopsAtOnce_of_prepare s ?_⟩
  simp only [prepare, finished, standard, violated]

/-- A value that no encoder took has no request. -/
lemma stopsAtOnce_of_value {u : Template} (finished : h.finish key t = .ok u)
    (allowed : h.contract.validate target u = .ok ()) {v : Json} (body : u.body = .value v) :
    (∃ url e, h.StopsAtOnce target key t s (.invalidUrl url e)) ∨
      ∃ c, h.StopsAtOnce target key t s (.encode key c) := by
  have asked : h.prepare target key t = request target key u := by
    simp only [prepare, finished, allowed]
  rw [request, body] at asked
  cases found : u.url target.url with
  | error e =>
    rw [found] at asked
    exact .inl ⟨_, _, stopsAtOnce_of_prepare s asked⟩
  | ok url =>
    rw [found] at asked
    exact .inr ⟨_, stopsAtOnce_of_prepare s asked⟩

variable (h target key t)

/-- Under the standard contract, whatever encoders, interceptors and transports do: a request that
is sent, in any attempt, is that of an admissible template without a value to be encoded, and has no
body if it only reads. A template that is not admissible, or that still has a value as its body,
ends the call in the first attempt; nothing is sent, and the error says why. -/
theorem call_standard (standard : h.contract = .standard) :
    (∀ a x, (h.attempt target key t a).sent = some x ∨ x ∈ (h.call target key t s).requests →
      (x.method = "GET" ∨ x.method = "HEAD" → x.body = []) ∧
        ∃ u, h.finish key t = .ok u ∧ u.Admits target x) ∧
      ∀ u, h.finish key t = .ok u →
        (u.OnlyReads ∧ u.body.octets? ≠ some [] ∨ u.NamesServer →
          ∃ m, h.StopsAtOnce target key t s (.contract m)) ∧
        ∀ v, u.body = .value v →
          (∃ m, h.StopsAtOnce target key t s (.contract m)) ∨
          (∃ url e, h.StopsAtOnce target key t s (.invalidUrl url e)) ∨
          ∃ c, h.StopsAtOnce target key t s (.encode key c) := by
  refine ⟨fun a x sent => ?_, fun u finished => ⟨fun flaw => ?_, fun v body => ?_⟩⟩
  · have composed : h.Composed target t x := by
      rcases sent with sent | sent
      · by_contra other
        cases prepared : h.prepare target key t with
        | error e =>
          rw [attempt, prepared] at sent
          cases sent
        | ok x' =>
          rw [attempt, prepared] at sent
          cases sent
          exact other (prepare_eq_ok.1 prepared)
      · exact composed_of_mem_requests sent
    obtain ⟨u, finished, admits⟩ := admits_of_composed standard composed
    exact ⟨admits.body_eq_nil, u, finished, admits⟩
  · refine stopsAtOnce_of_not_admissible s standard finished fun admissible => ?_
    rcases flaw with ⟨reads, full⟩ | absolute
    · exact full (admissible.bodiless reads)
    · exact admissible.relative absolute
  · by_cases admissible : u.Admissible
    · have allowed : h.contract.validate target u = .ok () := by
        rw [standard]
        exact Contract.standard_validate_ok.2 admissible
      exact .inr (stopsAtOnce_of_value s finished allowed body)
    · exact .inl (stopsAtOnce_of_not_admissible s standard finished admissible)

/-- A handler whose interceptor puts octets into the place of whatever was encoded. -/
def bodyPutter (octets : Bytes) : Handler :=
  { Template.usualHandler with interceptors := [.body octets] }

/-- It cannot read with a body, but it can when it takes the encoded body away. -/
theorem call_standard_bodyPutter :
    let users : Target := ⟨⟨"UsersClient", .interface⟩, "users", "http://users:8080/api/"⟩
    let t : Template := { path := "/list", body := .value .null }
    let s : Surroundings := { answer := fun _ => .ok ⟨200, [], []⟩ }
    (∃ m, (bodyPutter [33]).StopsAtOnce users "list" t s (.contract m)) ∧
      ∃ x ∈ ((bodyPutter []).call users "list" t s).requests, x.method = "GET" ∧ x.body = [] := by
  intro users t s
  obtain ⟨-, refused⟩ := call_standard (bodyPutter [33]) users "list" t s rfl
  obtain ⟨sent, -⟩ := call_standard (bodyPutter []) users "list" t s rfl
  have full : ∃ u, (bodyPutter [33]).finish "list" t = .ok u ∧
      u.OnlyReads ∧ u.body.octets? ≠ some [] := ⟨_, rfl, .inl rfl, by decide⟩
  obtain ⟨u, finished, reads, body⟩ := full
  have once : ((bodyPutter []).call users "list" t s).requests.map (·.method) = ["GET"] := by
    decide +kernel
  have mem : "GET" ∈ ((bodyPutter []).call users "list" t s).requests.map (·.method) := by
    rw [once]
    exact List.mem_singleton_self _
  obtain ⟨x, mem, method⟩ := List.mem_map.1 mem
  refine ⟨(refused u finished).1 (.inl ⟨reads, body⟩), x, mem, method, ?_⟩
  exact (sent (s.answer 0) x (.inr mem)).1 (.inl method)

end Handler
end ServiceClient
