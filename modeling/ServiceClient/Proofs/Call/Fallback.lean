import ServiceClient.Call.Session
import ServiceClient.Proofs.Call.Retry

/-!
# Calls with a fallback

A caller is told the value of the last attempt if it fits what the caller wants; all other ways in
which a call ends are failures, told by `Fails`. `executeOrFallback_contacts` compares a call that
may fall back with the call that may not: both send the same requests and differ only when the call
fails, in what they turn to after the last request.
-/

namespace ServiceClient

namespace Client

variable (c : Client) (key : String) (t : Template) (shape : ResultShape) (s : Surroundings)

/-- Whether the attempt with a given number is the last one of a call. -/
def LastAttempt (n : Nat) : Prop :=
  IsLeast {i | 1 ≤ i ∧ c.handler.EndsAt c.target key t s i} n

/-- How a call fails in the eyes of its caller. -/
inductive Fails : ClientError → Prop where
  | final {n e} :
    c.LastAttempt key t s n →
    (c.handler.attemptAt c.target key t s n).result = .error e →
    e.isRetryable = false ∨ n = 1 ∨ c.handler.exceptionPolicy = .unwrap →
    Fails e
  | exhausted {n e} :
    c.LastAttempt key t s n →
    (c.handler.attemptAt c.target key t s n).result = .error e →
    e.isRetryable = true → n ≠ 1 → c.handler.exceptionPolicy ≠ .unwrap →
    Fails (.retriesExhausted key n e)
  | misfit {n v} :
    c.LastAttempt key t s n →
    (c.handler.attemptAt c.target key t s n).result = .ok v →
    shape v = none →
    Fails (.decode key (.json .shape))

/-- A call has a last attempt, and gives what becomes of its result. -/
lemma call_result : ∃ n, c.LastAttempt key t s n ∧
    (c.handler.call c.target key t s).result = c.handler.concluded c.target key t s n := by
  obtain ⟨k, le, again, last, result, -, -⟩ :=
    c.handler.attemptsFrom_attempts c.target key t s 1 (c.handler.retry.maxAttempts - 1)
  exact ⟨1 + k, c.handler.isLeast_endsAt c.target key t s le again last, result⟩

/-- A call whose last attempt gives a value gives this value, if it fits. -/
lemma execute_of_ok {n : Nat} {v : Json} (lastOne : c.LastAttempt key t s n)
    (ended : (c.handler.attemptAt c.target key t s n).result = .ok v) :
    (c.execute key t shape s).result = fit key shape v := by
  obtain ⟨m, lastOne', result⟩ := c.call_result key t s
  cases IsLeast.unique lastOne lastOne'
  change resultOf key shape (c.handler.call c.target key t s) = _
  rw [resultOf, result, Handler.concluded, ended]
  rfl

/-- A call whose last attempt fails fails too, with the error of this attempt or with one that
counts the attempts. -/
lemma execute_of_error {n : Nat} {e : ClientError} (lastOne : c.LastAttempt key t s n)
    (ended : (c.handler.attemptAt c.target key t s n).result = .error e) :
    (c.execute key t shape s).result = .error
      (if e.isRetryable = false ∨ n = 1 ∨ c.handler.exceptionPolicy = .unwrap then e
      else .retriesExhausted key n e) := by
  obtain ⟨m, lastOne', result⟩ := c.call_result key t s
  cases IsLeast.unique lastOne lastOne'
  have once : n ≤ 1 ↔ n = 1 := ⟨fun le => Nat.le_antisymm le lastOne.1.1, Nat.le_of_eq⟩
  change resultOf key shape (c.handler.call c.target key t s) = _
  rw [resultOf, result, Handler.concluded, ended]
  simp only [Except.mapError, Handler.giveUp, once, Bool.or_eq_true, decide_eq_true_eq]
  cases e.isRetryable <;> simp

/-- A call without a fallback gives an error exactly when it fails with it. -/
lemma execute_error_iff (e : ClientError) :
    (c.execute key t shape s).result = .error e ↔ c.Fails key t shape s e := by
  constructor
  · intro eq
    obtain ⟨n, lastOne, -⟩ := c.call_result key t s
    cases ended : (c.handler.attemptAt c.target key t s n).result with
    | ok v =>
      rw [c.execute_of_ok key t shape s lastOne ended, fit] at eq
      split at eq
      next => cases eq
      next misfit =>
        cases eq
        exact .misfit lastOne ended misfit
    | error e' =>
      rw [c.execute_of_error key t shape s lastOne ended] at eq
      split at eq
      next plain =>
        cases eq
        exact .final lastOne ended plain
      next wrapped =>
        cases eq
        simp only [not_or, Bool.not_eq_false] at wrapped
        exact .exhausted lastOne ended wrapped.1 wrapped.2.1 wrapped.2.2
  · intro fails
    cases fails with
    | final lastOne ended plain =>
      rw [c.execute_of_error key t shape s lastOne ended, if_pos plain]
    | exhausted lastOne ended re several wrap =>
      rw [c.execute_of_error key t shape s lastOne ended, if_neg (by simp [re, several, wrap])]
    | misfit lastOne ended misfit =>
      rw [c.execute_of_ok key t shape s lastOne ended, fit, misfit]

section

variable (answer : Delegate → Except ClientError Json)

/-- A call that may fall back makes the exchange of one that may not. -/
lemma exchange_executeOrFallback :
    (c.executeOrFallback key t shape s answer).exchange =
      (c.execute key t shape s).exchange := by
  unfold executeOrFallback
  dsimp only
  split
  · rfl
  · split <;> rfl

/-- A call that succeeds gives its value, and turns to nothing else. -/
lemma executeOrFallback_of_ok {v : Json} (eq : (c.execute key t shape s).result = .ok v) :
    (c.executeOrFallback key t shape s answer).result = .ok v ∧
      (c.executeOrFallback key t shape s answer).contacts =
        (c.execute key t shape s).contacts := by
  simp only [executeOrFallback, eq, and_self]

/-- A call that fails and has no delegate gives its error, and turns to nothing else. -/
lemma executeOrFallback_of_undelegated {e : ClientError}
    (eq : (c.execute key t shape s).result = .error e) (wired : c.delegateFor? e = none) :
    (c.executeOrFallback key t shape s answer).result = .error e ∧
      (c.executeOrFallback key t shape s answer).contacts =
        (c.execute key t shape s).contacts := by
  simp only [executeOrFallback, eq, wired, and_self]

/-- A call that fails and has a delegate gives what the delegate answers. -/
lemma executeOrFallback_of_delegated {e : ClientError} {d : Delegate} {before : List Contact}
    (eq : (c.execute key t shape s).result = .error e)
    (wired : c.delegateFor? e = some (d, before)) :
    (c.executeOrFallback key t shape s answer).result = answer d ∧
      (c.executeOrFallback key t shape s answer).contacts =
        (c.execute key t shape s).contacts ++ (before ++ [.delegate d]) := by
  simp only [executeOrFallback, eq, wired, List.append_assoc, and_self]

end

/-- Over a network, a call that may fall back hands over the same requests and leaves the same
network behind as one that may not. -/
lemma run_withFallback (network : Network) (origin : Origin) :
    (c.run network origin true key t shape).deliveries =
        (c.run network origin false key t shape).deliveries ∧
      (c.run network origin true key t shape).network =
        (c.run network origin false key t shape).network := by
  have same := c.exchange_executeOrFallback key t shape
    { answer := network.answers origin c.handler.transport.entry } (askDelegate key t shape)
  simp only [run, if_true, Bool.false_eq_true, if_false, same, true_and]

/-- A call that may fall back makes the exchange of one that may not, and the same of its value. It
turns to nothing else unless it fails. Then the delegate that is wired is called, once, and what the
caller is answered there is the result; a factory makes this delegate, once, and is given the very
error of the call. -/
theorem executeOrFallback_contacts :
    let plain := c.execute key t shape s
    let o := c.executeOrFallback key t shape s
    (∀ answer, (o answer).exchange = plain.exchange) ∧
      plain.contacts = plain.exchange.requests.map .request ∧
      (∀ network origin,
        let falling := c.run network origin true key t shape
        let failing := c.run network origin false key t shape
        falling.deliveries = failing.deliveries ∧ falling.network = failing.network) ∧
      (∀ v, plain.result = .ok v →
        ∀ answer, (o answer).result = .ok v ∧ (o answer).contacts = plain.contacts) ∧
      ∀ e, (plain.result = .error e ↔ c.Fails key t shape s e) ∧
        (plain.result = .error e → ∀ answer,
          match c.fallback with
          | .none => (o answer).result = .error e ∧ (o answer).contacts = plain.contacts
          | .delegate d =>
            (o answer).result = answer d ∧
              (o answer).contacts = plain.contacts ++ [.delegate d]
          | .factory f =>
            (o answer).result = answer (f.create e) ∧
              (o answer).contacts = plain.contacts ++ [.factory e, .delegate (f.create e)]) := by
  intro plain o
  refine ⟨c.exchange_executeOrFallback key t shape s, rfl, c.run_withFallback key t shape,
    fun v eq answer => c.executeOrFallback_of_ok key t shape s answer eq, fun e =>
    ⟨c.execute_error_iff key t shape s e, fun eq answer => ?_⟩⟩
  cases wired : c.fallback with
  | none =>
    have without : c.delegateFor? e = none := by rw [delegateFor?, wired]
    exact c.executeOrFallback_of_undelegated key t shape s answer eq without
  | delegate d =>
    have given : c.delegateFor? e = some (d, []) := by rw [delegateFor?, wired]
    exact c.executeOrFallback_of_delegated key t shape s answer eq given
  | factory f =>
    have made : c.delegateFor? e = some (f.create e, [.factory e]) := by rw [delegateFor?, wired]
    exact c.executeOrFallback_of_delegated key t shape s answer eq made

end Client
end ServiceClient
