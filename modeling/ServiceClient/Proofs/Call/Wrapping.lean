import ServiceClient.Proofs.Call.Server
import ServiceClient.Proofs.Steps

/-!
# Errors of calls that gave up

A call whose last attempt failed like the ones before it fails with an error that wraps this failure,
or with the failure itself, as the exception policy says. `call_withPolicy` says that this is all
that the policy does, so nothing but the error of a call can differ. `call_policies` compares the
two errors: they tell the same status, but not always the same wait, since an error does not pass on
the wait that the server asked for in the failure that it wraps.
-/

namespace ServiceClient

namespace ClientError

/-- The error of a call of which so many attempts were made, if its last failure is wrapped. -/
def wrapped (key : String) (attempts : Nat) (e : ClientError) : ClientError :=
  if e.isRetryable = true ∧ 1 < attempts then .retriesExhausted key attempts e else e

variable {key : String} {attempts : Nat} {e : ClientError}

/-- A failure that ends the call for good is not wrapped. -/
lemma wrapped_of_final (final : ¬e.isRetryable = true) : wrapped key attempts e = e :=
  if_neg fun both => final both.1

/-- The status of a failure is told through what wraps it. -/
lemma status?_wrapped : (wrapped key attempts e).status? = e.status? := by
  unfold wrapped
  split <;> rfl

/-- A failure that tells a wait may be tried again. -/
lemma isRetryable_of_retryAfter? (told : e.retryAfter? ≠ none) : e.isRetryable = true := by
  cases e with
  | retryableStatus => rfl
  | _ => exact absurd rfl told

/-- The wait is not told through what wraps the failure. -/
lemma retryAfter?_wrapped :
    (wrapped key attempts e).retryAfter? = e.retryAfter? ↔ attempts ≤ 1 ∨ e.retryAfter? = none := by
  by_cases told : e.retryAfter? = none
  · simp only [told, or_true, iff_true]
    unfold wrapped
    split
    · rfl
    · exact told
  · have again := isRetryable_of_retryAfter? told
    simp only [told, or_false]
    unfold wrapped
    by_cases several : 1 < attempts
    · rw [if_pos ⟨again, several⟩]
      exact ⟨fun same => absurd same.symm told, fun one => absurd several (Nat.not_lt.2 one)⟩
    · rw [if_neg fun both => several both.2]
      exact iff_of_true rfl (Nat.not_lt.1 several)

end ClientError

namespace Handler

variable (h : Handler) (target : Target) (key : String) (t : Template) (s : Surroundings)

/-- The handler with another exception policy. -/
def withPolicy (p : ExceptionPolicy) : Handler :=
  { h with exceptionPolicy := p }

/-- The policy does not count for an attempt. -/
lemma attempt_withPolicy (p : ExceptionPolicy) (a : Answer) :
    (h.withPolicy p).attempt target key t a = h.attempt target key t a := rfl

/-- Several attempts are the same under both policies, up to the error at their end. -/
lemma attemptsFrom_withPolicy (number left : Nat) :
    let bare := (h.withPolicy .unwrap).attemptsFrom target key t s number left
    (h.withPolicy .none).attemptsFrom target key t s number left =
      { bare with
        result := bare.result.mapError (.wrapped key (number + bare.waits.length)) } := by
  induction left generalizing number with
  | zero =>
    simp only [attemptsFrom, attempt_withPolicy]
    cases (h.attempt target key t (s.answer (number - 1))).result with
    | ok v => rfl
    | error e =>
      by_cases again : e.isRetryable = true <;> by_cases one : number ≤ 1 <;>
        simp [Except.mapError, ClientError.wrapped, giveUp, withPolicy, again, one]
  | succ left ih =>
    simp only [attemptsFrom, attempt_withPolicy]
    cases (h.attempt target key t (s.answer (number - 1))).result with
    | ok v => rfl
    | error e =>
      dsimp only
      split
      next =>
        rw [ih (number + 1), List.length_cons, Nat.add_assoc, Nat.add_comm 1]
        rfl
      next final =>
        simp only [Except.mapError, ClientError.wrapped_of_final final]

/-- A call is the same under both policies, up to its error: the one policy wraps the failure with
which a call under the other one ends. -/
lemma call_withPolicy :
    let bare := (h.withPolicy .unwrap).call target key t s
    (h.withPolicy .none).call target key t s =
      { bare with result := bare.result.mapError (.wrapped key (1 + bare.waits.length)) } :=
  h.attemptsFrom_withPolicy target key t s 1 (h.retry.maxAttempts - 1)

/-- Under both exception policies a call sends the same requests, waits and reports alike, and gives
the same value or fails. The two errors tell the same status. They tell the same wait exactly when
there was one attempt only, or when the last failure tells no wait. -/
theorem call_policies :
    let wrapped := (h.withPolicy .none).call target key t s
    let bare := (h.withPolicy .unwrap).call target key t s
    wrapped.requests = bare.requests ∧ wrapped.waits = bare.waits ∧
      wrapped.reports = bare.reports ∧
      (∀ v, wrapped.result = .ok v ↔ bare.result = .ok v) ∧
      ∀ e, bare.result = .error e → ∃ e', wrapped.result = .error e' ∧
        e'.status? = e.status? ∧
        (e'.retryAfter? = e.retryAfter? ↔ bare.waits = [] ∨ e.retryAfter? = none) := by
  intro wrapped bare
  have eq : wrapped = _ := h.call_withPolicy target key t s
  rw [eq]
  refine ⟨rfl, rfl, rfl, fun v => ?_, fun e failed => ?_⟩
  · cases bare.result with
    | ok w => rfl
    | error e => exact iff_of_false nofun nofun
  · have once : 1 + bare.waits.length ≤ 1 ↔ bare.waits = [] := by
      rw [← List.length_eq_zero_iff]
      omega
    refine ⟨.wrapped key (1 + bare.waits.length) e, ?_, ClientError.status?_wrapped, ?_⟩
    · dsimp only
      rw [failed]
      rfl
    · rw [ClientError.retryAfter?_wrapped, once]

/-- A handler that tries twice. -/
def twice : Handler :=
  { Template.usualHandler with retry := ⟨2, {}⟩ }

/-- A server that asks for a wait of three seconds, time and again. -/
def busy : Surroundings where
  answer _ := .ok ⟨503, [("retry-after", [51])], []⟩

/-- The wait that a server asks for at last is told under one policy only. -/
theorem not_call_policies :
    ¬ ∀ (h : Handler) (target : Target) (key : String) (t : Template) (s : Surroundings)
        (e e' : ClientError), ((h.withPolicy .none).call target key t s).result = .error e →
      ((h.withPolicy .unwrap).call target key t s).result = .error e' →
      e.status? = e'.status? ∧ e.retryAfter? = e'.retryAfter? := by
  intro same
  let users : Target := ⟨⟨"UsersClient", .interface⟩, "users", "http://users"⟩
  have wrapped : ((twice.withPolicy .none).call users "list" {} busy).result.map (fun _ => ()) =
      .error (.retriesExhausted "list" 2 (.retryableStatus "list" 503 (some (.ofSeconds 3)))) := by
    decide +kernel
  have bare : ((twice.withPolicy .unwrap).call users "list" {} busy).result.map (fun _ => ()) =
      .error (.retryableStatus "list" 503 (some (.ofSeconds 3))) := by
    decide +kernel
  cases (same _ _ _ _ _ _ _ (map_error wrapped) (map_error bare)).2

end Handler
end ServiceClient
