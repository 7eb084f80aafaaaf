import Mathlib.Order.Bounds.Basic
import Mathlib.Tactic.Lemma
import ServiceClient.Proofs.Call.Composition

/-!
# Attempts and retries

What a single attempt does is given by the relation `Attempted`, one rule for each way in which an
attempt may end: a template that cannot be encoded, that the contract forbids or that has no address
is not sent, and otherwise the request for which it stands is sent. `call_attempts` says which
attempt of a call is the last one, what the call makes of it, which requests are sent, and how long
it waits in between.

The loop `attemptsFrom` carries a number of attempts and the number of those that are left. Its
lemma `attemptsFrom_attempts` is proved by induction on the latter, for any number to begin with.
-/

namespace ServiceClient.Handler

/-- Whether the decoder, and not the error decoder, gets a response. -/
def Accepted (h : Handler) (x : Http.Response) : Prop :=
  (200 ≤ x.status ∧ x.status ≤ 299) ∨ (x.status = 404 ∧ h.decode404 = true)

/-- How an attempt ends when its request would get the answer `a`: with which result, and with which
request sent. -/
inductive Attempted (h : Handler) (target : Target) (key : String) (t : Template) (a : Answer) :
    Except ClientError Json → Option Http.Request → Prop where
  | unencodable {v c} :
    (h.expandQueries t).body = .value v →
    h.encoder.encode v (h.expandQueries t) = .error c →
    Attempted h target key t a (.error (.encode key c)) none
  | forbidden {u m} :
    h.Encoded t u →
    h.contract.validate target (h.intercept u) = .error m →
    Attempted h target key t a (.error (.contract m)) none
  | unaddressed {u e} :
    h.Encoded t u →
    h.contract.validate target (h.intercept u) = .ok () →
    (h.intercept u).url target.url = .error e →
    Attempted h target key t a
      (.error (.invalidUrl (Template.joinPath target.url (h.intercept u).path) e)) none
  | unfinished {u v url} :
    h.Encoded t u →
    h.contract.validate target (h.intercept u) = .ok () →
    (h.intercept u).url target.url = .ok url →
    (h.intercept u).body = .value v →
    Attempted h target key t a
      (.error (.encode key (.other "encoder left the body unencoded"))) none
  | unanswered {r e} :
    h.Composed target t r →
    a = .error e →
    Attempted h target key t a (.error (.transport key e)) (some r)
  | decoded {r x v} :
    h.Composed target t r →
    a = .ok x →
    h.Accepted x →
    h.decoder.decode x = .ok v →
    Attempted h target key t a (.ok v) (some r)
  | undecodable {r x c} :
    h.Composed target t r →
    a = .ok x →
    h.Accepted x →
    h.decoder.decode x = .error c →
    Attempted h target key t a (.error (.decode key c)) (some r)
  | refused {r x} :
    h.Composed target t r →
    a = .ok x →
    ¬h.Accepted x →
    Attempted h target key t a (.error (h.errorDecoder.decode key x)) (some r)

variable {h : Handler} {target : Target} {key : String} {t : Template}

/-- The status alone decides which decoder gets a response. -/
lemma accepts_iff {x : Http.Response} : h.accepts x.status = true ↔ h.Accepted x := by
  simp [accepts, Accepted, Http.isSuccess]

/-- A template that cannot be finished has a value without an encoding. -/
lemma finish_error {e : ClientError} (eq : h.finish key t = .error e) :
    ∃ v c, (h.expandQueries t).body = .value v ∧
      h.encoder.encode v (h.expandQueries t) = .error c ∧ e = .encode key c := by
  unfold finish encodeBody at eq
  split at eq
  next v body =>
    cases enc : h.encoder.encode v (h.expandQueries t) with
    | ok u => simp [enc, Except.map, Except.mapError] at eq
    | error c =>
      simp only [enc, Except.map, Except.mapError, Except.error.injEq] at eq
      exact ⟨v, c, body, enc, eq.symm⟩
  next => simp [Except.map] at eq

/-- A request that cannot be prepared is not sent, for one of four reasons. -/
lemma prepare_error {e : ClientError} (a : Answer) (eq : h.prepare target key t = .error e) :
    h.Attempted target key t a (.error e) none := by
  unfold prepare at eq
  split at eq
  next e' fin =>
    cases eq
    obtain ⟨v, c, body, enc, rfl⟩ := finish_error fin
    exact .unencodable body enc
  next w fin =>
    obtain ⟨u, encoded, rfl⟩ := finish_eq_ok.1 fin
    split at eq
    next m val =>
      cases eq
      exact .forbidden encoded val
    next val =>
      unfold request at eq
      split at eq
      next e' url =>
        cases eq
        exact .unaddressed encoded val url
      next url' url =>
        split at eq
        · cases eq
        · cases eq
        next v body =>
          cases eq
          exact .unfinished encoded val url body

/-- Every attempt ends in one of the ways that are told. -/
lemma attempt_attempted (h : Handler) (target : Target) (key : String) (t : Template)
    (a : Answer) :
    h.Attempted target key t a (h.attempt target key t a).result
      (h.attempt target key t a).sent := by
  unfold attempt
  split
  next e eq => exact prepare_error a eq
  next r eq =>
    have composed : h.Composed target t r := prepare_eq_ok.1 eq
    cases a with
    | error e => exact .unanswered composed rfl
    | ok x =>
      simp only [interpret]
      split
      next acc =>
        cases dec : h.decoder.decode x with
        | ok v => exact .decoded composed rfl (accepts_iff.1 acc) dec
        | error c => exact .undecodable composed rfl (accepts_iff.1 acc) dec
      next acc => exact .refused composed rfl fun hx => acc (accepts_iff.2 hx)

/-- An attempt that may be tried again has sent its request. -/
lemma Attempted.sent_of_isRetryable {a : Answer} {e : ClientError} {q : Option Http.Request}
    (att : h.Attempted target key t a (.error e) q) (re : e.isRetryable = true) :
    q.isSome = true := by
  cases att with
  | unencodable | forbidden | unaddressed | unfinished => cases re
  | unanswered | undecodable | refused => rfl

variable (h target key t) (s : Surroundings)

/-- The attempt with a given number, counted from one. -/
def attemptAt (i : Nat) : Attempt :=
  h.attempt target key t (s.answer (i - 1))

/-- Whether the attempt with a given number fails in a way that may be tried again. -/
def RetryableAt (i : Nat) : Prop :=
  ∃ e, (h.attemptAt target key t s i).result = .error e ∧ e.isRetryable = true

/-- Whether no attempt follows the one with a given number. -/
def EndsAt (i : Nat) : Prop :=
  ¬h.RetryableAt target key t s i ∨ h.retry.maxAttempts ≤ i

/-- The wait after the attempt with a given number. -/
def waitAt (i : Nat) : Duration :=
  match (h.attemptAt target key t s i).result with
  | .ok _ => ⟨0⟩
  | .error e => h.waitAfter s.draw i e

/-- What a call makes of its last attempt, given the number of attempts. -/
def concluded (n : Nat) : Except ClientError Json :=
  (h.attemptAt target key t s n).result.mapError fun e =>
    if e.isRetryable then h.giveUp key n e else e

/-- The requests that are sent by `n` attempts from the one with a given number on. -/
def sentFrom (i n : Nat) : List Http.Request :=
  (List.range' i n).flatMap fun j => (h.attemptAt target key t s j).sent.toList

/-- The attempts from a given number on: all but the last one may be tried again, and the last one
may be only if none is left. -/
lemma attemptsFrom_attempts (number left : Nat) :
    ∃ k ≤ left,
      (∀ i, number ≤ i → i < number + k → h.RetryableAt target key t s i) ∧
      (h.RetryableAt target key t s (number + k) → k = left) ∧
      (h.attemptsFrom target key t s number left).result =
        h.concluded target key t s (number + k) ∧
      (h.attemptsFrom target key t s number left).requests =
        h.sentFrom target key t s number (k + 1) ∧
      (h.attemptsFrom target key t s number left).waits =
        (List.range' number k).map (h.waitAt target key t s) := by
  induction left generalizing number with
  | zero =>
    refine ⟨0, Nat.le_refl 0, fun i h1 h2 => absurd h2 (by omega), fun _ => rfl, ?_, ?_, rfl⟩
    · rfl
    · simp [sentFrom, attemptsFrom, attemptAt]
  | succ left ih =>
    rw [attemptsFrom]
    cases res : (h.attempt target key t (s.answer (number - 1))).result with
    | ok v =>
      refine ⟨0, Nat.zero_le _, fun i h1 h2 => absurd h2 (by omega), ?_, ?_, ?_, rfl⟩
      · rintro ⟨e, eq, -⟩
        simp [attemptAt, res] at eq
      · simp [concluded, attemptAt, res, Except.mapError]
      · simp [sentFrom, attemptAt]
    | error e =>
      by_cases re : e.isRetryable = true
      · obtain ⟨k, le, again, last, result, requests, waits⟩ := ih (number + 1)
        have here : h.RetryableAt target key t s number := ⟨e, res, re⟩
        simp only [re, if_true]
        refine ⟨k + 1, by omega, fun i h1 h2 => ?_, fun hr => ?_, ?_, ?_, ?_⟩
        · rcases Nat.eq_or_lt_of_le h1 with rfl | lt
          · exact here
          · exact again i lt (by omega)
        · rw [show number + (k + 1) = number + 1 + k from by omega] at hr
          rw [last hr]
        · rw [result, show number + (k + 1) = number + 1 + k from by omega]
        · rw [requests]
          simp [sentFrom, attemptAt, List.range'_succ]
        · rw [waits]
          simp [List.range'_succ, waitAt, attemptAt, res]
      · refine ⟨0, Nat.zero_le _, fun i h1 h2 => absurd h2 (by omega), ?_, ?_, ?_, ?_⟩
        · rintro ⟨e', eq, re'⟩
          rw [Nat.add_zero, attemptAt, res] at eq
          cases eq
          exact absurd re' re
        · simp [concluded, attemptAt, res, Except.mapError, re]
        · simp [re, sentFrom, attemptAt]
        · simp [re]

/-- The last attempt of a call is the first one with which it may end. -/
lemma isLeast_endsAt {k : Nat} (le : k ≤ h.retry.maxAttempts - 1)
    (again : ∀ i, 1 ≤ i → i < 1 + k → h.RetryableAt target key t s i)
    (last : h.RetryableAt target key t s (1 + k) → k = h.retry.maxAttempts - 1) :
    IsLeast {i | 1 ≤ i ∧ h.EndsAt target key t s i} (1 + k) := by
  refine ⟨⟨Nat.le_add_right 1 k, ?_⟩, ?_⟩
  · by_cases re : h.RetryableAt target key t s (1 + k)
    · have := last re
      exact .inr (by omega)
    · exact .inl re
  · rintro i ⟨pos, done | full⟩
    · by_contra lt
      exact done (again i pos (by omega))
    · omega

/-- A call makes its attempts up to the first one that does not fail in a way that may be tried
again, or that is the last one the retry policy allows. -/
theorem call_attempts :
    ∃ n, IsLeast {i | 1 ≤ i ∧ h.EndsAt target key t s i} n ∧
      n ≤ max 1 h.retry.maxAttempts ∧
      (∀ i, h.Attempted target key t (s.answer (i - 1)) (h.attemptAt target key t s i).result
        (h.attemptAt target key t s i).sent) ∧
      (∀ i, 1 ≤ i → i < n → (h.attemptAt target key t s i).sent.isSome = true) ∧
      (h.call target key t s).requests =
        (List.range' 1 n).flatMap (fun i => (h.attemptAt target key t s i).sent.toList) ∧
      (∀ v, (h.attemptAt target key t s n).result = .ok v →
        (h.call target key t s).result = .ok v) ∧
      (∀ e, (h.attemptAt target key t s n).result = .error e →
        (h.call target key t s).result = .error
          (if e.isRetryable = false ∨ n = 1 ∨ h.exceptionPolicy = .unwrap then e
          else .retriesExhausted key n e)) ∧
      (h.call target key t s).waits.length = n - 1 ∧
      ∀ i e, 1 ≤ i → i < n → (h.attemptAt target key t s i).result = .error e →
        (h.call target key t s).waits[i - 1]? =
          some (e.retryAfter?.getD (h.retry.backoff.delay i (s.draw i))) := by
  obtain ⟨k, le, again, last, result, requests, waits⟩ :=
    h.attemptsFrom_attempts target key t s 1 (h.retry.maxAttempts - 1)
  have attempted := fun i => h.attempt_attempted target key t (s.answer (i - 1))
  refine ⟨1 + k, h.isLeast_endsAt target key t s le again last, by omega, attempted,
    fun i pos lt => ?_, ?_, fun v eq => ?_, fun e eq => ?_, ?_, fun i e pos lt eq => ?_⟩
  · obtain ⟨e, eq, re⟩ := again i pos lt
    have att := attempted i
    rw [attemptAt] at eq ⊢
    rw [eq] at att
    exact att.sent_of_isRetryable re
  · rw [call, requests, sentFrom, Nat.add_comm k 1]
  · rw [call, result, concluded, eq]
    rfl
  · rw [call, result, concluded, eq]
    simp only [Except.mapError, giveUp, Except.error.injEq]
    by_cases re : e.isRetryable = true
    · by_cases one : k = 0
      · simp [re, one]
      · have several : ¬1 + k ≤ 1 := by omega
        simp [re, one, several]
    · simp [re]
  · rw [call, waits]
    simp
  · have at_i : i - 1 < k := by omega
    rw [call, waits, List.getElem?_map, List.getElem?_range' at_i]
    simp [waitAt, show 1 + (i - 1) = i from by omega, eq, waitAfter]

end ServiceClient.Handler
