import ServiceClient.Proofs.Call.Retry

/-!
# The request that is sent again

The request for which a template stands depends on no attempt and on no answer.
`call_requests_replicate` says that a call sends this request, once for each of its attempts, and
nothing else: what one attempt makes of its template is lost before the next one.
-/

namespace ServiceClient

namespace Handler

variable {h : Handler} {target : Target} {key : String} {t : Template}

/-- An attempt sends the request for which its template stands, whatever the answer to it. -/
lemma Composed.sent {r : Http.Request} (composed : h.Composed target t r) (key : String)
    (a : Answer) : (h.attempt target key t a).sent = some r := by
  rw [attempt, prepare_eq_ok.2 composed]

/-- An attempt whose template stands for no request sends nothing, and ends the call. -/
lemma attempt_of_not_composed (nothing : ¬∃ r, h.Composed target t r) (key : String) (a : Answer) :
    (h.attempt target key t a).sent = none ∧
      ∃ e, (h.attempt target key t a).result = .error e ∧ e.isRetryable = false := by
  cases prepared : h.prepare target key t with
  | ok r => exact absurd ⟨r, prepare_eq_ok.1 prepared⟩ nothing
  | error e =>
    have fails : h.attempt target key t a = { result := .error e } := by rw [attempt, prepared]
    refine ⟨by rw [fails], e, by rw [fails], ?_⟩
    by_contra re
    rw [Bool.not_eq_false] at re
    exact Bool.false_ne_true ((prepare_error a prepared).sent_of_isRetryable re)

variable (h target key t) (s : Surroundings)

/-- The request is sent once in each of a run of attempts. -/
lemma Composed.sentFrom {r : Http.Request} (composed : h.Composed target t r) (i n : Nat) :
    h.sentFrom target key t s i n = List.replicate n r := by
  simp only [Handler.sentFrom, attemptAt, composed.sent, Option.toList_some]
  rw [← List.map_eq_flatMap, List.map_const', List.length_range']

/-- A run of attempts whose template stands for no request sends nothing. -/
lemma sentFrom_of_not_composed (nothing : ¬∃ r, h.Composed target t r) (i n : Nat) :
    h.sentFrom target key t s i n = [] := by
  simp [Handler.sentFrom, attemptAt, attempt_of_not_composed nothing]

/-- The attempts of a call: their number is the least one with which it may end. -/
lemma call_requests_sentFrom :
    ∃ n, IsLeast {i | 1 ≤ i ∧ h.EndsAt target key t s i} n ∧
      (h.call target key t s).requests = h.sentFrom target key t s 1 n := by
  obtain ⟨k, le, again, last, -, requests, -⟩ :=
    h.attemptsFrom_attempts target key t s 1 (h.retry.maxAttempts - 1)
  refine ⟨1 + k, h.isLeast_endsAt target key t s le again last, ?_⟩
  rw [call, requests, Nat.add_comm]

variable {h target key t s} in
/-- Every request of a call is the one for which its template stands. -/
lemma composed_of_mem_requests {r : Http.Request} (mem : r ∈ (h.call target key t s).requests) :
    h.Composed target t r := by
  obtain ⟨n, -, requests⟩ := h.call_requests_sentFrom target key t s
  rw [requests] at mem
  by_cases some : ∃ r', h.Composed target t r'
  · obtain ⟨r', composed⟩ := some
    rw [composed.sentFrom] at mem
    rw [List.eq_of_mem_replicate mem]
    exact composed
  · rw [h.sentFrom_of_not_composed target key t s some] at mem
    cases mem

/-- In each of its attempts a call sends the request for which its template stands, and no other
one. So all requests of a call are alike, whatever the answers and however many attempts they cost,
and like the only request of a call on the same template that succeeds at once. Without such a
request nothing is ever sent, and there is no second attempt. -/
theorem call_requests_replicate :
    ∃ n, IsLeast {i | 1 ≤ i ∧ h.EndsAt target key t s i} n ∧
      (∀ r, h.Composed target t r → (h.call target key t s).requests = List.replicate n r) ∧
      ((¬∃ r, h.Composed target t r) → n = 1 ∧ (h.call target key t s).requests = []) ∧
      ∀ key' s' v, (h.attemptAt target key' t s' 1).result = .ok v →
        ∃ r, h.Composed target t r ∧ (h.call target key' t s').requests = [r] ∧
          (h.call target key t s).requests = List.replicate n r := by
  obtain ⟨n, least, requests⟩ := h.call_requests_sentFrom target key t s
  have alike : ∀ r, h.Composed target t r →
      (h.call target key t s).requests = List.replicate n r := fun r composed =>
    requests.trans (composed.sentFrom h target key t s 1 n)
  refine ⟨n, least, alike, fun nothing => ⟨?_, ?_⟩, fun key' s' v succeeds => ?_⟩
  · -- the first attempt fails for good, so that no later one is the first to end the call
    obtain ⟨-, e, fails, final⟩ := attempt_of_not_composed nothing key (s.answer (1 - 1))
    have ends : h.EndsAt target key t s 1 := by
      refine .inl ?_
      rintro ⟨e', fails', re⟩
      cases fails.symm.trans fails'
      rw [final] at re
      cases re
    exact Nat.le_antisymm (least.2 ⟨Nat.le_refl 1, ends⟩) least.1.1
  · rw [requests, h.sentFrom_of_not_composed target key t s nothing]
  · have composed : ∃ r, h.Composed target t r := by
      by_contra nothing
      obtain ⟨-, e, fails, -⟩ := attempt_of_not_composed nothing key' (s'.answer (1 - 1))
      cases fails.symm.trans succeeds
    obtain ⟨r, composed⟩ := composed
    obtain ⟨m, first, requests'⟩ := h.call_requests_sentFrom target key' t s'
    have ends : h.EndsAt target key' t s' 1 := by
      refine .inl ?_
      rintro ⟨e, fails, -⟩
      cases succeeds.symm.trans fails
    have once : m = 1 := Nat.le_antisymm (first.2 ⟨Nat.le_refl 1, ends⟩) first.1.1
    refine ⟨r, composed, ?_, alike r composed⟩
    rw [requests', once, composed.sentFrom h target key' t s' 1 1]
    rfl

end Handler
end ServiceClient
