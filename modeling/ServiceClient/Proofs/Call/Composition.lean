import Mathlib.Tactic.Lemma
import ServiceClient.Call.Handler

/-!
# The request for which a template stands

What a template stands for is told by `Composed`: its query map becomes queries, a value in its body
is encoded, each interceptor changes it once, the contract lets it pass, and its path is put behind
the address of the service. No attempt and no answer occurs in this. `prepare_eq_ok` says that this
is the request which a call prepares.
-/

namespace ServiceClient

/-- The octets as which a body is sent; a value that still has to be encoded has none. -/
def Body.octets? : Body → Option Bytes
  | empty => some []
  | raw octets => some octets
  | value _ => none

namespace Handler

/-- What a template is when the interceptors get it. -/
inductive Encoded (h : Handler) (t : Template) : Template → Prop where
  | value {v u} :
    (h.expandQueries t).body = .value v →
    h.encoder.encode v (h.expandQueries t) = .ok u →
    Encoded h t u
  | plain :
    (∀ v, (h.expandQueries t).body ≠ .value v) →
    Encoded h t (h.expandQueries t)

/-- The request for which a template stands. -/
inductive Composed (h : Handler) (target : Target) (t : Template) : Http.Request → Prop where
  | mk {u url octets} :
    h.Encoded t u →
    h.contract.validate target (h.intercept u) = .ok () →
    (h.intercept u).url target.url = .ok url →
    (h.intercept u).body.octets? = some octets →
    Composed h target t ⟨(h.intercept u).method, url, (h.intercept u).headers, octets⟩

variable {h : Handler} {target : Target} {key : String} {t u : Template}

/-- Encoding succeeds with what the encoder makes of a value, and leaves any other body alone. -/
lemma encodeBody_eq_ok : h.encodeBody key (h.expandQueries t) = .ok u ↔ h.Encoded t u := by
  constructor
  · intro eq
    unfold encodeBody at eq
    split at eq
    next v body =>
      cases enc : h.encoder.encode v (h.expandQueries t) with
      | ok u' =>
        rw [enc] at eq
        cases eq
        exact .value body enc
      | error c =>
        rw [enc] at eq
        cases eq
    next other =>
      cases eq
      exact .plain other
  · intro enc
    unfold encodeBody
    cases enc with
    | value body enc =>
      rw [body]
      simp only [enc]
      rfl
    | plain other =>
      split
      next v body => exact absurd body (other v)
      next => rfl

/-- A template is finished by its encoding and then by the interceptors. -/
lemma finish_eq_ok {w : Template} :
    h.finish key t = .ok w ↔ ∃ u, h.Encoded t u ∧ w = h.intercept u := by
  unfold finish
  cases enc : h.encodeBody key (h.expandQueries t) with
  | ok u' =>
    constructor
    · intro eq
      cases eq
      exact ⟨u', encodeBody_eq_ok.1 enc, rfl⟩
    · rintro ⟨u, encoded, rfl⟩
      cases enc.symm.trans (encodeBody_eq_ok.2 encoded)
      rfl
  | error e =>
    constructor
    · intro eq
      cases eq
    · rintro ⟨u, encoded, -⟩
      cases enc.symm.trans (encodeBody_eq_ok.2 encoded)

/-- A finished template is sent as it is, below the address of the service. -/
lemma request_eq_ok {r : Http.Request} :
    request target key t = .ok r ↔ ∃ url octets, t.url target.url = .ok url ∧
      t.body.octets? = some octets ∧ r = ⟨t.method, url, t.headers, octets⟩ := by
  unfold request
  cases found : t.url target.url with
  | error e => simp
  | ok url => cases body : t.body <;> simp [Body.octets?, eq_comm]

/-- Preparing a template gives the request for which it stands, or none. -/
lemma prepare_eq_ok {r : Http.Request} :
    h.prepare target key t = .ok r ↔ h.Composed target t r := by
  unfold prepare
  constructor
  · intro eq
    split at eq
    next => cases eq
    next w finished =>
      split at eq
      next => cases eq
      next allowed =>
        obtain ⟨u, encoded, rfl⟩ := finish_eq_ok.1 finished
        obtain ⟨url, octets, found, body, rfl⟩ := request_eq_ok.1 eq
        exact .mk encoded allowed found body
  · rintro ⟨encoded, allowed, found, body⟩
    rw [finish_eq_ok.2 ⟨_, encoded, rfl⟩]
    simp only [allowed]
    exact request_eq_ok.2 ⟨_, _, found, body, rfl⟩

/-- A template stands for one request at most. -/
lemma Composed.unique {r r' : Http.Request} (first : h.Composed target t r)
    (second : h.Composed target t r') : r = r' := by
  have prepared : h.prepare target "" t = .ok r := prepare_eq_ok.2 first
  rw [prepare_eq_ok.2 second] at prepared
  exact (Except.ok.inj prepared).symm

end Handler
end ServiceClient
