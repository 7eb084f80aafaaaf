import ServiceClient.Duration
import ServiceClient.Json.Basic

/-!
# Settings of a client

What a client logs, how long it waits, whether it tries again, and what it makes of failures.
-/

namespace ServiceClient

/-- How much of an exchange is logged. -/
inductive LoggerLevel where
  | none
  | basic
  | headers
  | full
  deriving DecidableEq, Repr, Inhabited

namespace LoggerLevel

/-- Whether header lines are logged. -/
def logsHeaders : LoggerLevel → Bool
  | headers | full => true
  | _ => false

/-- Whether bodies are logged. -/
def logsBodies : LoggerLevel → Bool
  | full => true
  | _ => false

/-- The word for a level. -/
def word : LoggerLevel → String
  | none => "none"
  | basic => "basic"
  | headers => "headers"
  | full => "full"

/-- The word for a level in diagnostic texts. -/
def debugWord : LoggerLevel → String
  | none => "None"
  | basic => "Basic"
  | headers => "Headers"
  | full => "Full"

/-- The levels, in rising order. -/
def all : List LoggerLevel := [none, basic, headers, full]

end LoggerLevel

/-- What becomes of the last error of a call that was tried several times. -/
inductive ExceptionPolicy where
  /-- It is wrapped, with the number of attempts. -/
  | none
  /-- It is given as it is. -/
  | unwrap
  deriving DecidableEq, Repr, Inhabited

namespace ExceptionPolicy

/-- The word for a policy. -/
def word : ExceptionPolicy → String
  | none => "none"
  | unwrap => "unwrap"

/-- The word for a policy in diagnostic texts. -/
def debugWord : ExceptionPolicy → String
  | none => "None"
  | unwrap => "Unwrap"

/-- The policies. -/
def all : List ExceptionPolicy := [none, unwrap]

end ExceptionPolicy

/-- The kinds of clients. -/
inductive BuilderTemplate where
  | plain
  /-- With commands and fallbacks. -/
  | faultTolerant
  deriving DecidableEq, Repr, Inhabited

namespace BuilderTemplate

/-- The word for a kind. -/
def word : BuilderTemplate → String
  | plain => "plain"
  | faultTolerant => "fault_tolerant"

/-- The word for a kind in diagnostic texts. -/
def debugWord : BuilderTemplate → String
  | plain => "Plain"
  | faultTolerant => "FaultTolerant"

/-- The kinds. -/
def all : List BuilderTemplate := [plain, faultTolerant]

end BuilderTemplate

/-- The value with a given word. -/
def ofWord? {α : Type} (word : α → String) (all : List α) (s : String) : Option α :=
  all.find? (word · == s)

/-- Limits of a request. -/
structure RequestOptions where
  connectTimeout : Duration := .ofSeconds 10
  readTimeout : Duration := .ofSeconds 60
  followRedirects : Bool := true
  deriving DecidableEq, Repr, Inhabited

/-- The options with the given limits in the place of their own. -/
def RequestOptions.merge (o : RequestOptions) (connectMillis readMillis : Option Nat)
    (followRedirects : Option Bool) : RequestOptions where
  connectTimeout := (connectMillis.map Duration.ofMillis).getD o.connectTimeout
  readTimeout := (readMillis.map Duration.ofMillis).getD o.readTimeout
  followRedirects := followRedirects.getD o.followRedirects

/-- Waits that grow from attempt to attempt up to a limit. -/
structure Backoff where
  initial : Duration := .ofMillis 100
  max : Duration := .ofSeconds 1
  multiplier : Float := 1.5
  /-- Whether a random share of up to a quarter is added. -/
  jitter : Bool := false
  deriving Inhabited

namespace Backoff

/-- Short waits. -/
def fast : Backoff := ⟨.ofMillis 1, .ofMillis 10, 2.0, false⟩

/-- The power `a ^ n`, times `r`, by repeated squaring. -/
def powerTimes (r a : Float) (n : Nat) : Float :=
  let r := if n % 2 = 1 then r * a else r
  if n / 2 = 0 then r else powerTimes r (a * a) (n / 2)
termination_by n
decreasing_by omega

/-- The factor between two waits; a multiplier that is negative or not finite counts as one. -/
def factor (b : Backoff) : Float :=
  if b.multiplier.isFinite && 0.0 ≤ b.multiplier then b.multiplier else 1.0

/-- The longest wait; it is never longer than a day. -/
def limit (b : Backoff) : Duration :=
  b.max.min (.ofSeconds 86400)

/-- The wait after an attempt, before a random share is added. -/
def plainDelay (b : Backoff) (attempt : Nat) : Duration :=
  let base := b.initial.toFloat * powerTimes 1.0 b.factor (Nat.min (attempt - 1) (Nat.pow 2 31 - 1))
  if base.isFinite && base < b.limit.toFloat then
    .ofFloat (if base < 0.0 then 0.0 else base)
  else b.limit

/-- The wait after an attempt; `draw` is the random share, between nothing and a quarter. -/
def delay (b : Backoff) (attempt : Nat) (draw : Float) : Duration :=
  let d := b.plainDelay attempt
  let d := if b.jitter then ⟨d.nanos + (Duration.ofFloat (draw * d.toFloat)).nanos⟩ else d
  d.min b.limit

end Backoff

/-- How often a call is tried, and the waits between. -/
structure RetryPolicy where
  maxAttempts : Nat
  backoff : Backoff := {}
  deriving Inhabited

namespace RetryPolicy

/-- A single attempt. -/
def never : RetryPolicy := ⟨1, {}⟩

/-- Five attempts. -/
def standard : RetryPolicy := ⟨5, {}⟩

/-- The policy with another number of attempts, at least one. -/
def withMaxAttempts (p : RetryPolicy) (n : Nat) : RetryPolicy :=
  { p with maxAttempts := Nat.max n 1 }

/-- The policy with other waits. -/
def withBackoff (p : RetryPolicy) (b : Backoff) : RetryPolicy := { p with backoff := b }

/-- Whether a failed call is tried again. -/
def retriesEnabled (p : RetryPolicy) : Bool := 1 < p.maxAttempts

end RetryPolicy
end ServiceClient
