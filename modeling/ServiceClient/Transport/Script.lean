import ServiceClient.Scope.Contexts
import ServiceClient.Transport.Basic

/-!
# Scripted answers

A script tells what an endpoint answers to one request after the other. When it is used up, the last
answer stays, or no instance is available any more.
-/

namespace ServiceClient

/-- The answers of an endpoint. -/
structure Script where
  steps : List Answer
  /-- Whether the last answer stays. -/
  lastStays : Bool

namespace Script

/-- The answer of an endpoint that has none left. -/
def exhausted : Answer := .error (.noInstance "script exhausted")

/-- The answer to the request with the given number, counted from zero. -/
def answer (s : Script) (i : Nat) : Answer :=
  match s.steps[i]? with
  | some a => a
  | none => if s.lastStays then s.steps.getLast?.getD exhausted else exhausted

end Script

/-- Where a transport was made. A configuration makes its transports anew for each scope to which it
is applied, and a customizer for each client. -/
inductive Origin where
  | shared
  | scope (id : ScopeId)
  | client (serial : Nat)
  deriving DecidableEq, Repr

/-- The scripts of all endpoints, by their numbers. An endpoint begins its script anew wherever a
transport with it was made. -/
structure Network where
  scripts : Array Script := #[]
  /-- How many answers were given, by endpoint and by origin of the transport. -/
  given : List ((Nat × Origin) × Nat) := []

namespace Network

/-- The network with one more endpoint, and the number of that endpoint. -/
def add (net : Network) (s : Script) : Nat × Network :=
  (net.scripts.size, { net with scripts := net.scripts.push s })

/-- How many answers an endpoint gave. -/
def count (net : Network) (o : Origin) (e : Endpoint) : Nat :=
  (net.given.lookup (e.id, o)).getD 0

/-- The answers of an endpoint from now on. -/
def answers (net : Network) (o : Origin) (e : Endpoint) (i : Nat) : Answer :=
  match net.scripts[e.id]? with
  | some s => s.answer (net.count o e + i)
  | none => Script.exhausted

/-- The network after some requests to an endpoint. -/
def advance (net : Network) (o : Origin) (e : Endpoint) (n : Nat) : Network :=
  { net with
    given := ((e.id, o), net.count o e + n) :: net.given.filter (·.1 != (e.id, o)) }

/-- Hands one request to a transport: its answer, and the network after it. -/
def send (net : Network) (o : Origin) (t : Transport) : Answer × Network :=
  (net.answers o t.entry 0, net.advance o t.entry 1)

end Network
end ServiceClient
