import ServiceClient.Call.Error
import ServiceClient.Http.Message
import ServiceClient.Settings

/-!
# Transports

A transport is a direct one, or a load balancer around another transport. A request is handed to the
outermost layer and to no other.
-/

namespace ServiceClient

/-- The kinds of load balancers. -/
inductive BalancerKind where
  | legacy
  | blocking
  | retryableBlocking
  deriving DecidableEq, Repr

/-- The word for a kind in diagnostic texts. -/
def BalancerKind.debugText : BalancerKind → String
  | legacy => "Legacy"
  | blocking => "Blocking"
  | retryableBlocking => "RetryableBlocking"

/-- A place to which requests are handed. -/
structure Endpoint where
  id : Nat
  label : String
  deriving DecidableEq, Repr, Inhabited

/-- A direct transport, or a load balancer around another transport. -/
inductive Transport where
  | direct (endpoint : Endpoint)
  | balanced (kind : BalancerKind) (endpoint : Endpoint) (delegate : Transport)
  deriving DecidableEq, Repr, Inhabited

namespace Transport

/-- Where requests are handed to. -/
def entry : Transport → Endpoint
  | direct e => e
  | balanced _ e _ => e

/-- Whether there is no load balancer. -/
def isDirect : Transport → Bool
  | direct _ => true
  | balanced .. => false

/-- The kind of the outermost load balancer. -/
def kind? : Transport → Option BalancerKind
  | direct _ => none
  | balanced k _ _ => some k

/-- The transport without its load balancers. -/
def unwrapped : Transport → Transport
  | direct e => direct e
  | balanced _ _ d => d.unwrapped

/-- The diagnostic text of a transport. -/
def debugText : Transport → String
  | direct _ => "Direct"
  | balanced k _ d =>
    "LoadBalanced \x7b kind: " ++ k.debugText ++ ", delegate: " ++ d.debugText ++ ", .. \x7d"

end Transport

/-- What a transport gives for a request. -/
abbrev Answer := Except TransportError Http.Response

/-- A request on its way: where it is handed to, and within which limits. -/
structure Delivery where
  endpoint : Endpoint
  request : Http.Request
  options : RequestOptions
  deriving DecidableEq

end ServiceClient
