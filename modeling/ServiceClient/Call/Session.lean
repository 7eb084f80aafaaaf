import ServiceClient.Call.Client
import ServiceClient.Transport.Script

/-!
# Calls over a network

A call takes its answers from the endpoint to which its transport hands the requests.
-/

namespace ServiceClient

/-- A call that was carried out over a network. -/
structure Session where
  outcome : Outcome
  deliveries : List Delivery
  network : Network

namespace Handler

/-- The requests of an exchange on their way. -/
def deliveries (h : Handler) (x : Exchange) : List Delivery :=
  x.requests.map fun r => ⟨h.transport.entry, r, h.options⟩

end Handler

namespace Client

/-- What a caller makes of a delegate: it calls the method, and decodes the answer into the result
that it wants. -/
def askDelegate (methodKey : String) (t : Template) (shape : ResultShape) (d : Delegate) :
    Except ClientError Json :=
  (d.answer methodKey t).bind (fit methodKey shape)

/-- Carries out a call over a network, with or without the fallback. The origin is that of the
transport. -/
def run (c : Client) (network : Network) (origin : Origin) (withFallback : Bool)
    (methodKey : String) (t : Template) (shape : ResultShape) : Session :=
  let endpoint := c.handler.transport.entry
  let surroundings : Surroundings := { answer := network.answers origin endpoint }
  let outcome :=
    if withFallback then
      c.executeOrFallback methodKey t shape surroundings (askDelegate methodKey t shape)
    else c.execute methodKey t shape surroundings
  { outcome
    deliveries := c.handler.deliveries outcome.exchange
    network := network.advance origin endpoint outcome.exchange.requests.length }

end Client
end ServiceClient
