import ServiceClient.Call.Handler

/-!
# Clients

A client decodes what a call gives into the result that its caller wants. When a call fails and a
fallback is wired, the fallback answers in its place.
-/

namespace ServiceClient

/-- Another implementation of a capability: it answers a method itself. -/
structure Delegate where
  answer : String → Template → Except ClientError Json

/-- Makes a delegate of the error that calls for it. -/
structure FallbackFactory where
  create : ClientError → Delegate
  /-- Whether what it is asked for is to be noted. -/
  noted : Bool := true

/-- What answers in the place of a failed call. -/
inductive Fallback where
  | none
  | delegate (d : Delegate)
  | factory (f : FallbackFactory)

/-- The word for the way in which a fallback is wired. -/
def Fallback.word : Fallback → String
  | none => "none"
  | delegate _ => "delegate"
  | factory _ => "factory"

/-- A client of a service. -/
structure Client where
  target : Target
  handler : Handler
  fallback : Fallback

/-- The result that a caller wants: the value as which a JSON value counts, if it fits. -/
abbrev ResultShape := Json → Option Json

/-- What a call turns to. -/
inductive Contact where
  | request (r : Http.Request)
  /-- A factory is asked for a delegate. -/
  | factory (e : ClientError)
  /-- A delegate is called. -/
  | delegate (d : Delegate)

/-- The error for which a factory is asked. -/
def Contact.asked? : Contact → Option ClientError
  | factory e => some e
  | _ => none

/-- Whether a delegate is called. -/
def Contact.isDelegate : Contact → Bool
  | delegate _ => true
  | _ => false

/-- A call with a fallback. -/
structure Outcome where
  result : Except ClientError Json
  exchange : Exchange
  /-- What the call turned to, in order. -/
  contacts : List Contact
  events : List Event

/-- The error for which a factory was asked. -/
def Outcome.asked (o : Outcome) : Option ClientError :=
  o.contacts.findSome? Contact.asked?

/-- Whether a delegate was called. -/
def Outcome.delegated (o : Outcome) : Bool :=
  o.contacts.any Contact.isDelegate

namespace Client

variable (c : Client)

/-- Whether a fallback is wired. -/
def hasFallback : Bool :=
  match c.fallback with
  | .none => false
  | _ => true

/-- Decodes a value into the result that a caller wants. -/
def fit (methodKey : String) (shape : ResultShape) (v : Json) : Except ClientError Json :=
  match shape v with
  | some w => .ok w
  | none => .error (.decode methodKey (.json .shape))

/-- What an exchange gives a caller. -/
def resultOf (methodKey : String) (shape : ResultShape) (x : Exchange) : Except ClientError Json :=
  match x.result with
  | .ok v => fit methodKey shape v
  | .error e => .error e

/-- Carries out a call. -/
def execute (methodKey : String) (t : Template) (shape : ResultShape) (s : Surroundings) :
    Outcome :=
  let x := c.handler.call c.target methodKey t s
  { result := resultOf methodKey shape x
    exchange := x
    contacts := x.requests.map .request
    events := x.reports.map (⟨·, none⟩) }

/-- The command under which a call runs. -/
def command? (methodKey : String) : Option Command :=
  c.handler.setterFactory.map (·.create c.target methodKey)

/-- The delegate that answers for a failed call, and what the call turns to in order to get it. -/
def delegateFor? (e : ClientError) : Option (Delegate × List Contact) :=
  match c.fallback with
  | .none => none
  | .delegate d => some (d, [])
  | .factory f => some (f.create e, [.factory e])

/-- Carries out a call under its command. When it fails, `answer` calls the delegate that is wired,
and what this gives is the result. -/
def executeOrFallback (methodKey : String) (t : Template) (shape : ResultShape) (s : Surroundings)
    (answer : Delegate → Except ClientError Json) : Outcome :=
  let plain := c.execute methodKey t shape s
  let command := c.command? methodKey
  let o := { plain with events := plain.events.map fun x => { x with command } }
  match plain.result with
  | .ok _ => o
  | .error e =>
    match c.delegateFor? e with
    | none => o
    | some (d, before) =>
      { o with
        result := answer d
        contacts := o.contacts ++ before ++ [.delegate d]
        events := o.events ++ [⟨.fallingBack c.target.name methodKey, command⟩] }

/-- The diagnostic text of a client. -/
def debugText : String :=
  "Client \x7b target: " ++ c.target.debugText ++ ", fallback: " ++ c.fallback.word ++ ", .. \x7d"

end Client
end ServiceClient
