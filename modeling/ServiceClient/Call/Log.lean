import ServiceClient.Call.Error
import ServiceClient.Http.Message
import ServiceClient.Text.Quoted

/-!
# Events

What a client and its factory report while they work.
-/

namespace ServiceClient

/-- What is reported. -/
inductive Report where
  | request (client methodKey method : String) (url : Url)
  | requestHeader (methodKey name : String) (value : Bytes)
  | requestBody (methodKey : String) (octets : Bytes)
  | response (client methodKey : String) (status : Nat)
  | responseHeader (methodKey name : String) (value : Bytes)
  | responseBody (methodKey : String) (octets : Bytes)
  | failure (client methodKey : String) (error : TransportError)
  | retrying (client methodKey : String) (attempt : Nat) (delay : Duration) (error : ClientError)
  | fallingBack (client methodKey : String)
  | droppedHeaderName (name : String)
  | droppedHeaderValue (name : String)
  | registeredTwice (contextId : String)
  | severalPrimaries (capability : String) (count : Nat)
  deriving DecidableEq

namespace Report

/-- The headline of a report. -/
def headline : Report → String
  | request .. => "---> request"
  | requestHeader .. => "---> header"
  | requestBody .. => "---> body"
  | response .. => "<--- response"
  | responseHeader .. => "<--- header"
  | responseBody .. => "<--- body"
  | failure .. => "<--- ERROR"
  | retrying .. => "retrying call"
  | fallingBack .. => "call failed, delegating to fallback"
  | droppedHeaderName .. => "dropping default header with invalid name"
  | droppedHeaderValue .. => "dropping invalid default header value"
  | registeredTwice .. => "client registered twice, replacing previous descriptor"
  | severalPrimaries .. => "several primary clients declared, using the first by context id"

/-- The fields of a report. -/
def fields : Report → List (String × Json)
  | request client key method url =>
    [("client", .string client), ("method_key", .string key), ("method", .string method),
      ("url", .string url.text)]
  | requestHeader key name v | responseHeader key name v =>
    [("method_key", .string key), ("header", .string name),
      ("value", .string (Text.quotedBytes v))]
  | requestBody key octets | responseBody key octets =>
    [("method_key", .string key), ("bytes", .int octets.length),
      ("body", .string (String.ofList (Text.Utf8.decodeLossy octets)))]
  | response client key status =>
    [("client", .string client), ("method_key", .string key), ("status", .int status)]
  | failure client key e =>
    [("client", .string client), ("method_key", .string key), ("error", .string e.message)]
  | retrying client key attempt delay e =>
    [("client", .string client), ("method_key", .string key), ("attempt", .int attempt),
      ("delay_ms", .int delay.clampedMillis), ("error", .string e.message)]
  | fallingBack client key => [("client", .string client), ("method_key", .string key)]
  | droppedHeaderName name | droppedHeaderValue name => [("header", .string name)]
  | registeredTwice id => [("context_id", .string id)]
  | severalPrimaries capability count =>
    [("capability", .string capability), ("count", .int count)]

/-- Whether a report is a warning. -/
def isWarning : Report → Bool
  | fallingBack .. | droppedHeaderName .. | droppedHeaderValue .. | registeredTwice ..
  | severalPrimaries .. => true
  | _ => false

/-- Whether a report shows a part of an exchange with the server. -/
def isWire : Report → Bool
  | request .. | requestHeader .. | requestBody .. | response .. | responseHeader ..
  | responseBody .. | failure .. => true
  | _ => false

end Report

/-- The command under which a call runs. -/
structure Command where
  group : String
  key : String
  deriving DecidableEq, Repr

/-- A report, and the command under which it was made. -/
structure Event where
  report : Report
  command : Option Command := none
  deriving DecidableEq

/-- An event as JSON: its level, its headline, its fields, and the command around it. -/
def Event.json (e : Event) : Json :=
  let command := match e.command with
    | none => []
    | some c =>
      [("in", Json.ofFields [("span", .string "client_command"), ("group", .string c.group),
        ("command", .string c.key)])]
  .ofFields ([("level", .string (if e.report.isWarning then "WARN" else "DEBUG")),
    ("message", .string e.report.headline)] ++ e.report.fields ++ command)

end ServiceClient
