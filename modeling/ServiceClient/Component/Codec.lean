import ServiceClient.Call.Error
import ServiceClient.Call.Template
import ServiceClient.Http.View
import ServiceClient.Json.Printer
import ServiceClient.Json.Reader

/-!
# Encoders and decoders

An encoder turns the value in a template into octets; a decoder turns a response into a value.
-/

namespace ServiceClient

/-- How the body of a request is encoded. -/
structure Encoder where
  encode : Json → Template → Except CodecError Template

namespace Encoder

/-- Compact JSON; the content type is told unless the template tells one. -/
def json : Encoder where
  encode v t := .ok ((t.withBody (.raw (Text.Utf8.encode v.text))).withHeaders
    (Http.Headers.putIfMissing t.headers "content-type" (Text.Utf8.encode "application/json")))

/-- The octets of a string; no other value has an encoding. -/
def text : Encoder where
  encode
    | .string s, t => .ok (t.withBody (.raw (Text.Utf8.encode s)))
    | _, _ => .error (.other "text encoder needs a string")

/-- Leaves the template as it is. -/
def idle : Encoder where
  encode _ t := .ok t

/-- Refuses every value. -/
def failing (message : String) : Encoder where
  encode _ _ := .error (.other message)

end Encoder

/-- How a successful response is decoded. -/
structure Decoder where
  decode : Http.Response → Except CodecError Json

namespace Decoder

/-- JSON; an empty body stands for null. -/
def json : Decoder where
  decode r :=
    if r.body.isEmpty then .ok .null
    else match Json.parse r.body with
      | .ok v => .ok v
      | .error flaw => .error (.json flaw)

/-- The whole response: its status, its body and its headers. -/
def whole : Decoder where
  decode r := .ok r.json

/-- Refuses every response. -/
def failing (message : String) : Decoder where
  decode _ := .error (.other message)

end Decoder
end ServiceClient
