import ServiceClient.Call.Error
import ServiceClient.Http.Message
import ServiceClient.TypeRef

/-!
# Error decoders

An error decoder tells what a response that is no success means.
-/

namespace ServiceClient

/-- What a response that is no success means, given the key of the method called. -/
structure ErrorDecoder where
  decode : String → Http.Response → ClientError

namespace ErrorDecoder

/-- The number of characters of a body that an error shows. -/
def previewLimit : Nat := 256

/-- The beginning of a body as text. -/
def preview (body : Bytes) : String :=
  String.ofList ((Text.Utf8.decodeLossy body).take previewLimit)

/-- The wait that a response asks for, in whole seconds. -/
def retryAfter? (r : Http.Response) : Option Duration := do
  let value ← (Http.Headers.valuesOf r.headers "retry-after").head?
  let text ← Http.readable? value
  let seconds ← Http.unsigned? (Text.dropBoth Text.isBlank text)
  return .ofSeconds seconds

/-- A response that asks for a wait may be retried after it; any other one is final. -/
def standard : ErrorDecoder where
  decode key r :=
    match retryAfter? r with
    | some after => .retryableStatus key r.status (some after)
    | none => .status key r.status (preview r.body)

/-- Failures of the server may be retried; the rest is as in `standard`. -/
def retryServerErrors : ErrorDecoder where
  decode key r :=
    if 500 ≤ r.status && r.status ≤ 599 then .retryableStatus key r.status none
    else standard.decode key r

/-- Every response may be retried after the given wait. -/
def retryAlways (after : Duration) : ErrorDecoder where
  decode key r := .retryableStatus key r.status (some after)

end ErrorDecoder

/-- Error decoders made for a type of client. -/
structure ErrorDecoderFactory where
  create : TypeRef → ErrorDecoder

/-- Error decoders that show the type of the client in the place of the body. -/
def ErrorDecoderFactory.typed : ErrorDecoderFactory where
  create t := ⟨fun key r => .status key r.status ("typed:" ++ t.name)⟩

end ServiceClient
