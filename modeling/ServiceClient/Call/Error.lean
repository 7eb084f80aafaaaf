import ServiceClient.Duration
import ServiceClient.Http.Status
import ServiceClient.Json.Reader
import ServiceClient.Url.Error

/-!
# Why a call fails

Causes, and one wording for each.
-/

namespace ServiceClient

/-- Why a transport gave no response. -/
inductive TransportError where
  | connectTimeout (after : Duration)
  | readTimeout (after : Duration)
  | connection (message : String)
  | noInstance (service : String)
  deriving DecidableEq, Repr

/-- The text of a transport error. -/
def TransportError.message : TransportError → String
  | connectTimeout d => "connect timed out after " ++ d.text
  | readTimeout d => "read timed out after " ++ d.text
  | connection m => "connection error: " ++ m
  | noInstance s => "no instance available for service '" ++ s ++ "'"

/-- Why a body could not be encoded or decoded. -/
inductive CodecError where
  | json (flaw : Json.Flaw)
  | other (message : String)
  deriving DecidableEq, Repr

/-- The text of a codec error; a flaw of JSON is told by its category. -/
def CodecError.message : CodecError → String
  | json .eof => "unexpected end of JSON text"
  | json .malformed => "malformed JSON text"
  | json .shape => "JSON value of another shape"
  | other m => m

/-- Why a call fails. -/
inductive ClientError where
  | transport (methodKey : String) (source : TransportError)
  | status (methodKey : String) (status : Nat) (preview : String)
  | retryableStatus (methodKey : String) (status : Nat) (retryAfter : Option Duration)
  | decode (methodKey : String) (source : CodecError)
  | encode (methodKey : String) (source : CodecError)
  | contract (violation : String)
  | invalidUrl (url : String) (source : Url.Error)
  | retriesExhausted (methodKey : String) (attempts : Nat) (source : ClientError)
  deriving DecidableEq, Repr

namespace ClientError

/-- The text of an error. -/
def message : ClientError → String
  | transport key e => key ++ ": transport failure: " ++ e.message
  | status key n preview => key ++ ": HTTP " ++ Http.statusText n ++ ": " ++ preview
  | retryableStatus key n _ => key ++ ": HTTP " ++ Http.statusText n ++ " (retryable)"
  | decode key e => key ++ ": failed to decode response: " ++ e.message
  | encode key e => key ++ ": failed to encode request: " ++ e.message
  | contract m => "contract violation: " ++ m
  | invalidUrl url e => "invalid request url '" ++ url ++ "': " ++ e.message
  | retriesExhausted key n e =>
    key ++ ": giving up after " ++ toString n ++ " attempts: " ++ e.message

/-- Whether a further attempt may help. -/
def isRetryable : ClientError → Bool
  | transport .. | retryableStatus .. => true
  | _ => false

/-- The wait that the server asks for. -/
def retryAfter? : ClientError → Option Duration
  | retryableStatus _ _ after => after
  | _ => none

/-- The status of the response behind an error. -/
def status? : ClientError → Option Nat
  | status _ n _ => some n
  | retryableStatus _ n _ => some n
  | retriesExhausted _ _ e => e.status?
  | _ => none

end ClientError
end ServiceClient
