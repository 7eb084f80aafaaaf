import ServiceClient.Http.Headers
import ServiceClient.Url.Basic

/-!
# Messages

What is handed to a transport, and what comes back.
-/

namespace ServiceClient.Http

/-- A request as it is handed to a transport. -/
structure Request where
  method : String
  url : Url
  headers : Headers
  body : Bytes
  deriving DecidableEq

/-- A response. -/
structure Response where
  status : Nat
  headers : Headers
  body : Bytes
  deriving DecidableEq, Inhabited

end ServiceClient.Http
