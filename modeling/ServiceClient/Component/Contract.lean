import ServiceClient.Call.Template
import ServiceClient.TypeRef

/-!
# Contracts

A contract says which requests may be sent.
-/

namespace ServiceClient

/-- Which requests may be sent; a violation is told in words. -/
structure Contract where
  validate : Target → Template → Except String Unit

namespace Contract

/-- Whether a path names a server of its own. -/
def isAbsolute (path : String) : Bool :=
  Text.containsRun [':', '/', '/'] path.toList

/-- Whether requests of a method have no body. -/
def isBodiless (method : String) : Bool :=
  method == "GET" || method == "HEAD"

/-- Paths are relative, and requests that only read have no body. -/
def standard : Contract where
  validate target t :=
    if isAbsolute t.path then
      .error (target.name ++ ": path '" ++ t.path ++ "' must be relative to the client url")
    else if isBodiless t.method && !t.body.isEmpty then
      .error (target.name ++ ": " ++ t.method ++ " requests cannot carry a body")
    else .ok ()

/-- Every request may be sent. -/
def lenient : Contract where
  validate _ _ := .ok ()

/-- No request may be sent. -/
def rejecting (message : String) : Contract where
  validate target t := .error (message ++ ":" ++ target.name ++ ":" ++ t.path)

end Contract
end ServiceClient
