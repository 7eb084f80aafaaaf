import ServiceClient.Call.Log
import ServiceClient.TypeRef

/-!
# Commands

The command under which the call of a method runs.
-/

namespace ServiceClient

/-- How the commands of a client are named. -/
structure SetterFactory where
  create : Target → String → Command

namespace SetterFactory

/-- A group for each target, a command for each method. -/
def standard : SetterFactory where
  create target key := ⟨target.name, key⟩

/-- Groups with a name in front of the address. -/
def grouped (group : String) : SetterFactory where
  create target key := ⟨group ++ ":" ++ target.url, "cmd:" ++ key⟩

end SetterFactory
end ServiceClient
