import ServiceClient.Factory.Error
import ServiceClient.Text.Blank
import ServiceClient.Url.Parser

/-!
# Names, addresses and paths

A client is known by a name that could stand for its host. Its address and its path are written in a
normal form, so that they can be put together.
-/

namespace ServiceClient

namespace ClientName

/-- Whether a name tells the scheme itself. -/
def hasScheme (name : String) : Bool :=
  Text.beginsWith name "http://" || Text.beginsWith name "https://"

/-- The address that a name stands for. -/
def address (name : String) : String :=
  if hasScheme name then name else "http://" ++ name

/-- What is wrong with a name: it has to be that of a host. -/
def flaw? (name : String) : Option NameFlaw :=
  if Text.allBlank name then some .blank
  else match Url.parse (address name) with
    | .error e => some (.notHost e)
    | .ok url => if url.host?.isSome then none else some .noHost

/-- Accepts a name without a flaw. -/
def check (name : String) : Except FactoryError String :=
  match flaw? name with
  | none => .ok name
  | some flaw => .error (.invalidName name flaw)

end ClientName

namespace Address

/-- Whether an address is left to be computed by someone else. -/
def isDeferred (url : String) : Bool :=
  Text.beginsWith url "#\x7b" && url.toList.contains '\x7d'

/-- An address with a scheme. -/
def withScheme (url : String) : String :=
  if Text.containsRun [':', '/', '/'] url.toList then url else "http://" ++ url

/-- The normal form of an address: with a scheme and without slashes at its end. -/
def normalize (url : String) : Except FactoryError String :=
  let url := Text.trim url
  if url.isEmpty || isDeferred url then .ok url
  else
    let url := withScheme url
    match Url.parse url with
    | .error e => .error (.malformedUrl url e)
    | .ok _ => .ok (Text.dropEndSlashes url)

/-- The normal form of a path: empty, or a slash and a text without slashes at its ends. -/
def normalizePath (path : String) : String :=
  let inner := Text.dropBoth (· == '/') (Text.trim path).toList
  if inner.isEmpty then "" else String.ofList ('/' :: inner)

end Address
end ServiceClient
