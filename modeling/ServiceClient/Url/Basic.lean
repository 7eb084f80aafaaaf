import ServiceClient.Url.Host
import ServiceClient.Url.Path

/-!
# URLs

The parts of a URL and its written form.
-/

namespace ServiceClient

/-- What stands behind two slashes: the user, the host and the port. -/
structure Url.Authority where
  username : String
  password : String
  host : Option Url.Host
  /-- The port, when it is not the one of the scheme. -/
  port : Option Nat
  deriving DecidableEq

/-- A path is a list of segments, or a text without structure. -/
inductive Url.PathPart where
  | segments (path : List (List Char))
  | opaqueText (text : List Char)
  deriving DecidableEq

/-- A URL. -/
structure Url where
  scheme : String
  authority : Option Url.Authority
  path : Url.PathPart
  query : Option (List Char)
  fragment : Option (List Char)
  deriving DecidableEq

namespace Url

/-- The host of a URL. -/
def host? (u : Url) : Option Host :=
  u.authority.bind (·.host)

/-- The port of a URL, when it is not the one of its scheme. -/
def port? (u : Url) : Option Nat :=
  u.authority.bind (·.port)

/-- The written form of an authority. -/
def Authority.text (a : Authority) : List Char :=
  let password := if a.password.isEmpty then [] else ':' :: a.password.toList
  let user := a.username.toList ++ password
  let host := match a.host with
    | none => []
    | some h => h.text.toList
  let port := match a.port with
    | none => []
    | some p => ':' :: Nat.toDigits 10 p
  (if user.isEmpty then [] else user ++ ['@']) ++ host ++ port

/-- The written form of a path. -/
def PathPart.text : PathPart → List Char
  | .segments path => pathText path
  | .opaqueText cs => cs

/-- The written form of a URL. -/
def text (u : Url) : String :=
  let authority := match u.authority with
    | some a => ['/', '/'] ++ a.text
    | none =>
      match u.path with
      | .segments ([] :: _ :: _) => ['/', '.']
      | _ => []
  let query := match u.query with
    | none => []
    | some q => '?' :: q
  let fragment := match u.fragment with
    | none => []
    | some f => '#' :: f
  String.ofList (u.scheme.toList ++ [':'] ++ authority ++ u.path.text ++ query ++ fragment)

end Url
end ServiceClient
