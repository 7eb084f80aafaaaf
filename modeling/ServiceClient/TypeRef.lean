import ServiceClient.Text.Quoted

/-!
# Types and targets

A capability and an implementation of it are known by the name of their type; a target says where
the calls of a client go.
-/

namespace ServiceClient

/-- Whether a type is an interface or can have instances of its own. -/
inductive TypeShape where
  | concrete
  | interface
  deriving DecidableEq, Repr, Inhabited

/-- A type by name. -/
structure TypeRef where
  name : String
  shape : TypeShape
  deriving DecidableEq, Repr, Inhabited

namespace TypeRef

/-- Whether the type is an interface. -/
def isInterface (t : TypeRef) : Bool := t.shape == .interface

/-- The diagnostic text of a type. -/
def debugText (t : TypeRef) : String :=
  let shape := match t.shape with
    | .concrete => "Concrete"
    | .interface => "Interface"
  "TypeRef \x7b name: " ++ Text.quoted t.name ++ ", shape: " ++ shape ++ " \x7d"

end TypeRef

/-- Where the calls of a client go. -/
structure Target where
  clientType : TypeRef
  name : String
  url : String
  deriving DecidableEq, Repr, Inhabited

/-- The diagnostic text of a target. -/
def Target.debugText (t : Target) : String :=
  "RoutingTarget \x7b client_type: " ++ t.clientType.debugText ++ ", name: " ++
    Text.quoted t.name ++ ", url: " ++ Text.quoted t.url ++ " \x7d"

end ServiceClient
