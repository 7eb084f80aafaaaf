import ServiceClient.Declaration.Address
import ServiceClient.Declaration.Basic
import ServiceClient.Declaration.Placeholder

/-!
# From declarations to descriptors

A declaration is checked in a fixed order: its name, its context id, its fallback, its address. The
first flaw is told.
-/

namespace ServiceClient.Declaration

/-- The text of an attribute that is not blank, trimmed. -/
def attribute? (value : Option String) : Option String :=
  value.bind Text.nonBlank?

/-- The attribute that gives the name. -/
def givenName? {γ : Type} (d : Declaration γ) : Option String :=
  (attribute? d.serviceId).or ((attribute? d.name).or (attribute? d.value))

section

variable {γ : Type} (d : Declaration γ) (resolve : String → String)

/-- The name of the client. -/
def checkedName : Except FactoryError String :=
  match d.givenName? with
  | none => .error (.invalidName "" (.missing d.clientType.name))
  | some given => ClientName.check (resolve given)

/-- The context id of the client: its own one, or else its name. -/
def checkedContextId (name : String) : Except FactoryError String :=
  ClientName.check (((attribute? d.contextId).map resolve).getD name)

/-- The fallback of the client: at most one, and never an interface. -/
def checkedFallback (contextId : String) : Except FactoryError FallbackSpec :=
  match d.fallback, d.fallbackFactory with
  | none, none => .ok .none
  | some t, some f => .error (.conflictingFallback contextId t.name f.name)
  | some t, none =>
    if t.isInterface then .error (.interfaceFallback .fallback t.name) else .ok (.delegate t)
  | none, some f =>
    if f.isInterface then .error (.interfaceFallback .fallbackFactory f.name)
    else .ok (.factory f)

/-- The fixed address of the client, in normal form; an empty one counts as none. -/
def checkedUrl : Except FactoryError (Option String) :=
  match attribute? d.url with
  | none => .ok none
  | some given =>
    (Address.normalize (resolve given)).map fun url => if url.isEmpty then none else some url

/-- The path of the client, in normal form. -/
def normalPath : String :=
  ((d.path.map resolve).map Address.normalizePath).getD ""

/-- The qualifiers of the client: those that are not blank, or else a single one. -/
def knownQualifiers (contextId : String) : List String :=
  match d.qualifiers.filter (!Text.allBlank ·) with
  | [] => [(attribute? d.qualifier).getD (contextId ++ "Client")]
  | qs => qs

/-- The descriptor of a declaration whose texts are resolved by `resolve`, or its first flaw. -/
def describeWith : Except FactoryError (Descriptor γ) := do
  let name ← d.checkedName resolve
  let contextId ← d.checkedContextId resolve name
  let fallback ← d.checkedFallback contextId
  let url ← d.checkedUrl resolve
  return {
    clientType := d.clientType
    name
    contextId
    url
    path := d.normalPath resolve
    decode404 := d.decode404
    fallback
    qualifiers := d.knownQualifiers contextId
    primary := d.primary
    configurations := d.configurations
    customizers := d.customizers }

end

/-- The descriptor of a declaration with its placeholders expanded, or its first flaw. -/
def describe {γ : Type} (d : Declaration γ) (ps : Placeholders) :
    Except FactoryError (Descriptor γ) :=
  d.describeWith ps.expand

end ServiceClient.Declaration
