import ServiceClient.Declaration.Basic

/-!
# Descriptors as JSON

A descriptor is shown with all its fields; of its configurations and customizers only the numbers
are shown.
-/

namespace ServiceClient

/-- A type as JSON. -/
def TypeRef.json (t : TypeRef) : Json :=
  .ofFields [("name", .string t.name), ("interface", .bool t.isInterface)]

/-- A type as JSON, or null. -/
def TypeRef.json? : Option TypeRef → Json
  | none => .null
  | some t => t.json

/-- A descriptor as JSON. -/
def Descriptor.json {γ : Type} (d : Descriptor γ) : Json :=
  .ofFields [("client_type", d.clientType.json), ("name", .string d.name),
    ("context_id", .string d.contextId), ("url", Json.ofText? d.url), ("path", .string d.path),
    ("decode404", .bool d.decode404), ("fallback", TypeRef.json? d.fallback.delegate?),
    ("fallback_factory", TypeRef.json? d.fallback.factory?),
    ("fallback_spec", .string d.fallback.word),
    ("qualifiers", .array (d.qualifiers.map .string)), ("primary", .bool d.primary),
    ("configurations", .int d.configurations.length),
    ("customizers", .int d.customizers.length)]

end ServiceClient
