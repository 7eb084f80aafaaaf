import ServiceClient.Component.Kind

/-!
# Declarations and descriptors

A declaration says what is wanted of a client, partly in texts with placeholders. A descriptor is a
declaration that has been checked and completed.
-/

namespace ServiceClient

/-- What is wanted of a client. -/
structure Declaration (γ : Type := Configuration Kind.Value) where
  clientType : TypeRef
  value : Option String := none
  name : Option String := none
  serviceId : Option String := none
  contextId : Option String := none
  url : Option String := none
  path : Option String := none
  decode404 : Bool := false
  fallback : Option TypeRef := none
  fallbackFactory : Option TypeRef := none
  configurations : List γ := []
  customizers : List Customizer := []
  qualifier : Option String := none
  qualifiers : List String := []
  primary : Bool := true

/-- The diagnostic form of a type that may be missing. -/
def TypeRef.debugText? : Option TypeRef → String
  | none => "None"
  | some t => "Some(" ++ t.debugText ++ ")"

/-- The diagnostic text of a declaration. -/
def Declaration.debugText {γ : Type} (d : Declaration γ) : String :=
  "ClientDeclaration \x7b client_type: " ++ d.clientType.debugText ++ ", value: " ++
    Text.quoted? d.value ++ ", name: " ++ Text.quoted? d.name ++ ", service_id: " ++
    Text.quoted? d.serviceId ++ ", context_id: " ++ Text.quoted? d.contextId ++ ", url: " ++
    Text.quoted? d.url ++ ", path: " ++ Text.quoted? d.path ++ ", fallback: " ++
    TypeRef.debugText? d.fallback ++ ", fallback_factory: " ++
    TypeRef.debugText? d.fallbackFactory ++ ", .. \x7d"

/-- How a fallback is declared. -/
inductive FallbackSpec where
  | none
  | delegate (type : TypeRef)
  | factory (type : TypeRef)
  deriving DecidableEq, Repr

namespace FallbackSpec

/-- The type of the delegate. -/
def delegate? : FallbackSpec → Option TypeRef
  | delegate t => some t
  | _ => Option.none

/-- The type of the factory. -/
def factory? : FallbackSpec → Option TypeRef
  | factory t => some t
  | _ => Option.none

/-- The word for the way in which a fallback is declared. -/
def word : FallbackSpec → String
  | none => "none"
  | delegate _ => "delegate"
  | factory _ => "factory"

/-- The diagnostic form of a declared fallback. -/
def debugText : FallbackSpec → String
  | none => "None"
  | delegate t => "Delegate(" ++ t.debugText ++ ")"
  | factory t => "Factory(" ++ t.debugText ++ ")"

end FallbackSpec

/-- A declaration that has been checked and completed. -/
structure Descriptor (γ : Type := Configuration Kind.Value) where
  clientType : TypeRef
  name : String
  contextId : String
  url : Option String := none
  path : String := ""
  decode404 : Bool := false
  fallback : FallbackSpec := .none
  qualifiers : List String := []
  primary : Bool := true
  configurations : List γ := []
  customizers : List Customizer := []

/-- The diagnostic text of a descriptor. -/
def Descriptor.debugText {γ : Type} (d : Descriptor γ) : String :=
  "ClientDescriptor \x7b client_type: " ++ d.clientType.debugText ++ ", name: " ++
    Text.quoted d.name ++ ", context_id: " ++ Text.quoted d.contextId ++ ", url: " ++
    Text.quoted? d.url ++ ", path: " ++ Text.quoted d.path ++ ", decode404: " ++
    Text.truthWord d.decode404 ++ ", fallback: " ++ d.fallback.debugText ++ ", qualifiers: " ++
    Text.quotedList d.qualifiers ++ ", primary: " ++ Text.truthWord d.primary ++
    ", configurations: " ++ toString d.configurations.length ++ ", customizers: " ++
    toString d.customizers.length ++ " \x7d"

end ServiceClient
