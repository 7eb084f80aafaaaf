import ServiceClient.Url.Error

/-!
# Why a client cannot be made

Causes, and one wording for each.
-/

namespace ServiceClient

/-- The ways in which a fallback is declared. -/
inductive FallbackMechanism where
  | fallback
  | fallbackFactory
  deriving DecidableEq, Repr

/-- The word for a way. -/
def FallbackMechanism.word : FallbackMechanism → String
  | fallback => "fallback"
  | fallbackFactory => "fallbackFactory"

/-- Why a name is refused. -/
inductive NameFlaw where
  /-- No attribute gives a name. -/
  | missing (clientType : String)
  | blank
  /-- The name leaves the host empty. -/
  | noHost
  | notHost (source : Url.Error)
  deriving DecidableEq, Repr

/-- The text of a flaw. -/
def NameFlaw.message : NameFlaw → String
  | missing t => "either 'name' or 'value' must be provided for '" ++ t ++ "'"
  | blank => "name must not be blank"
  | noHost => "service id is not a legal hostname"
  | notHost e => "service id is not a legal hostname: " ++ e.message

/-- Why a client cannot be declared, made or found. Kinds of components are told by their names. -/
inductive FactoryError where
  | missingComponent (component contextId : String)
  | missingFallback (mechanism : FallbackMechanism) (fallbackType contextId : String)
  | incompatibleFallback (mechanism : FallbackMechanism)
      (fallbackType capability contextId : String)
  | invalidName (name : String) (flaw : NameFlaw)
  | malformedUrl (url : String) (source : Url.Error)
  | interfaceFallback (mechanism : FallbackMechanism) (typeName : String)
  | conflictingFallback (contextId fallback fallbackFactory : String)
  | unknownClient (contextId : String)
  | capabilityMismatch (contextId declared requested : String)
  deriving DecidableEq, Repr

/-- The text of an error, given the name of the type that a mechanism asks for. -/
def FactoryError.message (expected : FallbackMechanism → String → String) : FactoryError → String
  | missingComponent c id => "no component '" ++ c ++ "' available for client '" ++ id ++ "'"
  | missingFallback m t id =>
    "no " ++ m.word ++ " instance of type '" ++ t ++ "' found for client '" ++ id ++ "'"
  | incompatibleFallback m t capability id =>
    "incompatible " ++ m.word ++ " instance for client '" ++ id ++ "': '" ++ t ++
      "' is not assignable to '" ++ expected m capability ++ "'"
  | invalidName n flaw => "invalid client name '" ++ n ++ "': " ++ flaw.message
  | malformedUrl url e => "malformed url '" ++ url ++ "': " ++ e.message
  | interfaceFallback m t =>
    m.word ++ " class must implement the client interface: '" ++ t ++ "' is an interface"
  | conflictingFallback id fallback factory =>
    "client '" ++ id ++ "' declares both a fallback ('" ++ fallback ++
      "') and a fallback factory ('" ++ factory ++ "')"
  | unknownClient id => "no client registered under context id '" ++ id ++ "'"
  | capabilityMismatch id declared requested =>
    "client '" ++ id ++ "' is declared as '" ++ declared ++ "', not '" ++ requested ++ "'"

end ServiceClient
