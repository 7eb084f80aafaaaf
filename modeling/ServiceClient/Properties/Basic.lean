import ServiceClient.Component.Interceptor
import ServiceClient.Properties.Codec

/-!
# Properties

What is configured for clients outside of the program: an entry for each client, and one for all of
them.
-/

namespace ServiceClient

/-- What is configured for a client, or for all of them. -/
structure PropertyEntry where
  loggerLevel : Option LoggerLevel := none
  connectMillis : Option UInt64 := none
  readMillis : Option UInt64 := none
  followRedirects : Option Bool := none
  retryer : Option String := none
  errorDecoder : Option String := none
  interceptors : List String := []
  decode404 : Option Bool := none
  encoder : Option String := none
  decoder : Option String := none
  contract : Option String := none
  exceptionPolicy : Option ExceptionPolicy := none
  headers : ValueLists := []
  queryParameters : ValueLists := []
  deriving DecidableEq, Repr, Inhabited

namespace PropertyEntry

/-- The fields of an entry, in their order. -/
def fields : List (Codec.Field PropertyEntry) :=
  [Codec.field "logger_level" (.optional (.word LoggerLevel.word LoggerLevel.all))
      (·.loggerLevel) (fun v e => { e with loggerLevel := v }),
    Codec.field "connect_timeout_ms" (.optional .unsigned)
      (·.connectMillis) (fun v e => { e with connectMillis := v }),
    Codec.field "read_timeout_ms" (.optional .unsigned)
      (·.readMillis) (fun v e => { e with readMillis := v }),
    Codec.field "follow_redirects" (.optional .bool)
      (·.followRedirects) (fun v e => { e with followRedirects := v }),
    Codec.field "retryer" (.optional .text)
      (·.retryer) (fun v e => { e with retryer := v }),
    Codec.field "error_decoder" (.optional .text)
      (·.errorDecoder) (fun v e => { e with errorDecoder := v }),
    Codec.field "request_interceptors" (.list .text)
      (·.interceptors) (fun v e => { e with interceptors := v }),
    Codec.field "decode404" (.optional .bool)
      (·.decode404) (fun v e => { e with decode404 := v }),
    Codec.field "encoder" (.optional .text)
      (·.encoder) (fun v e => { e with encoder := v }),
    Codec.field "decoder" (.optional .text)
      (·.decoder) (fun v e => { e with decoder := v }),
    Codec.field "contract" (.optional .text)
      (·.contract) (fun v e => { e with contract := v }),
    Codec.field "exception_propagation_policy"
      (.optional (.word ExceptionPolicy.word ExceptionPolicy.all))
      (·.exceptionPolicy) (fun v e => { e with exceptionPolicy := v }),
    Codec.field "default_request_headers" (.table (.list .text))
      (·.headers) (fun v e => { e with headers := v }),
    Codec.field "default_query_parameters" (.table (.list .text))
      (·.queryParameters) (fun v e => { e with queryParameters := v })]

/-- Entries as records. -/
def codec : Codec PropertyEntry := .record fields {}

end PropertyEntry

/-- Entries by name, and how they rank. -/
structure Properties where
  /-- Whether entries count more than what is declared. -/
  defaultToProperties : Bool := true
  /-- The name of the entry for all clients. -/
  defaultConfig : String := "default"
  config : Table PropertyEntry := []
  deriving DecidableEq, Repr, Inhabited

namespace Properties

/-- The fields of properties, in their order. -/
def fields : List (Codec.Field Properties) :=
  [Codec.field "default_to_properties" .bool
      (·.defaultToProperties) (fun v p => { p with defaultToProperties := v }),
    Codec.field "default_config" .text
      (·.defaultConfig) (fun v p => { p with defaultConfig := v }),
    Codec.field "config" (.table PropertyEntry.codec)
      (·.config) (fun v p => { p with config := v })]

/-- Properties as records. -/
def codec : Codec Properties := .record fields {}

/-- The entry for all clients. -/
def defaultEntry? (p : Properties) : Option PropertyEntry :=
  p.config.get? p.defaultConfig

/-- The entry of a client. -/
def clientEntry? (p : Properties) (contextId : String) : Option PropertyEntry :=
  p.config.get? contextId

/-- The properties with another entry for all clients. -/
def withDefault (p : Properties) (e : PropertyEntry) : Properties :=
  { p with config := p.config.put p.defaultConfig e }

/-- The properties with another entry for a client. -/
def withClient (p : Properties) (contextId : String) (e : PropertyEntry) : Properties :=
  { p with config := p.config.put contextId e }

end Properties
end ServiceClient
