import ServiceClient.Component.Codec
import ServiceClient.Component.Command
import ServiceClient.Component.Contract
import ServiceClient.Component.ErrorDecoder
import ServiceClient.Component.Interceptor
import ServiceClient.Component.QueryMap
import ServiceClient.Transport.Basic

/-!
# Calls

A handler carries out calls: it makes a request of a template, hands it to the transport, decodes
the answer, and tries again as its retry policy says. A call is a function of its template and of
what its surroundings give: the answers to the requests and the random shares of the waits.
-/

namespace ServiceClient

/-- Everything a call needs but its template. -/
structure Handler where
  loggerLevel : LoggerLevel
  options : RequestOptions
  retry : RetryPolicy
  /-- Whether a response of status 404 is decoded like a successful one. -/
  decode404 : Bool
  exceptionPolicy : ExceptionPolicy
  encoder : Encoder
  decoder : Decoder
  contract : Contract
  errorDecoder : ErrorDecoder
  queryMapEncoder : QueryMapEncoder
  interceptors : List Interceptor
  transport : Transport
  setterFactory : Option SetterFactory

/-- What a call meets: the answer to each request, and the random share of each wait. -/
structure Surroundings where
  answer : Nat → Answer
  draw : Nat → Float := fun _ => 0.0

/-- One attempt at a call. -/
structure Attempt where
  result : Except ClientError Json
  /-- The request, if one was sent. -/
  sent : Option Http.Request := none
  reports : List Report := []

/-- A call from its first attempt to its last. -/
structure Exchange where
  result : Except ClientError Json
  requests : List Http.Request
  waits : List Duration
  reports : List Report

namespace Handler

variable (h : Handler)

/-- The template with its query map turned into queries. -/
def expandQueries (t : Template) : Template :=
  match t.queryMap with
  | none => t
  | some v => t.withoutQueryMap.addQueries (h.queryMapEncoder.encode v)

/-- The template with its value encoded. -/
def encodeBody (methodKey : String) (t : Template) : Except ClientError Template :=
  match t.body with
  | .value v => (h.encoder.encode v t).mapError (.encode methodKey)
  | _ => .ok t

/-- The template after all interceptors. -/
def intercept (t : Template) : Template :=
  h.interceptors.foldl (fun t i => i.apply t) t

/-- The request that a finished template stands for. -/
def request (target : Target) (methodKey : String) (t : Template) :
    Except ClientError Http.Request :=
  match t.url target.url with
  | .error e => .error (.invalidUrl (Template.joinPath target.url t.path) e)
  | .ok url =>
    match t.body with
    | .empty => .ok ⟨t.method, url, t.headers, []⟩
    | .raw octets => .ok ⟨t.method, url, t.headers, octets⟩
    | .value _ => .error (.encode methodKey (.other "encoder left the body unencoded"))

/-- The template as it is when the contract sees it. -/
def finish (methodKey : String) (t : Template) : Except ClientError Template :=
  (h.encodeBody methodKey (h.expandQueries t)).map h.intercept

/-- The request that a template stands for, or why it is not sent. -/
def prepare (target : Target) (methodKey : String) (t : Template) :
    Except ClientError Http.Request :=
  match h.finish methodKey t with
  | .error e => .error e
  | .ok t =>
    match h.contract.validate target t with
    | .error violation => .error (.contract violation)
    | .ok () => request target methodKey t

/-- Whether a status counts as success. -/
def accepts (status : Nat) : Bool :=
  Http.isSuccess status || (status == 404 && h.decode404)

/-- What an answer means. -/
def interpret (methodKey : String) : Answer → Except ClientError Json
  | .error e => .error (.transport methodKey e)
  | .ok r =>
    if h.accepts r.status then (h.decoder.decode r).mapError (.decode methodKey)
    else .error (h.errorDecoder.decode methodKey r)

/-- The reports of the lines of a message, as far as the logger level allows. -/
def partReports (header : String → Bytes → Report) (body : Bytes → Report) (headers : Http.Headers)
    (octets : Bytes) : List Report :=
  (if h.loggerLevel.logsHeaders then
    (Http.Headers.sorted headers).map fun (name, value) => header name value else []) ++
  (if h.loggerLevel.logsBodies && !octets.isEmpty then [body octets] else [])

/-- The reports of a request. -/
def requestReports (target : Target) (methodKey : String) (r : Http.Request) : List Report :=
  if h.loggerLevel = .none then []
  else .request target.name methodKey r.method r.url ::
    h.partReports (.requestHeader methodKey) (.requestBody methodKey) r.headers r.body

/-- The reports of an answer. -/
def answerReports (target : Target) (methodKey : String) : Answer → List Report
  | .error e => if h.loggerLevel = .none then [] else [.failure target.name methodKey e]
  | .ok r =>
    if h.loggerLevel = .none then []
    else .response target.name methodKey r.status ::
      h.partReports (.responseHeader methodKey) (.responseBody methodKey) r.headers r.body

/-- One attempt, given the answer to its request. -/
def attempt (target : Target) (methodKey : String) (t : Template) (answer : Answer) : Attempt :=
  match h.prepare target methodKey t with
  | .error e => { result := .error e }
  | .ok r =>
    { result := h.interpret methodKey answer
      sent := some r
      reports := h.requestReports target methodKey r ++ h.answerReports target methodKey answer }

/-- The error of a call after its last attempt. -/
def giveUp (methodKey : String) (attempts : Nat) (e : ClientError) : ClientError :=
  if attempts ≤ 1 || h.exceptionPolicy = .unwrap then e
  else .retriesExhausted methodKey attempts e

/-- The wait after a failed attempt. -/
def waitAfter (draw : Nat → Float) (number : Nat) (e : ClientError) : Duration :=
  e.retryAfter?.getD (h.retry.backoff.delay number (draw number))

/-- The attempts from a given number on, with so many more behind it at most. -/
def attemptsFrom (target : Target) (methodKey : String) (t : Template) (s : Surroundings)
    (number : Nat) : Nat → Exchange
  | 0 =>
    let a := h.attempt target methodKey t (s.answer (number - 1))
    let final (e : ClientError) := if e.isRetryable then h.giveUp methodKey number e else e
    ⟨a.result.mapError final, a.sent.toList, [], a.reports⟩
  | left + 1 =>
    let a := h.attempt target methodKey t (s.answer (number - 1))
    match a.result with
    | .ok v => ⟨.ok v, a.sent.toList, [], a.reports⟩
    | .error e =>
      if e.isRetryable then
        let wait := h.waitAfter s.draw number e
        let next := attemptsFrom target methodKey t s (number + 1) left
        { result := next.result
          requests := a.sent.toList ++ next.requests
          waits := wait :: next.waits
          reports := a.reports ++ .retrying target.name methodKey number wait e :: next.reports }
      else ⟨.error e, a.sent.toList, [], a.reports⟩

/-- A call: at most as many attempts as the retry policy says, and at least one. -/
def call (target : Target) (methodKey : String) (t : Template) (s : Surroundings) : Exchange :=
  h.attemptsFrom target methodKey t s 1 (h.retry.maxAttempts - 1)

end Handler

/-- The longest time that passes in one wait: thirty years of 365 days. -/
def Exchange.longestWait : Duration := .ofSeconds (30 * 365 * 24 * 60 * 60)

/-- The moments at which the requests were sent, in milliseconds from the beginning. A begun
millisecond of a wait counts as a whole. -/
def Exchange.moments (x : Exchange) : List Nat :=
  (x.requests.zip (0 :: x.waits.map fun w => (w.min longestWait).ceilMillis)).foldl
    (fun ts (_, wait) => ts ++ [ts.getLast?.getD 0 + wait]) []

end ServiceClient
