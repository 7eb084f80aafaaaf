import Mathlib.Data.List.Basic
import ServiceClient.Proofs.Call.Fallback

/-!
# What is logged

Each event has a level from which on it is logged; events that show no part of the exchange with the
server are logged at every level. `call_withLevel` says that this is all that a logger level does: a
call at some level is the same call at the full level, without the events above the level.
`outcome_logged` tells from this what a caller and a reader of the log see.
-/

namespace ServiceClient

/-- The place of a level in their rising order. -/
def LoggerLevel.rank : LoggerLevel → Nat
  | none => 0
  | basic => 1
  | headers => 2
  | full => 3

namespace Report

/-- The level from which on an event is logged. -/
def level : Report → LoggerLevel
  | request .. | response .. | failure .. => .basic
  | requestHeader .. | responseHeader .. => .headers
  | requestBody .. | responseBody .. => .full
  | _ => .none

/-- Whether an event tells that a request is sent, or how it was answered. -/
def isLine : Report → Bool
  | request .. | response .. | failure .. => true
  | _ => false

/-- Whether an event shows a header line. -/
def isHeader : Report → Bool
  | requestHeader .. | responseHeader .. => true
  | _ => false

/-- The body that an event shows. -/
def body? : Report → Option Bytes
  | requestBody _ octets | responseBody _ octets => some octets
  | _ => none

/-- The event that tells that a request is sent. -/
def ofRequest (target : Target) (key : String) (r : Http.Request) : Report :=
  .request target.name key r.method r.url

/-- The event that tells how a request was answered. -/
def ofAnswer (target : Target) (key : String) : Answer → Report
  | .ok x => .response target.name key x.status
  | .error e => .failure target.name key e

/-- The lines of an exchange: for each request, in the order in which they are sent, the line for it
and then the line for its answer. The requests have numbers from `n` on. -/
def lines (target : Target) (key : String) (s : Surroundings) (n : Nat)
    (requests : List Http.Request) : List Report :=
  (requests.zipIdx n).flatMap fun x =>
    [.ofRequest target key x.1, .ofAnswer target key (s.answer x.2)]

/-- Events that are made for the header lines and for the body of a message. -/
structure Parts (header : String → Bytes → Report) (body : Bytes → Report) : Prop where
  header : ∀ n v, (header n v).isHeader = true
  body : ∀ o, (body o).body? = some o

variable {x : Report}

lemma level_of_isLine (line : x.isLine = true) : x.level = .basic := by
  cases x with
  | request | response | failure => rfl
  | _ => cases line

lemma level_of_isHeader (header : x.isHeader = true) : x.level = .headers := by
  cases x with
  | requestHeader | responseHeader => rfl
  | _ => cases header

lemma level_of_body? {o : Bytes} (shown : x.body? = some o) : x.level = .full := by
  cases x with
  | requestBody | responseBody => rfl
  | _ => cases shown

/-- Events that show a part of an exchange are not logged at every level. -/
lemma level_of_isWire (wire : x.isWire = true) : x.level ≠ .none := by
  cases x with
  | request | response | failure | requestHeader | responseHeader | requestBody | responseBody =>
    exact nofun
  | _ => cases wire

end Report

/-- Whether an event is logged at a level. -/
def LoggerLevel.shows (l : LoggerLevel) (x : Report) : Bool :=
  x.level.rank ≤ l.rank

namespace Handler

variable (h : Handler) (level : LoggerLevel) (target : Target) (key : String) (t : Template)
  (a : Answer) (s : Surroundings)

/-- The handler with another logger level. -/
def withLevel : Handler :=
  { h with loggerLevel := level }

/-- The events of a message: its first line, and then its parts. -/
def message (line : Report) (header : String → Bytes → Report) (body : Bytes → Report)
    (lines : Http.Headers) (octets : Bytes) : List Report :=
  if h.loggerLevel = .none then [] else line :: h.partReports header body lines octets

/-- A request is logged as a message. -/
lemma requestReports_eq (r : Http.Request) : h.requestReports target key r =
    h.message (.ofRequest target key r) (.requestHeader key) (.requestBody key) r.headers r.body :=
  rfl

/-- So is a response. -/
lemma answerReports_ok (x : Http.Response) : h.answerReports target key (.ok x) =
    h.message (.ofAnswer target key (.ok x)) (.responseHeader key) (.responseBody key) x.headers
      x.body :=
  rfl

section

variable {line : Report} {header : String → Bytes → Report} {body : Bytes → Report}
  (first : line.isLine = true) (parts : Report.Parts header body) (lines : Http.Headers)
  (octets : Bytes)

include parts

/-- The parts of a message are logged as far as the level shows them. -/
lemma partReports_withLevel :
    (h.withLevel level).partReports header body lines octets =
      ((h.withLevel .full).partReports header body lines octets).filter level.shows := by
  have headers n v := Report.level_of_isHeader (parts.header n v)
  have bodies o := Report.level_of_body? (parts.body o)
  cases level <;> cases octets <;>
    simp [partReports, withLevel, LoggerLevel.logsHeaders, LoggerLevel.logsBodies,
      LoggerLevel.shows, LoggerLevel.rank, headers, bodies, List.filter_map, Function.comp_def]

/-- No part of a message shows an empty body. -/
lemma body_ne_nil_of_mem_partReports :
    ∀ x ∈ h.partReports header body lines octets, ∀ o, x.body? = some o → o ≠ [] := by
  intro x mem o shown
  rcases List.mem_append.1 mem with mem | mem
  · split at mem
    · obtain ⟨⟨n, v⟩, -, rfl⟩ := List.mem_map.1 mem
      cases (Report.level_of_isHeader (parts.header n v)).symm.trans (Report.level_of_body? shown)
    · cases mem
  · split at mem
    next full =>
      cases List.mem_singleton.1 mem
      cases (parts.body octets).symm.trans shown
      simp only [Bool.and_eq_true, Bool.not_eq_true', List.isEmpty_eq_false_iff] at full
      exact full.2
    · cases mem

/-- No part of a message is a line of its own. -/
lemma lines_partReports : (h.partReports header body lines octets).filter Report.isLine = [] := by
  refine List.filter_eq_nil_iff.2 fun x mem line => ?_
  rcases List.mem_append.1 mem with mem | mem
  · split at mem
    · obtain ⟨⟨n, v⟩, -, rfl⟩ := List.mem_map.1 mem
      cases (Report.level_of_isHeader (parts.header n v)).symm.trans (Report.level_of_isLine line)
    · cases mem
  · split at mem
    · cases List.mem_singleton.1 mem
      cases (Report.level_of_body? (parts.body octets)).symm.trans (Report.level_of_isLine line)
    · cases mem

include first

/-- A whole message is logged as far as the level shows it. -/
lemma message_withLevel :
    (h.withLevel level).message line header body lines octets =
      ((h.withLevel .full).message line header body lines octets).filter level.shows := by
  have basic := Report.level_of_isLine first
  rw [message, message, if_neg (show (h.withLevel .full).loggerLevel ≠ .none from nofun),
    List.filter_cons, ← h.partReports_withLevel level parts]
  cases level <;> simp [LoggerLevel.shows, LoggerLevel.rank, basic, partReports, withLevel,
    LoggerLevel.logsHeaders, LoggerLevel.logsBodies]

/-- No message shows an empty body. -/
lemma body_ne_nil_of_mem_message :
    ∀ x ∈ h.message line header body lines octets, ∀ o, x.body? = some o → o ≠ [] := by
  intro x mem
  unfold message at mem
  split at mem
  · cases mem
  · rcases List.mem_cons.1 mem with rfl | mem
    · intro o shown
      cases (Report.level_of_isLine first).symm.trans (Report.level_of_body? shown)
    · exact h.body_ne_nil_of_mem_partReports parts lines octets x mem

/-- A message that is logged at all has one line. -/
lemma lines_message (logs : h.loggerLevel ≠ .none) :
    (h.message line header body lines octets).filter Report.isLine = [line] := by
  rw [message, if_neg logs, List.filter_cons, if_pos first, h.lines_partReports parts]

end

/-- The events for a part of a request. -/
lemma requestParts : Report.Parts (.requestHeader key) (.requestBody key) :=
  ⟨fun _ _ => rfl, fun _ => rfl⟩

/-- The events for a part of a response. -/
lemma responseParts : Report.Parts (.responseHeader key) (.responseBody key) :=
  ⟨fun _ _ => rfl, fun _ => rfl⟩

/-- An attempt at some level logs what the same attempt logs at the full level, as far as the level
shows it. -/
lemma attempt_withLevel :
    let full := (h.withLevel .full).attempt target key t a
    (h.withLevel level).attempt target key t a =
      { full with reports := full.reports.filter level.shows } := by
  have request (r : Http.Request) : (h.withLevel level).requestReports target key r =
      ((h.withLevel .full).requestReports target key r).filter level.shows := by
    simp only [requestReports_eq]
    exact h.message_withLevel level rfl (requestParts key) r.headers r.body
  have answer : (h.withLevel level).answerReports target key a =
      ((h.withLevel .full).answerReports target key a).filter level.shows := by
    cases a with
    | ok x =>
      simp only [answerReports_ok]
      exact h.message_withLevel level rfl (responseParts key) x.headers x.body
    | error e => cases level <;> rfl
  have prepared : (h.withLevel level).prepare target key t =
      (h.withLevel .full).prepare target key t := rfl
  simp only [attempt, prepared]
  split
  · rfl
  next r _ =>
    rw [request, answer, List.filter_append]
    rfl

/-- So do several attempts: the level does not count for what is tried, sent and waited for. -/
lemma attemptsFrom_withLevel (number left : Nat) :
    let full := (h.withLevel .full).attemptsFrom target key t s number left
    (h.withLevel level).attemptsFrom target key t s number left =
      { full with reports := full.reports.filter level.shows } := by
  induction left generalizing number with
  | zero =>
    simp only [attemptsFrom, attempt_withLevel h level]
    rfl
  | succ left ih =>
    simp only [attemptsFrom, attempt_withLevel h level]
    split
    · rfl
    next e _ =>
      split
      · rw [ih (number + 1)]
        simp only [List.filter_append, List.filter_cons]
        rfl
      · rfl

/-- A call at some level is the same call at the full level, without the events above the level. -/
lemma call_withLevel :
    let full := (h.withLevel .full).call target key t s
    (h.withLevel level).call target key t s =
      { full with reports := full.reports.filter level.shows } :=
  h.attemptsFrom_withLevel level target key t s 1 (h.retry.maxAttempts - 1)

/-- No event of an attempt shows an empty body. -/
lemma body_ne_nil_of_mem_attempt :
    ∀ x ∈ (h.attempt target key t a).reports, ∀ o, x.body? = some o → o ≠ [] := by
  unfold attempt
  split
  · exact fun x mem => absurd mem List.not_mem_nil
  next r _ =>
    intro x mem
    rcases List.mem_append.1 mem with mem | mem
    · rw [requestReports_eq] at mem
      exact h.body_ne_nil_of_mem_message rfl (requestParts key) r.headers r.body x mem
    · cases a with
      | ok y =>
        rw [answerReports_ok] at mem
        exact h.body_ne_nil_of_mem_message rfl (responseParts key) y.headers y.body x mem
      | error e =>
        simp only [answerReports] at mem
        split at mem
        · cases mem
        · cases List.mem_singleton.1 mem
          exact nofun

/-- Nor does one of several attempts. -/
lemma body_ne_nil_of_mem_attemptsFrom (number left : Nat) :
    ∀ x ∈ (h.attemptsFrom target key t s number left).reports, ∀ o, x.body? = some o → o ≠ [] := by
  induction left generalizing number with
  | zero => exact h.body_ne_nil_of_mem_attempt target key t _
  | succ left ih =>
    rw [attemptsFrom]
    dsimp only
    split
    · exact h.body_ne_nil_of_mem_attempt target key t _
    · split
      · intro x mem
        rcases List.mem_append.1 mem with mem | mem
        · exact h.body_ne_nil_of_mem_attempt target key t _ x mem
        · rcases List.mem_cons.1 mem with rfl | mem
          · intro o shown
            cases shown
          · exact ih (number + 1) x mem
      · exact h.body_ne_nil_of_mem_attempt target key t _

/-- The lines of an attempt: one for its request, and one for the answer. -/
lemma lines_attempt (logs : h.loggerLevel ≠ .none) :
    (h.attempt target key t a).reports.filter Report.isLine =
      (h.attempt target key t a).sent.toList.flatMap fun r =>
        [.ofRequest target key r, .ofAnswer target key a] := by
  have answer : (h.answerReports target key a).filter Report.isLine =
      [.ofAnswer target key a] := by
    cases a with
    | ok x =>
      rw [answerReports_ok]
      exact h.lines_message rfl (responseParts key) x.headers x.body logs
    | error e =>
      rw [answerReports, if_neg logs]
      rfl
  unfold attempt
  split
  · rfl
  next r _ =>
    rw [List.filter_append, answer, requestReports_eq,
      h.lines_message rfl (requestParts key) r.headers r.body logs]
    rfl

/-- The lines of several attempts are those for their requests. -/
lemma lines_attemptsFrom (logs : h.loggerLevel ≠ .none) (number left : Nat) (pos : 1 ≤ number) :
    (h.attemptsFrom target key t s number left).reports.filter Report.isLine =
      Report.lines target key s (number - 1)
        (h.attemptsFrom target key t s number left).requests := by
  have alone (number : Nat) :
      (h.attempt target key t (s.answer (number - 1))).reports.filter Report.isLine =
        Report.lines target key s (number - 1)
          (h.attempt target key t (s.answer (number - 1))).sent.toList := by
    rw [lines_attempt _ _ _ _ _ logs]
    cases (h.attempt target key t (s.answer (number - 1))).sent <;> rfl
  induction left generalizing number with
  | zero => exact alone number
  | succ left ih =>
    rw [attemptsFrom]
    dsimp only
    split
    · exact alone number
    next e failed =>
      split
      next re =>
        -- an attempt that is followed by another one has sent its request
        have att := h.attempt_attempted target key t (s.answer (number - 1))
        rw [failed] at att
        obtain ⟨r, sent⟩ := Option.isSome_iff_exists.1 (att.sent_of_isRetryable re)
        have between : ¬(Report.retrying target.name key number (h.waitAfter s.draw number e)
          e).isLine = true := Bool.false_ne_true
        have next : number - 1 + 1 = number + 1 - 1 := by omega
        rw [List.filter_append, List.filter_cons, if_neg between, alone, ih (number + 1) (by omega),
          sent, Report.lines, Report.lines, Report.lines, List.zipIdx_append, List.flatMap_append,
          Option.toList_some, List.length_singleton, next]
      · exact alone number

end Handler

/-- Two calls that differ in what they log only. -/
structure Outcome.Agrees (o o' : Outcome) : Prop where
  result : o.result = o'.result
  requests : o.exchange.requests = o'.exchange.requests
  waits : o.exchange.waits = o'.exchange.waits
  contacts : o.contacts = o'.contacts

namespace Outcome.Agrees

variable {o o' o'' : Outcome}

lemma symm (agree : o.Agrees o') : o'.Agrees o :=
  ⟨agree.result.symm, agree.requests.symm, agree.waits.symm, agree.contacts.symm⟩

lemma trans (agree : o.Agrees o') (agree' : o'.Agrees o'') : o.Agrees o'' :=
  ⟨agree.result.trans agree'.result, agree.requests.trans agree'.requests,
    agree.waits.trans agree'.waits, agree.contacts.trans agree'.contacts⟩

end Outcome.Agrees

namespace Client

section

variable (c : Client) (falling : Bool) (level : LoggerLevel) (key : String) (t : Template)
  (shape : ResultShape) (s : Surroundings) (answer : Delegate → Except ClientError Json)

/-- The client with another logger level. -/
def withLevel : Client :=
  { c with handler := c.handler.withLevel level }

@[simp] lemma handler_withLevel : (c.withLevel level).handler = c.handler.withLevel level := rfl

@[simp] lemma target_withLevel : (c.withLevel level).target = c.target := rfl

@[simp] lemma delegateFor?_withLevel (e : ClientError) :
    (c.withLevel level).delegateFor? e = c.delegateFor? e := rfl

/-- What a call gives, with or without the fallback. -/
def outcome : Outcome :=
  if falling then c.executeOrFallback key t shape s answer else c.execute key t shape s

/-- The events of a call that show a part of the exchange with the server. -/
def wire : List Report :=
  ((c.outcome falling key t shape s answer).events.map (·.report)).filter Report.isWire

/-- A call that may fall back reports its exchange first, and then that it falls back. -/
lemma exists_reports_outcome : ∃ after,
    (c.outcome falling key t shape s answer).events.map (·.report) =
      (c.handler.call c.target key t s).reports ++ after ∧
    ∀ x ∈ after, x.isWire = false := by
  have alone : (c.execute key t shape s).events.map (·.report) =
      (c.handler.call c.target key t s).reports := by
    rw [execute, List.map_map]
    exact List.map_id _
  have commanded (command : Option Command) :
      ((c.execute key t shape s).events.map fun x => { x with command }).map (·.report) =
        (c.handler.call c.target key t s).reports := by
    rw [List.map_map]
    exact alone
  cases falling with
  | false => exact ⟨[], by rw [List.append_nil]; exact alone, nofun⟩
  | true =>
    simp only [outcome, if_true, executeOrFallback]
    split
    · exact ⟨[], by rw [List.append_nil]; exact commanded _, nofun⟩
    · split
      · exact ⟨[], by rw [List.append_nil]; exact commanded _, nofun⟩
      · refine ⟨[.fallingBack c.target.name key], ?_, by simp [Report.isWire]⟩
        rw [List.map_append, commanded]
        rfl

/-- The wire events of a call are those of its exchange. -/
lemma wire_eq : c.wire falling key t shape s answer =
    (c.handler.call c.target key t s).reports.filter Report.isWire := by
  obtain ⟨after, eq, none⟩ := c.exists_reports_outcome falling key t shape s answer
  have unshown : after.filter Report.isWire = [] := by
    simpa [List.filter_eq_nil_iff] using none
  rw [wire, eq, List.filter_append, unshown, List.append_nil]

/-- The exchange of a call does not depend on whether it may fall back. -/
lemma exchange_outcome :
    (c.outcome falling key t shape s answer).exchange = c.handler.call c.target key t s := by
  cases falling with
  | false => rfl
  | true => exact c.exchange_executeOrFallback key t shape s answer

/-- A level does not count for what a call sends, waits for, turns to and gives. -/
lemma outcome_withLevel : ((c.withLevel level).outcome falling key t shape s answer).Agrees
    ((c.withLevel .full).outcome falling key t shape s answer) := by
  have call := c.handler.call_withLevel level c.target key t s
  have result (x : Exchange) (reports : List Report) :
      resultOf key shape { x with reports } = resultOf key shape x := rfl
  cases falling with
  | false => constructor <;> simp [outcome, execute, call, result]
  | true =>
    simp only [outcome, if_true, executeOrFallback, execute, handler_withLevel, target_withLevel,
      delegateFor?_withLevel, call, result]
    split
    · constructor <;> rfl
    · split <;> constructor <;> rfl

/-- A call at some level logs of its exchange what the same call logs at the full level, as far as
the level shows it. -/
lemma wire_withLevel :
    (c.withLevel level).wire falling key t shape s answer =
      ((c.withLevel .full).wire falling key t shape s answer).filter level.shows := by
  have call := congrArg Exchange.reports (c.handler.call_withLevel level c.target key t s)
  rw [wire_eq, wire_eq, List.filter_comm]
  exact congrArg (List.filter Report.isWire) call

/-- A lower level shows less of an exchange. -/
lemma wire_sublist {lower higher : LoggerLevel} (le : lower.rank ≤ higher.rank) :
    ((c.withLevel lower).wire falling key t shape s answer).Sublist
      ((c.withLevel higher).wire falling key t shape s answer) := by
  rw [wire_withLevel, c.wire_withLevel falling higher]
  refine List.monotone_filter_right _ fun x shown => ?_
  simp only [LoggerLevel.shows, decide_eq_true_eq] at shown ⊢
  exact shown.trans le

/-- No event of an exchange shows an empty body. -/
lemma body_ne_nil_of_mem_wire :
    ∀ x ∈ c.wire falling key t shape s answer, ∀ o, x.body? = some o → o ≠ [] := by
  rw [wire_eq]
  exact fun x mem => c.handler.body_ne_nil_of_mem_attemptsFrom c.target key t s 1 _ x
    (List.mem_of_mem_filter mem)

/-- The lines of an exchange are those for its requests. -/
lemma lines_wire (logs : c.handler.loggerLevel ≠ .none) :
    (c.wire falling key t shape s answer).filter Report.isLine =
      Report.lines c.target key s 0 (c.outcome falling key t shape s answer).exchange.requests := by
  have lines : (Report.isLine : Report → Bool) = fun x => x.isWire && x.isLine := by
    funext x
    cases x <;> rfl
  rw [wire_eq, exchange_outcome, List.filter_filter]
  simp only [Bool.and_comm (Report.isLine _), ← lines]
  exact c.handler.lines_attemptsFrom c.target key t s logs 1 _ le_rfl

end

/-- A logger level counts for nothing but the log. A call sends the same requests, waits as long,
turns to the same delegates and gives the same at every level. Of its exchange with the service it
logs nothing at the lowest level, and at most as much at a lower level as at a higher one; a header
line only at the level for header lines and above, and a body only at the full level, and only if it
is not empty. At every level but the lowest, the line for a request is followed by one line for its
answer and then by the line for the next request. -/
theorem outcome_logged (c : Client) (falling : Bool) (key : String) (t : Template)
    (shape : ResultShape) (s : Surroundings) (answer : Delegate → Except ClientError Json) :
    let o l := (c.withLevel l).outcome falling key t shape s answer
    let wire l := (c.withLevel l).wire falling key t shape s answer
    (∀ l l', (o l).Agrees (o l')) ∧
      wire .none = [] ∧
      (wire .basic).Sublist (wire .headers) ∧ (wire .headers).Sublist (wire .full) ∧
      (∀ l, ∀ x ∈ wire l,
        (x.isHeader = true → l = .headers ∨ l = .full) ∧
        ∀ octets, x.body? = some octets → l = .full ∧ octets ≠ []) ∧
      ∀ l, l ≠ .none →
        (wire l).filter Report.isLine =
          Report.lines c.target key s 0 (o l).exchange.requests := by
  intro o wire
  have shown (l : LoggerLevel) : ∀ x ∈ wire l, x.level.rank ≤ l.rank := by
    intro x mem
    have mem' : x ∈ (wire .full).filter l.shows :=
      c.wire_withLevel falling l key t shape s answer ▸ mem
    simpa [LoggerLevel.shows] using (List.mem_filter.1 mem').2
  refine ⟨fun l l' => ?_, ?_, c.wire_sublist falling key t shape s answer (by decide),
    c.wire_sublist falling key t shape s answer (by decide),
    fun l x mem => ⟨fun header => ?_, fun octets body => ?_⟩,
    fun l logs => (c.withLevel l).lines_wire falling key t shape s answer logs⟩
  · exact (c.outcome_withLevel falling l key t shape s answer).trans
      (c.outcome_withLevel falling l' key t shape s answer).symm
  · refine List.eq_nil_iff_forall_not_mem.2 fun x mem => ?_
    have low := shown .none x mem
    have high := Report.level_of_isWire (List.mem_filter.1 mem).2
    revert low high
    cases x.level <;> decide
  · have low := shown l x mem
    rw [Report.level_of_isHeader header] at low
    revert low
    cases l <;> decide
  · have low := shown l x mem
    rw [Report.level_of_body? body] at low
    refine ⟨?_, (c.withLevel l).body_ne_nil_of_mem_wire falling key t shape s answer x mem
      octets body⟩
    revert low
    cases l <;> decide

end Client
end ServiceClient
