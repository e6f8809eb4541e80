import BroadcastLink.Alarm
import BroadcastLink.Command
import BroadcastLink.Response
import BroadcastLink.Session.State
import BroadcastLink.Want

/-!
# Command sessions

A session is one command connection with at most one exchange in flight. Nothing on the wire tells
which response belongs to which command, so an exchange writes its lines together and then reads one
response for each; an exchange that fails, times out or is given up leaves a session that can only
be destroyed.

An exchange is a machine. It says what it wants of its connection, is told what the connection did,
and moves on. Time enters through the clock readings it is given.
-/

namespace BroadcastLink

/-- How far an exchange has come. -/
inductive ExchangeStage where
  /-- These bytes still have to be written. -/
  | writing (rest : Bytes)
  /-- All is written and has to be pushed out. -/
  | flushing
  /-- So many responses are still to come, the next one by the deadline. -/
  | reading (left : Nat) (deadline : Instant)
  deriving DecidableEq, Repr

/-- What an exchange is for. -/
inductive Purpose where
  | commands
  | check
  deriving DecidableEq, Repr

/-- An exchange in flight: how many responses it reads, and how long it waits for each. -/
structure Exchange where
  purpose : Purpose
  responses : Nat
  timeout : Duration
  stage : ExchangeStage
  deriving DecidableEq, Repr

/-- A command connection with its bookkeeping. -/
structure Session where
  id : Nat
  line : LineId
  state : SessionState := .idle
  responses : ResponseBuffer := {}
  /-- How long commands wait for each response. -/
  patience : Duration
  openedAt : Instant
  lastUsed : Instant
  /-- The pool whose capacity the session takes up. -/
  pool : Option PoolId := none
  exchange : Option Exchange := none
  deriving DecidableEq, Repr

/-- What a connection did for an exchange. -/
inductive Stimulus where
  /-- It took so many bytes. -/
  | accepted (n : Nat)
  | writeFailed (fault : IoFault)
  | flushed
  | flushFailed (fault : IoFault)
  | received (bytes : Bytes)
  /-- Nothing more will arrive. -/
  | ended
  | readFailed (fault : IoFault)
  /-- The deadline passed. -/
  | expired
  deriving DecidableEq, Repr

/-- The start of an exchange: it was over at once, or it is in flight. -/
inductive Begun where
  | over (outcome : Except Fault String)
  | inFlight (session : Session)

namespace Session

/-- A session on a new connection. -/
def opened (id : Nat) (line : LineId) (patience : Duration) (now : Instant) : Session :=
  { id := id, line := line, patience := patience, openedAt := now, lastUsed := now }

/-- How long no exchange was completed. -/
def idleFor (s : Session) (now : Instant) : Duration := ⟨now - s.lastUsed⟩

/-- How long the connection has been open. -/
def age (s : Session) (now : Instant) : Duration := ⟨now - s.openedAt⟩

/-- The session may only be destroyed. -/
def invalidate (s : Session) : Session := { s with state := s.state.invalidate }

/-! ## Beginning an exchange -/

/-- Begin to write bytes that `responses` responses answer. -/
def start (s : Session) (purpose : Purpose) (bytes : Bytes) (responses : Nat) (timeout : Duration) :
    Session :=
  { s with
    state := .awaitingResponse
    exchange := some ⟨purpose, responses, timeout, .writing bytes⟩ }

/-- Send commands. A session that is not idle refuses; then each command must be one line without a
reserved word. No command at all has an empty response. -/
def send (s : Session) (commands : List String) : Begun :=
  match s.state with
  | .awaitingResponse => .over (.error (.sessionBusy s.id))
  | .invalid => .over (.error (.sessionInvalid s.id))
  | .idle =>
    match sessionPayload commands with
    | .error fault => .over (.error fault)
    | .ok bytes =>
      if commands.isEmpty then .over (.ok "")
      else .inFlight (s.start .commands bytes commands.length s.patience)

/-- The line of a liveness check. -/
def blankLine : Bytes := [0x0A]

/-- Check that the connection is alive: a blank line has to be answered in time. -/
def check (s : Session) (timeout : Duration) : Begun :=
  match s.state with
  | .idle => .inFlight (s.start .check blankLine 1 timeout)
  | _ => .over (.error .validationFailure)

/-! ## Going on with an exchange -/

/-- An exchange failed: the session is invalid, and a check tells no more than that it failed. -/
def fail (s : Session) (purpose : Purpose) (fault : Fault) :
    Session × Option (Except Fault String) :=
  let fault := match purpose with
    | .commands => fault
    | .check => .validationFailure
  ({ s.invalidate with exchange := none }, some (.error fault))

/-- An exchange got its last response. Only commands count as use. -/
def finish (s : Session) (purpose : Purpose) (now : Instant) (response : String) :
    Session × Option (Except Fault String) :=
  let lastUsed := match purpose with
    | .commands => now
    | .check => s.lastUsed
  ({ s with state := s.state.complete, lastUsed := lastUsed, exchange := none },
    some (.ok response))

/-- Take the responses that have arrived. Every response has a deadline of its own, counted from the
one before. -/
def settle (s : Session) (x : Exchange) (now : Instant) :
    Nat → Instant → Session × Option (Except Fault String)
  | 0, _ => s.finish x.purpose now ""
  | left + 1, deadline =>
    match s.responses.take with
    | (responses, none) =>
      let s := { s with responses := responses }
      ({ s with exchange := some { x with stage := .reading (left + 1) deadline } }, none)
    | (responses, some response) =>
      let s := { s with responses := responses }
      if left = 0 then s.finish x.purpose now response
      else s.settle x now left (x.timeout.after now)

/-- Go on with the exchange in flight. The outcome comes with the last step. -/
def react (s : Session) (now : Instant) (stimulus : Stimulus) :
    Session × Option (Except Fault String) :=
  match s.exchange with
  | none => (s, none)
  | some x =>
    match x.stage, stimulus with
    | .writing rest, .accepted n =>
      if n = 0 then s.fail x.purpose (.io (.bare .writeZero))
      else
        let stage := match rest.drop n with
          | [] => .flushing
          | rest => .writing rest
        ({ s with exchange := some { x with stage := stage } }, none)
    | .writing _, .writeFailed fault => s.fail x.purpose (.io fault)
    | .flushing, .flushed => s.settle x now x.responses (x.timeout.after now)
    | .flushing, .flushFailed fault => s.fail x.purpose (.io fault)
    | .reading left deadline, .received bytes =>
      settle { s with responses := s.responses.extend bytes } x now left deadline
    | .reading _ _, .ended => s.fail x.purpose .connectionClosed
    | .reading _ _, .readFailed fault => s.fail x.purpose (.io fault)
    | .reading _ deadline, .expired =>
      if deadline ≤ now then s.fail x.purpose (.responseTimeout x.timeout) else (s, none)
    | _, _ => (s, none)

/-- Give up the exchange in flight. The session stays as if still waiting for a response. -/
def abandon (s : Session) : Session := { s with exchange := none }

/-- What the exchange in flight wants. -/
def want (s : Session) : Want :=
  match s.exchange with
  | some ⟨_, _, _, .writing rest⟩ => .write s.line rest
  | some ⟨_, _, _, .flushing⟩ => .flush s.line
  | some ⟨_, _, _, .reading _ _⟩ => .read s.line none
  | none => .patience

/-- When the exchange in flight runs out of time. -/
def alarm? (s : Session) : Option Alarm :=
  match s.exchange with
  | some ⟨_, _, _, .reading left deadline⟩ => some ⟨deadline, .response s.id left⟩
  | _ => none

end Session

end BroadcastLink
