import BroadcastLink.Station
import BroadcastLink.Text.Markup

/-!
# Calls on pools, channels and sessions

Borrowing, connecting, talking on a session in hand, giving it back, and executing commands in one
go.
-/

namespace BroadcastLink.Station

/-- Borrow a session of a pool. -/
def acquire (s : Station) (call : CallId) (pool : PoolId) : Station :=
  (s.startCall call (.borrowing pool)).onPool pool (·.acquire call s.now)

/-- Connect a session without a pool. -/
def connect (s : Station) (call : CallId) (id : Nat) (host : String) (port : UInt16)
    (timeout patience : Duration) : Station :=
  s.startCall call (.connecting id host port patience (timeout.after s.now))

/-- Connecting without a pool succeeded or failed. -/
def connected (s : Station) (call : CallId) (outcome : Except IoFault LineId) : Station :=
  match s.calls.get? call with
  | some (.connecting id host port patience _) =>
    match outcome with
    | .ok line =>
      { s with own := s.own.put call (.opened id line patience s.now) }.finish call (.session id)
    | .error source =>
      s.finish call (.fault (.connect (addressText host port) source))
  | _ => s

/-! ## Talking -/

/-- A session in a caller's hands. -/
def held? (s : Station) : Held → Option Session
  | .lent pool loan => (s.pools.get? pool).bind (·.loans.get? loan)
  | .own call => s.own.get? call

/-- Change a session in a caller's hands. -/
def putHeld (s : Station) (held : Held) (session : Session) : Station :=
  match held with
  | .lent pool loan => s.onPool pool (·.putLoan loan session)
  | .own call => { s with own := s.own.put call session }

/-- The answer to an exchange of a purpose. -/
def exchangeAnswer (purpose : Purpose) : Except Fault String → Answer
  | .error fault => .fault fault
  | .ok text =>
    match purpose with
    | .commands => .response text
    | .check => .passed

/-- Begin an exchange on a session in hand. -/
def talk (s : Station) (call : CallId) (held : Held) (purpose : Purpose)
    (begin : Session → Begun) : Station :=
  match s.held? held with
  | none => s
  | some session =>
    match begin session with
    | .over outcome => s.answer call (exchangeAnswer purpose outcome)
    | .inFlight session => (s.putHeld held session).startCall call (.talking held purpose)

/-- The exchange of a call moved on. -/
def talked (s : Station) (call : CallId) (stimulus : Stimulus) : Station :=
  match s.calls.get? call with
  | some (.talking held purpose) =>
    match s.held? held with
    | none => s
    | some session =>
      let (session, outcome) := session.react s.now stimulus
      let s := s.putHeld held session
      match outcome with
      | some outcome => s.finish call (exchangeAnswer purpose outcome)
      | none => s
  | _ => s

/-- Change a session in hand, without an exchange. -/
def changeHeld (s : Station) (held : Held) (f : Session → Session) : Station :=
  match s.held? held with
  | some session => s.putHeld held (f session)
  | none => s

/-! ## Giving sessions back -/

/-- A session connected without a pool leaves its owner's hands. -/
def handOver (s : Station) (call : CallId) (pool : Option PoolId)
    (take : Pool → Session → Pool) : Station :=
  match s.own.get? call with
  | none => s
  | some session =>
    let s := { s with own := s.own.erase call }
    match pool with
    | some pool => s.onPool pool (take · session)
    | none => s.hangUp session.line

/-- Give a session back to its pool, or one without a pool to the given one. -/
def release (s : Station) (held : Held) (pool : Option PoolId) : Station :=
  match held with
  | .lent pool loan => s.onPool pool (·.release loan)
  | .own call => s.handOver call pool Pool.takeBack

/-- Have a pool close a session. -/
def destroy (s : Station) (held : Held) (pool : Option PoolId) : Station :=
  match held with
  | .lent pool loan => s.onPool pool (·.destroyLoan loan)
  | .own call => s.handOver call pool Pool.destroy

/-- Lose a session. -/
def lose (s : Station) (held : Held) : Station :=
  match held with
  | .lent pool loan => s.onPool pool (·.loseLoan loan)
  | .own call => s.handOver call none Pool.destroy

/-! ## Pools and channels -/

/-- Drain a pool. -/
def drainPool (s : Station) (call : CallId) (pool : PoolId) : Station :=
  (s.startCall call (.draining pool)).onPool pool (·.startDrain call s.now)

/-- Write commands on a channel. -/
def realtime (s : Station) (call : CallId) (channel : ChannelId) (commands : List String)
    (forExecution : Bool) : Station :=
  let s := s.startCall call (.writing channel forExecution)
  match s.channels.get? channel with
  | none => s
  | some c =>
    match c.sendRealtime call commands s.now with
    | .ok c => s.onChannel channel fun _ => c
    | .error fault => s.finish call (.fault fault)

/-- Shut a channel down. -/
def stopChannel (s : Station) (call : CallId) (channel : ChannelId) : Station :=
  (s.startCall call (.stopping channel)).onChannel channel (·.shutdown call)

/-! ## Executing commands -/

/-- Execute commands on a studio: over its channel without a response, or over its pool. -/
def execute (s : Station) (call : CallId) (studio : String) (commands : Commands)
    (options : ExecuteOptions) : Station :=
  match s.registry.links.get? studio with
  | none => s.answer call (.fault (.unknownStudio studio))
  | some link =>
    if options.realtime then s.realtime call link.channel commands.toList true
    else
      let stage := .executing link.pool commands.toList options.raw .borrowing
      (s.startCall call stage).onPool link.pool (·.acquire call s.now)

/-- The response as the caller gets it. -/
def executeAnswer (raw : Bool) : Except Fault String → Answer
  | .error fault => .fault fault
  | .ok text => .executed (some (if raw then text else Text.Markup.escape text))

/-- The commands are through: the session goes back first. -/
def executed (s : Station) (call : CallId) (pool : PoolId) (raw : Bool)
    (outcome : Except Fault String) : Station :=
  (s.onPool pool (·.release call)).finish call (executeAnswer raw outcome)

/-- Send the commands on the session borrowed for them. -/
def beginExecution (s : Station) (call : CallId) : Station :=
  match s.calls.get? call with
  | some (.executing pool commands raw .lent) =>
    match (s.pools.get? pool).map (·.beginOn call (·.send commands)) with
    | some (p, outcome) =>
      let s := s.onPool pool fun _ => p
      match outcome with
      | some outcome => s.executed call pool raw outcome
      | none => s.putCall call (.executing pool commands raw .exchanging)
    | none => s
  | _ => s

/-- The exchange of the commands moved on. -/
def executionMoved (s : Station) (call : CallId) (stimulus : Stimulus) : Station :=
  match s.calls.get? call with
  | some (.executing pool _ raw .exchanging) =>
    match (s.pools.get? pool).map (·.hearLoan call s.now stimulus) with
    | some (p, outcome) =>
      let s := s.onPool pool fun _ => p
      match outcome with
      | some outcome => s.executed call pool raw outcome
      | none => s
    | none => s
  | _ => s

end BroadcastLink.Station
