import BroadcastLink.Channel
import BroadcastLink.Session

/-!
# Writing without waiting for a response

A batch is written whole by whoever holds the lock. Without a connection it is dropped. A write that
fails or takes too long is dropped too and gives the connection up. Shutting down takes the writer
away and waits for the listener to end.
-/

namespace BroadcastLink.Channel

/-- A batch could not be written. -/
def dropWrite (c : Channel) (call : CallId) : Channel :=
  ({ c with counters := c.counters.writeDropped }.giveUp (.call call)).endCall call
    |>.ask (.sent call false)

/-- With the lock: begin to write, if there is a connection. -/
def beginWrite (c : Channel) (call : CallId) (payload : Bytes) (now : Instant) : Channel :=
  match c.writer with
  | some _ => c.putCall call (.writing payload (c.settings.writeTimeout.after now))
  | none => c.dropWrite call

/-- Write a payload as soon as the lock allows. -/
def queueWrite (c : Channel) (call : CallId) (payload : Bytes) (now : Instant) : Channel :=
  let c := (c.request (.call call)).putCall call (.queued payload)
  if c.lock.heldBy (.call call) then c.beginWrite call payload now else c

/-- A call to write commands. A batch without commands needs no connection. -/
def sendRealtime (c : Channel) (call : CallId) (commands : List String) (now : Instant) :
    Except Fault Channel :=
  match realtimePayload commands with
  | .error fault => .error fault
  | .ok [] => .ok (c.ask (.sent call false))
  | .ok payload => .ok (c.queueWrite call payload now)

/-- A write failed: the connection is given up, and the listener is to notice. -/
def breakWriter (c : Channel) (call : CallId) : Channel :=
  { c.takeWriter with isBroken := true }.ask (.wake .listener) |>.dropWrite call

/-- What the connection did for a call that writes. -/
def hearWrite (c : Channel) (call : CallId) (stimulus : Stimulus) : Channel :=
  match c.calls.get? call, stimulus with
  | some (.writing rest deadline), .accepted n =>
    if n = 0 then c.breakWriter call
    else match rest.drop n with
      | [] => ((c.giveUp (.call call)).endCall call).ask (.sent call true)
      | rest => c.putCall call (.writing rest deadline)
  | some (.writing _ _), .writeFailed _ => c.breakWriter call
  | _, _ => c

/-- A call took too long to write. -/
def writeExpired (c : Channel) (call : CallId) (now : Instant) : Channel :=
  match c.calls.get? call with
  | some (.writing _ deadline) => if deadline ≤ now then c.breakWriter call else c
  | _ => c

/-! ## Shutting down -/

/-- With the lock: take the writer away, then wait for the listener. -/
def closeWriter (c : Channel) (call : CallId) : Channel :=
  let c := c.takeWriter.giveUp (.call call)
  if c.listener = .over then (c.endCall call).ask (.stopped call) else c.putCall call .joining

/-- A call to shut the channel down. Only the first one waits for it. -/
def shutdown (c : Channel) (call : CallId) : Channel :=
  if c.isCancelled then c.ask (.stopped call)
  else
    let c := ({ c with isCancelled := true }.ask (.wake .listener)).request (.call call)
    let c := c.putCall call .closing
    if c.lock.heldBy (.call call) then c.closeWriter call else c

/-- Can a call go on: does it have the lock it waited for, or is the listener at its end? -/
def callReady (c : Channel) (call : CallId) : Bool :=
  match c.calls.get? call with
  | some (.queued _) | some .closing => c.lock.heldBy (.call call)
  | some .joining => c.listener = .over
  | _ => false

/-- What a call wants. -/
def callWant (c : Channel) (call : CallId) : Want :=
  if c.callReady call then .nothing
  else match c.calls.get? call, c.writer with
    | some (.writing rest _), some line => .write line rest
    | _, _ => .patience

/-- Go on. -/
def resumeCall (c : Channel) (call : CallId) (now : Instant) : Channel :=
  if c.callReady call then
    match c.calls.get? call with
    | some (.queued payload) => c.beginWrite call payload now
    | some .closing => c.closeWriter call
    | some .joining => (c.endCall call).ask (.stopped call)
    | _ => c
  else c

/-- A call was given up. What it has written stays written. -/
def cancelCall (c : Channel) (call : CallId) : Channel := (c.giveUp (.call call)).endCall call

/-- When a call runs out of time. -/
def callAlarm? (c : Channel) (call : CallId) : Option Alarm :=
  match c.calls.get? call with
  | some (.writing _ deadline) => some ⟨deadline, .room⟩
  | _ => none

/-- The calls that wait for the listener to end. -/
def joiners (c : Channel) : List CallId :=
  (c.calls.entries.filter fun e => e.2 = .joining).map (·.1)

end BroadcastLink.Channel
