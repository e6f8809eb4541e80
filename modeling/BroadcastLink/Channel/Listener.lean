import BroadcastLink.Channel
import BroadcastLink.Session

/-!
# Listening

Each connection starts with an empty framer, so no byte of one connection is taken for a part of
another. Packets that are no events are counted and change nothing else.
-/

namespace BroadcastLink.Channel

/-- The writer is gone: the channel is not connected any more. It rests before it connects again,
unless it was cancelled, and then the calls that shut it down are told. -/
def afterRemoval (c : Channel) (now : Instant) : Channel :=
  let c := { c.takeWriter with counters := c.counters.setConnected false }.giveUp .listener
  if c.isCancelled then c.putListener .over
  else c.putListener (.resting (c.settings.reconnectDelay.after now))

/-- Take the writer away as soon as the lock allows. -/
def remove (c : Channel) (now : Instant) : Channel :=
  let c := { c.request .listener with listener := .removing }
  if c.lock.heldBy .listener then c.afterRemoval now else c

/-- The connection is lost. It is hung up at once, unless a writer is left that has to be taken away
first. -/
def lose (c : Channel) (line : LineId) (now : Instant) : Channel :=
  if c.writer = some line then c.remove now else (c.ask (.hangUp line)).remove now

/-- Put the writer there; from now on the channel is connected. -/
def install (c : Channel) (line : LineId) : Channel :=
  { c with
    writer := some line
    isBroken := false
    counters := c.counters.setConnected true
    listener := .reading line }.giveUp .listener

/-- The greeting is out: put the writer there as soon as the lock allows. -/
def greeted (c : Channel) (line : LineId) : Channel :=
  let c := { c.request .listener with framer := c.framer.reset, listener := .installing line }
  if c.lock.heldBy .listener then c.install line else c

/-- Connecting succeeded or failed. -/
def dialled (c : Channel) (now : Instant) (outcome : Except IoFault LineId) : Channel :=
  match c.listener with
  | .dialling _ =>
    match outcome with
    | .ok line => c.putListener (.greeting line greetingBytes)
    | .error _ => c.remove now
  | _ => c

/-- Connecting took too long. -/
def dialExpired (c : Channel) (now : Instant) : Channel :=
  match c.listener with
  | .dialling deadline =>
    if deadline ≤ now then c.dialled now (.error (.bare .timedOut)) else c
  | _ => c

/-- Note what a packet gave. -/
def countPacket (counters : Counters) : Except DecodeFault (Option Event) → Counters
  | .ok (some _) => counters.packetDecoded
  | .ok none => counters
  | .error _ => counters.packetDropped

/-- Bytes arrived: publish the events that they complete. -/
def listen (c : Channel) (bytes : Bytes) : Channel :=
  let (framer, decoded) := c.framer.feedEvents c.studio bytes
  { c with
    framer := framer
    counters := decoded.foldl countPacket (c.counters.addBytes bytes.length)
    acts := c.acts ++ (publications decoded).map .publish }

/-- What the connection did for the listener. -/
def hearListener (c : Channel) (now : Instant) (stimulus : Stimulus) : Channel :=
  match c.listener, stimulus with
  | .greeting line rest, .accepted n =>
    if n = 0 then c.lose line now
    else match rest.drop n with
      | [] => c.greeted line
      | rest => c.putListener (.greeting line rest)
  | .greeting line _, .writeFailed _ => c.lose line now
  | .reading _, .received bytes => c.listen bytes
  | .reading line, .ended | .reading line, .readFailed _ => c.lose line now
  | _, _ => c

/-- Does the listener have something to do that no connection has to do with: notice that it was
cancelled or that the writer broke, or use the lock it was handed? -/
def listenerReady (c : Channel) : Bool :=
  match c.listener with
  | .dialling _ | .resting _ => c.isCancelled
  | .reading _ => c.isCancelled || c.isBroken
  | .installing _ | .removing => c.lock.heldBy .listener
  | .greeting _ _ | .over => false

/-- Do that. -/
def resumeListener (c : Channel) (now : Instant) : Channel :=
  if c.listenerReady then
    match c.listener with
    | .dialling _ => c.remove now
    | .resting _ => c.putListener .over
    | .reading line => c.lose line now
    | .installing line => c.install line
    | .removing => c.afterRemoval now
    | _ => c
  else c

/-- What the listener wants. -/
def listenerWant (c : Channel) : Want :=
  if c.listenerReady then .nothing
  else match c.listener with
    | .dialling _ => .dial c.host c.port
    | .greeting line rest => .write line rest
    | .reading line => .read line (some c.settings.readBufferSize)
    | _ => .patience

/-- The rest between two connections is over: connect again. -/
def listenerRested (c : Channel) (now : Instant) : Channel :=
  match c.listener with
  | .resting wakeAt =>
    if wakeAt ≤ now then c.putListener (.dialling (c.settings.connectTimeout.after now)) else c
  | _ => c

/-- When the listener's stage runs out of time. -/
def listenerAlarm? (c : Channel) : Option Alarm :=
  match c.listener with
  | .dialling deadline => some ⟨deadline, .connection 0⟩
  | .resting wakeAt => some ⟨wakeAt, .pause⟩
  | _ => none

/-- The listener's stage ran out of time. -/
def listenerExpired (c : Channel) (now : Instant) : Channel :=
  (c.dialExpired now).listenerRested now

/-- Is the listener at its end? -/
def isOver (c : Channel) : Bool := c.listener = .over

end BroadcastLink.Channel
