import BroadcastLink.Proofs.Channel.Pipeline
import Mathlib.Logic.Relation

/-!
# What a channel writes, and for whom

A channel together with what was written on each of its connections and the calls it was written
for. What counts for the writing are the writer, its lock, the listener and the calls; everything
that happens to a channel is a few moves of these.
-/

namespace BroadcastLink

/-- What was written on a connection, and the calls whose commands began to be written there. -/
structure Outgoing where
  calls : List CallId := []
  bytes : Bytes := []
  /-- A call was given up with a part of its commands written. -/
  isTorn : Bool := false
  deriving DecidableEq, Repr

namespace Outgoing

/-- The connection took bytes. -/
def add (w : Outgoing) (bytes : Bytes) : Outgoing := { w with bytes := w.bytes ++ bytes }

/-- A call begins to write. -/
def enter (w : Outgoing) (call : CallId) : Outgoing := { w with calls := w.calls ++ [call] }

/-- A call that writes is given up. It leaves no trace if nothing of it was written. -/
def abandon (w : Outgoing) (call : CallId) (untouched : Bool) : Outgoing :=
  if untouched then { w with calls := w.calls.erase call } else { w with isTorn := true }

end Outgoing

/-- Does a call have the lock and a connection to write on? -/
def Channel.isWriting (c : Channel) (call : CallId) : Bool :=
  match c.calls.get? call with
  | some (.writing _ _) => true
  | _ => false

/-- A channel, what its calls were given to write, and what was written on its connections. -/
structure Outlet where
  channel : Channel
  asked : Roster CallId (List String) := {}
  wires : Roster LineId Outgoing := {}

namespace Outlet

/-- The outlet of a channel to a studio. -/
def toStudio (id : ChannelId) (studio : Studio) (settings : ChannelSettings) (now : Instant) :
    Outlet :=
  { channel := .toStudio id studio settings now }

/-- The commands that a call was given. -/
def commandsOf (asked : Roster CallId (List String)) (call : CallId) : List String :=
  (asked.get? call).getD []

/-- Every call and every connection has a number of its own. -/
def Admits (o : Outlet) : ChannelEvent → Bool
  | .dialled _ (.ok line) => !o.wires.has line
  | .sendRealtime call _ _ | .shutdown call => !o.asked.has call && !o.channel.calls.has call
  | _ => true

/-- The calls that were given something to write. -/
def askedAfter (o : Outlet) : ChannelEvent → Roster CallId (List String)
  | .sendRealtime call commands _ => o.asked.put call commands
  | _ => o.asked

/-- A call has begun to write, if it has now and had not before. -/
def enteredAfter (o : Outlet) (event : ChannelEvent) (call : CallId) : Roster LineId Outgoing :=
  match o.channel.isWriting call, (o.channel.perform event).isWriting call, o.channel.writer with
  | false, true, some line => o.wires.modify line (·.enter call)
  | _, _, _ => o.wires

/-- What was written once something happened: a connection is made with nothing written on it, takes
bytes from whoever writes, and keeps the calls that began to write on it. -/
def wiresAfter (o : Outlet) (event : ChannelEvent) : Roster LineId Outgoing :=
  match event with
  | .dialled _ (.ok line) =>
    match o.channel.listener with
    | .dialling _ => o.wires.put line {}
    | _ => o.wires
  | .hearListener _ (.accepted n) =>
    match o.channel.listener with
    | .greeting line rest => o.wires.modify line (·.add (rest.take n))
    | _ => o.wires
  | .hearWrite call (.accepted n) =>
    match o.channel.writer, o.channel.calls.get? call with
    | some line, some (.writing rest _) => o.wires.modify line (·.add (rest.take n))
    | _, _ => o.wires
  | .cancelCall call =>
    match o.channel.writer, o.channel.calls.get? call with
    | some line, some (.writing rest _) =>
      o.wires.modify line (·.abandon call (rest == lineBytes (commandsOf o.asked call)))
    | _, _ => o.wires
  | .sendRealtime call _ _ | .resumeCall call _ => o.enteredAfter event call
  | _ => o.wires

/-- One event. A number that is in use names nothing new. -/
def step (o : Outlet) (event : ChannelEvent) : Outlet :=
  if o.Admits event then
    { channel := o.channel.perform event, asked := o.askedAfter event, wires := o.wiresAfter event }
  else o

/-- Any number of events. -/
def run (o : Outlet) (events : List ChannelEvent) : Outlet := events.foldl step o

end Outlet

/-! ## Moves -/

/-- What counts for the writing on a channel's connections. -/
structure Outflow where
  writer : Option LineId
  lock : Lock WriterUser
  listener : ListenerStage
  calls : Roster CallId ChannelCall
  asked : Roster CallId (List String)
  wires : Roster LineId Outgoing

/-- Does a call at this stage hold the lock or stand in line for it? -/
def ChannelCall.usesLock : ChannelCall → Bool
  | .queued _ | .writing _ _ | .closing => true
  | .joining => false

/-- Does the listener at this stage hold the lock or stand in line for it? -/
def ListenerStage.usesLock : ListenerStage → Bool
  | .installing _ | .removing => true
  | _ => false

/-- Has the listener nothing to do with a connection? -/
def ListenerStage.isApart : ListenerStage → Bool
  | .dialling _ | .resting _ | .over => true
  | _ => false

namespace Outflow

/-- A call no longer uses the lock and is over. -/
def leave (t : Outflow) (call : CallId) : Outflow :=
  { t with lock := (t.lock.giveUp (.call call)).1, calls := t.calls.erase call }

/-- A call is at a stage. -/
def putCall (t : Outflow) (call : CallId) (stage : ChannelCall) : Outflow :=
  { t with calls := t.calls.put call stage }

/-- A call asks for the lock. -/
def queueUp (t : Outflow) (call : CallId) (stage : ChannelCall) : Outflow :=
  { t with lock := t.lock.request (.call call), calls := t.calls.put call stage }

/-- The listener no longer uses the lock and goes on. -/
def listenerLeaves (t : Outflow) (writer : Option LineId) (stage : ListenerStage) : Outflow :=
  { t with writer := writer, lock := (t.lock.giveUp .listener).1, listener := stage }

/-- The listener asks for the lock. -/
def listenerAsks (t : Outflow) (stage : ListenerStage) : Outflow :=
  { t with lock := t.lock.request .listener, listener := stage }

/-- Everything that can happen to the writing on a channel's connections. -/
inductive Move (t : Outflow) : Outflow → Prop
  | ask {call : CallId} {commands : List String} (hcall : t.calls.get? call = none)
      (hasked : t.asked.get? call = none) : Move t { t with asked := t.asked.put call commands }
  | queue {call : CallId} {commands : List String} {payload : Bytes}
      (hcall : t.calls.get? call = none) (hasked : t.asked.get? call = none)
      (hpayload : realtimePayload commands = .ok payload) :
      Move t ({ t with asked := t.asked.put call commands }.queueUp call (.queued payload))
  | enter {call : CallId} {payload : Bytes} {line : LineId} (deadline : Instant)
      (hcall : t.calls.get? call = some (.queued payload))
      (hheld : t.lock.holder = some (.call call)) (hwriter : t.writer = some line) :
      Move t ({ t with wires := t.wires.modify line (·.enter call) }.putCall call
        (.writing payload deadline))
  | take {call : CallId} {rest : Bytes} {deadline : Instant} {line : LineId} (n : Nat)
      (hcall : t.calls.get? call = some (.writing rest deadline)) (hwriter : t.writer = some line) :
      Move t ({ t with wires := t.wires.modify line (·.add (rest.take n)) }.putCall call
        (.writing (rest.drop n) deadline))
  | finish {call : CallId} {deadline : Instant}
      (hcall : t.calls.get? call = some (.writing [] deadline)) : Move t (t.leave call)
  /-- A call that does not write is over. -/
  | drop {call : CallId}
      (hcall : ∀ rest deadline, t.calls.get? call ≠ some (.writing rest deadline)) :
      Move t (t.leave call)
  | abandon {call : CallId} {rest : Bytes} {deadline : Instant} {line : LineId}
      (hcall : t.calls.get? call = some (.writing rest deadline)) (hwriter : t.writer = some line) :
      Move t ({ t with
        wires := t.wires.modify line
          (·.abandon call (rest == lineBytes (Outlet.commandsOf t.asked call))) }.leave call)
  /-- A write failed, and the writer is gone. -/
  | breakOff {call : CallId} {rest : Bytes} {deadline : Instant}
      (hcall : t.calls.get? call = some (.writing rest deadline)) :
      Move t ({ t with writer := none }.leave call)
  | beginClosing {call : CallId} (hcall : t.calls.get? call = none) :
      Move t (t.queueUp call .closing)
  | close {call : CallId} (hcall : t.calls.get? call = some .closing)
      (hheld : t.lock.holder = some (.call call)) :
      Move t { t with
        writer := none
        lock := (t.lock.giveUp (.call call)).1
        calls := t.calls.put call .joining }
  | joined {call : CallId} (hcall : t.calls.get? call = some .joining) :
      Move t { t with calls := t.calls.erase call }
  | connect {deadline : Instant} {line : LineId} (hlistener : t.listener = .dialling deadline)
      (hline : t.wires.get? line = none) :
      Move t { t with
        listener := .greeting line Channel.greetingBytes, wires := t.wires.put line {} }
  | greet {line : LineId} {rest : Bytes} (n : Nat) (hlistener : t.listener = .greeting line rest) :
      Move t { t with
        listener := .greeting line (rest.drop n)
        wires := t.wires.modify line (·.add (rest.take n)) }
  | greeted {line : LineId} (hlistener : t.listener = .greeting line []) :
      Move t (t.listenerAsks (.installing line))
  | install {line : LineId} (hlistener : t.listener = .installing line)
      (hheld : t.lock.holder = some .listener) :
      Move t (t.listenerLeaves (some line) (.reading line))
  | remove (hlistener : t.listener.usesLock = false) : Move t (t.listenerAsks .removing)
  | removed {stage : ListenerStage} (hlistener : t.listener = .removing)
      (hheld : t.lock.holder = some .listener) (hstage : stage.isApart = true) :
      Move t (t.listenerLeaves none stage)
  | rest {stage : ListenerStage} (hlistener : t.listener.isApart = true)
      (hstage : stage.isApart = true) : Move t { t with listener := stage }

/-- Any number of moves. -/
abbrev Moves : Outflow → Outflow → Prop := Relation.ReflTransGen Move

end Outflow

end BroadcastLink
