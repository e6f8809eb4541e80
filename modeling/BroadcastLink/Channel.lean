import BroadcastLink.Channel.Counters
import BroadcastLink.Command
import BroadcastLink.Event.Stream
import BroadcastLink.Ident
import BroadcastLink.Roster
import BroadcastLink.Settings
import BroadcastLink.Studio
import BroadcastLink.Sync.Lock

/-!
# The notify channel of a studio

A channel keeps one connection on which the studio pushes its events. Its listener connects, asks
for events and meters, publishes what arrives, and connects again a while after the connection was
lost. Commands that need no response are written on the same connection. Whoever writes holds the
writer's lock, and so does the listener when it puts the writer there or takes it away.

Like a pool, a channel is a machine that leaves in `acts` what it wants done.
-/

namespace BroadcastLink

/-- Who may hold the writer's lock. -/
inductive WriterUser where
  | listener
  | call (call : CallId)
  deriving DecidableEq, Repr

/-- What the listener is at. -/
inductive ListenerStage where
  | dialling (deadline : Instant)
  /-- Connected; these bytes still have to be written. -/
  | greeting (line : LineId) (rest : Bytes)
  /-- Waiting for the lock to put the writer there. -/
  | installing (line : LineId)
  | reading (line : LineId)
  /-- Waiting for the lock to take the writer away. -/
  | removing
  | resting (wakeAt : Instant)
  | over
  deriving DecidableEq, Repr

/-- What a call on the channel is at. -/
inductive ChannelCall where
  /-- Waiting for the lock to write. -/
  | queued (payload : Bytes)
  | writing (rest : Bytes) (deadline : Instant)
  /-- Shutting down: waiting for the lock to take the writer away. -/
  | closing
  /-- Shutting down: waiting for the listener to end. -/
  | joining
  deriving DecidableEq, Repr

/-- What a channel wants done. -/
inductive ChannelAct where
  | hangUp (line : LineId)
  | wake (user : WriterUser)
  | publish (publication : Publication)
  | sent (call : CallId) (written : Bool)
  | stopped (call : CallId)
  deriving DecidableEq, Repr

/-- A notify channel. -/
structure Channel where
  id : ChannelId
  studio : String
  host : String
  port : UInt16
  settings : ChannelSettings
  /-- The connection that commands are written on. -/
  writer : Option LineId := none
  /-- The writer was given up after a failed write. -/
  isBroken : Bool := false
  lock : Lock WriterUser := {}
  counters : Counters := {}
  isCancelled : Bool := false
  framer : Framer := {}
  listener : ListenerStage
  calls : Roster CallId ChannelCall := {}
  acts : List ChannelAct := []
  deriving DecidableEq, Repr

namespace Channel

/-- A channel to a studio, about to connect. -/
def toStudio (id : ChannelId) (s : Studio) (settings : ChannelSettings) (now : Instant) : Channel :=
  { id := id, studio := s.name, host := s.host, port := s.port, settings := settings
    listener := .dialling (settings.connectTimeout.after now) }

/-- Ask for something to be done. -/
def ask (c : Channel) (act : ChannelAct) : Channel := { c with acts := c.acts ++ [act] }

/-- Change what the listener is at. -/
def putListener (c : Channel) (stage : ListenerStage) : Channel := { c with listener := stage }

/-- Change what a call is at. -/
def putCall (c : Channel) (call : CallId) (stage : ChannelCall) : Channel :=
  { c with calls := c.calls.put call stage }

/-- A call is over. -/
def endCall (c : Channel) (call : CallId) : Channel := { c with calls := c.calls.erase call }

/-- Ask for the lock. -/
def request (c : Channel) (user : WriterUser) : Channel :=
  { c with lock := c.lock.request user }

/-- Give the lock back, or no longer want it. -/
def giveUp (c : Channel) (user : WriterUser) : Channel :=
  let (lock, next) := c.lock.giveUp user
  { c with lock := lock, acts := c.acts ++ next.toList.map .wake }

/-- Take the writer away, which hangs up its side of the connection. -/
def takeWriter (c : Channel) : Channel :=
  match c.writer with
  | some line => { c with writer := none }.ask (.hangUp line)
  | none => c

/-- The bytes that ask for events and meters. -/
def greetingBytes : Bytes := lineBytes [notifyWord, meterWord]

end Channel

end BroadcastLink
