import BroadcastLink.Roster
import BroadcastLink.Session
import BroadcastLink.Settings
import BroadcastLink.Studio
import BroadcastLink.Sync.Signal

/-!
# The command pool of a studio

A pool lends out sessions and takes them back. Every session, open or still connecting, takes up one
of the pool's places; there are as many places as the maximum allows. A caller takes an idle session
after checking that it is alive, or a free place to connect on; failing both it waits for the signal
that a session or a place came free. A pool that shrinks forgets free places at once and retires the
others as they come free.

The pool is a machine. Its operations are given the time and what connections did, and leave behind
in `acts` what they want done: connections to hang up, callers to wake, calls to answer.
-/

namespace BroadcastLink

/-- Who may wait for a pool's signal. -/
inductive Waiter where
  | caller (call : CallId)
  | drainer
  deriving DecidableEq, Repr

/-- How far a caller has come. -/
inductive BorrowStage where
  /-- An idle session was taken and is being checked. -/
  | checking (session : Session)
  /-- A place was taken; connecting has to pause after a failure. -/
  | resting (wakeAt : Instant)
  /-- A place was taken, and a session of this number is being connected. -/
  | dialling (id : Nat) (deadline : Instant)
  /-- Waiting for the signal. -/
  | parked
  deriving DecidableEq, Repr

/-- When a caller's stage runs out of time. -/
def BorrowStage.alarm? : BorrowStage → Option Alarm
  | .checking s => s.alarm?
  | .resting wakeAt => some ⟨wakeAt, .pause⟩
  | .dialling id deadline => some ⟨deadline, .connection id⟩
  | .parked => none

/-- A caller who wants a session, until the deadline. Once it has waited for the signal it counts as
waiting. -/
structure Borrow where
  stage : BorrowStage
  deadline : Instant
  counts : Bool
  deriving DecidableEq, Repr

/-- What the pool's upkeep is at. -/
inductive UpkeepStage where
  | waiting
  /-- Looking through the idle sessions. -/
  | sifting
  /-- A place was taken, and a session of this number is being connected ahead of need. -/
  | dialling (id : Nat) (deadline : Instant)
  | over
  deriving DecidableEq, Repr

/-- The upkeep of a pool: when it is due next, whether its alarm for that is set, whether it was
asked for while it was waiting, and whether it was asked for once more, which makes another
round. -/
structure Upkeep where
  stage : UpkeepStage := .waiting
  due : Instant
  isSet : Bool := true
  asked : Bool := false
  askedAgain : Bool := false
  deriving DecidableEq, Repr

namespace Upkeep

/-- Ask for upkeep. -/
def ask (u : Upkeep) : Upkeep :=
  if u.stage = .waiting && !u.asked then { u with asked := true } else { u with askedAgain := true }

/-- Begin a round that was asked for. -/
def meet (u : Upkeep) : Upkeep := { u with stage := .sifting, asked := false }

/-- Begin a round that is due anyway, until the next is due; a request is left for one more round.
The alarm for the next round is not set before this one is over. -/
def begin (u : Upkeep) (due : Instant) : Upkeep :=
  { stage := .sifting, due := due, isSet := false, askedAgain := u.asked || u.askedAgain }

/-- Wait for what comes next; a request that is left makes the next round at once. -/
def rest (u : Upkeep) : Upkeep :=
  { u with stage := .waiting, isSet := true, asked := u.askedAgain, askedAgain := false }

end Upkeep

/-- A drain in progress: whose call it is, how long it waits for lent sessions, when it looks next,
and how often it has looked. -/
structure Drain where
  call : CallId
  deadline : Instant
  nap : Instant
  looks : Nat := 0
  deriving DecidableEq, Repr

/-- What a pool wants done. -/
inductive PoolAct where
  | hangUp (line : LineId)
  /-- The place that an open session takes up in another pool came free. -/
  | freeIn (pool : PoolId)
  | wake (waiter : Waiter)
  | wakeUpkeep
  | lent (call : CallId) (session : Nat)
  | refused (call : CallId) (fault : Fault)
  | drained (call : CallId)
  deriving DecidableEq, Repr

/-- A command pool. -/
structure Pool where
  id : PoolId
  studio : String
  host : String
  port : UInt16
  settings : PoolSettings
  min : Nat
  max : Nat
  /-- Sessions ready to be lent, the one idle longest first. -/
  idle : List Session := []
  /-- Free places. -/
  places : Nat
  /-- Places to give up as they come free. -/
  owed : Nat := 0
  /-- Open sessions. -/
  live : Nat := 0
  nextId : Nat := 1
  isClosed : Bool := false
  /-- Drained to the end: places are given out no more. -/
  isFinished : Bool := false
  lastFailure : Option Instant := none
  created : Nat := 0
  destroyed : Nat := 0
  connectFailures : Nat := 0
  available : Signal Waiter := {}
  borrows : Roster CallId Borrow := {}
  /-- Sessions lent, under the calls that borrowed them. -/
  loans : Roster CallId Session := {}
  upkeep : Upkeep
  drain : Option Drain := none
  acts : List PoolAct := []
  deriving DecidableEq, Repr

/-- A pool at one moment. -/
structure PoolStats where
  size : Nat
  idle : Nat
  borrowed : Nat
  waiting : Nat
  min : Nat
  max : Nat
  created : Nat
  destroyed : Nat
  connectFailures : Nat
  deriving DecidableEq, Repr

namespace Pool

/-- A pool for a studio. Its maximum is at least one, and its minimum at most its maximum. -/
def forStudio (id : PoolId) (s : Studio) (settings : PoolSettings) (now : Instant) : Pool :=
  let max := Nat.max s.maxPool.toNat 1
  { id := id, studio := s.name, host := s.host, port := s.port, settings := settings
    min := Nat.min s.minPool.toNat max, max := max, places := max
    upkeep :=
      { due := now, stage := if settings.evictionInterval.nanos = 0 then .over else .waiting } }

/-- How many callers count as waiting. -/
def waiting (p : Pool) : Nat := p.borrows.values.countP (·.counts)

/-- The pool as it stands. -/
def stats (p : Pool) : PoolStats where
  size := p.live
  idle := p.idle.length
  borrowed := p.live - p.idle.length
  waiting := p.waiting
  min := p.min
  max := p.max
  created := p.created
  destroyed := p.destroyed
  connectFailures := p.connectFailures

/-! ## The signal and the places -/

/-- Ask for something to be done. -/
def ask (p : Pool) (act : PoolAct) : Pool := { p with acts := p.acts ++ [act] }

/-- Wake whoever was told. -/
def wakeAll (p : Pool) (told : List Waiter) : Pool := { p with acts := p.acts ++ told.map .wake }

/-- Signal to one that a session or a place came free. -/
def tellOne (p : Pool) : Pool :=
  let (available, told) := p.available.tellOne
  { p with available := available }.wakeAll told.toList

/-- Signal to all that things have changed. -/
def tellAll (p : Pool) : Pool :=
  let (available, told) := p.available.tellAll
  { p with available := available }.wakeAll told

/-- Get in line for the signal. -/
def enter (p : Pool) (w : Waiter) : Pool := { p with available := p.available.enter w }

/-- Get out of line, passing on what was told. -/
def leave (p : Pool) (w : Waiter) : Pool :=
  let (available, told) := p.available.leave w
  { p with available := available }.wakeAll told.toList

/-- Free a place, that of an open session or one not yet open: it is given up if one is owed, and
one waiter is told in either case. -/
def freePlace (p : Pool) (isOpen : Bool) : Pool :=
  let p := if isOpen then { p with live := p.live - 1 } else p
  let p := if 0 < p.owed then { p with owed := p.owed - 1 } else { p with places := p.places + 1 }
  p.tellOne

/-- Is there a place to connect on? -/
def hasPlace (p : Pool) : Bool := 0 < p.places && !p.isFinished

/-- Until when connecting has to pause after the last failure. -/
def restUntil? (p : Pool) (now : Instant) : Option Instant :=
  match p.lastFailure with
  | some failed =>
    let wakeAt := p.settings.createRetryDelay.after failed
    if now < wakeAt then some wakeAt else none
  | none => none

/-- Give the next session number away. -/
def takeId (p : Pool) : Pool := { p with nextId := p.nextId + 1 }

/-- A session of the pool on a new connection. -/
def openedSession (p : Pool) (id : Nat) (line : LineId) (now : Instant) : Session :=
  { Session.opened id line p.settings.responseTimeout now with pool := some p.id }

/-- Note that a session was opened. -/
def noteOpened (p : Pool) : Pool :=
  { p with live := p.live + 1, created := p.created + 1, lastFailure := none }

/-- Note that connecting failed. -/
def noteFailure (p : Pool) (now : Instant) : Pool :=
  { p with connectFailures := p.connectFailures + 1, lastFailure := some now }

/-! ## Ending sessions -/

/-- Ask for upkeep. -/
def askUpkeep (p : Pool) : Pool :=
  { p with upkeep := p.upkeep.ask }.ask .wakeUpkeep

/-- Let a session go: its connection is hung up and its place comes free, in whichever pool that
is. -/
def discard (p : Pool) (s : Session) : Pool :=
  let p := p.ask (.hangUp s.line)
  match s.pool with
  | none => p
  | some id => if id = p.id then p.freePlace true else p.ask (.freeIn id)

/-- Close a session for good, and have it replaced if need be. -/
def destroy (p : Pool) (s : Session) : Pool :=
  let p := p.discard s
  let p := { p with destroyed := p.destroyed + 1 }
  if p.isClosed then p else p.askUpkeep

/-- Close every idle session. -/
def clear (p : Pool) : Pool :=
  p.idle.foldl (fun p s => { p with destroyed := p.destroyed + 1 }.discard s) { p with idle := [] }

end Pool

end BroadcastLink
