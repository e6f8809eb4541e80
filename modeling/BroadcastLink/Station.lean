import BroadcastLink.Channel.Listener
import BroadcastLink.Channel.Realtime
import BroadcastLink.Hub
import BroadcastLink.Pool.Borrow
import BroadcastLink.Pool.Drain
import BroadcastLink.Pool.Loan
import BroadcastLink.Pool.Upkeep
import BroadcastLink.Registry

/-!
# The station

A station is everything that runs: pools, channels, the hub they publish on, the registry, and the
calls in progress. Each call, each pool's upkeep and each channel's listener is a task; a task that
was woken waits in `ready` for its turn. What the station wants of the world outside stands in
`hangUps`, and what its callers get in `answers`.
-/

namespace BroadcastLink

/-- Something that runs by itself. -/
inductive Task where
  | call (call : CallId)
  | upkeep (pool : PoolId)
  | listener (channel : ChannelId)
  deriving DecidableEq, Repr

/-- A session in a caller's hands: lent by a pool, or connected without one. -/
inductive Held where
  | lent (pool : PoolId) (loan : CallId)
  | own (call : CallId)
  deriving DecidableEq, Repr

/-- How far the execution of commands has come. -/
inductive ExecuteStage where
  | borrowing
  /-- The session is there. -/
  | lent
  | exchanging
  deriving DecidableEq, Repr

/-- What a call is at. -/
inductive Activity where
  | borrowing (pool : PoolId)
  | executing (pool : PoolId) (commands : List String) (raw : Bool) (stage : ExecuteStage)
  | connecting (id : Nat) (host : String) (port : UInt16) (patience : Duration) (deadline : Instant)
  | talking (held : Held) (purpose : Purpose)
  | draining (pool : PoolId)
  /-- Writing on a channel; for the execution of commands the outcome does not matter. -/
  | writing (channel : ChannelId) (forExecution : Bool)
  | stopping (channel : ChannelId)
  | reconciling (job : Job) (stage : JobStage)
  deriving DecidableEq, Repr

/-- What a call gets. -/
inductive Answer where
  | nothing
  | fault (fault : Fault)
  | session (id : Nat)
  | response (text : String)
  | passed
  | sent (written : Bool)
  | executed (text : Option String)
  | launched
  | summary (summary : Summary)
  | cancelled
  deriving DecidableEq, Repr

/-- Everything that runs. -/
structure Station where
  now : Instant := 0
  pools : Roster PoolId Pool := {}
  channels : Roster ChannelId Channel := {}
  hub : Hub := {}
  registry : Registry := {}
  /-- Sessions connected without a pool, under the calls that connected them. -/
  own : Roster CallId Session := {}
  calls : Roster CallId Activity := {}
  ready : List Task := []
  hangUps : List LineId := []
  answers : List (CallId × Answer) := []
  deriving DecidableEq, Repr

namespace Station

/-- Have a task take its turn. -/
def wake (s : Station) (t : Task) : Station :=
  if t ∈ s.ready then s else { s with ready := s.ready ++ [t] }

/-- Have a connection hung up. -/
def hangUp (s : Station) (line : LineId) : Station := { s with hangUps := s.hangUps ++ [line] }

/-- Answer a call that is no longer in progress. -/
def answer (s : Station) (call : CallId) (a : Answer) : Station :=
  { s with answers := s.answers ++ [(call, a)] }

/-- A call is over. -/
def finish (s : Station) (call : CallId) (a : Answer) : Station :=
  { s with calls := s.calls.erase call }.answer call a

/-- Change what a call is at. -/
def putCall (s : Station) (call : CallId) (a : Activity) : Station :=
  { s with calls := s.calls.put call a }

/-- A call begins. -/
def startCall (s : Station) (call : CallId) (a : Activity) : Station :=
  (s.putCall call a).wake (.call call)

/-! ## What pools ask for -/

/-- A call got its session. -/
def lent (s : Station) (call : CallId) (id : Nat) : Station :=
  match s.calls.get? call with
  | some (.borrowing _) => s.finish call (.session id)
  | some (.executing pool commands raw _) => s.putCall call (.executing pool commands raw .lent)
  | _ => s

/-- The pool of a call is drained. -/
def drained (s : Station) (call : CallId) : Station :=
  match s.calls.get? call with
  | some (.draining _) => s.finish call .nothing
  | some (.reconciling job (.draining link)) => s.putCall call (.reconciling job (.drained link))
  | _ => s

/-- Do what a pool asks for, other pools apart. -/
def doOwnAct (id : PoolId) (s : Station) : PoolAct → Station
  | .hangUp line => s.hangUp line
  | .freeIn _ => s
  | .wake (.caller call) => s.wake (.call call)
  | .wake .drainer =>
    match (s.pools.get? id).bind (·.drain) with
    | some d => s.wake (.call d.call)
    | none => s
  | .wakeUpkeep => s.wake (.upkeep id)
  | .lent call session => s.lent call session
  | .refused call fault => s.finish call (.fault fault)
  | .drained call => s.drained call

/-- Put a pool back that has acted, and do what it asks for by the given rule. -/
def settlePool (s : Station) (id : PoolId) (p : Pool) (act : Station → PoolAct → Station) :
    Station :=
  p.acts.foldl act { s with pools := s.pools.put id { p with acts := [] } }

/-- Do what a pool asks for. A place that comes free in another pool is told to those who wait
there. -/
def doPoolAct (id : PoolId) (s : Station) : PoolAct → Station
  | .freeIn other =>
    match s.pools.get? other with
    | none => s
    | some p => s.settlePool other (p.freePlace true) (doOwnAct other)
  | act => doOwnAct id s act

/-- Let a pool act, and do what it asks for. -/
def onPool (s : Station) (id : PoolId) (f : Pool → Pool) : Station :=
  match s.pools.get? id with
  | none => s
  | some p => s.settlePool id (f p) (doPoolAct id)

/-! ## What channels ask for -/

/-- The batch of a call was written, or dropped. -/
def batchSent (s : Station) (call : CallId) (written : Bool) : Station :=
  match s.calls.get? call with
  | some (.writing _ true) => s.finish call (.executed none)
  | some (.writing _ false) => s.finish call (.sent written)
  | _ => s

/-- The channel of a call has stopped. -/
def channelStopped (s : Station) (call : CallId) : Station :=
  match s.calls.get? call with
  | some (.stopping _) => s.finish call .nothing
  | some (.reconciling job (.stopping link)) => s.putCall call (.reconciling job (.stopped link))
  | _ => s

/-- Do what a channel asks for. -/
def doChannelAct (id : ChannelId) (s : Station) : ChannelAct → Station
  | .hangUp line => s.hangUp line
  | .wake .listener => s.wake (.listener id)
  | .wake (.call call) => s.wake (.call call)
  | .publish publication => { s with hub := (s.hub.publish publication).1 }
  | .sent call written => s.batchSent call written
  | .stopped call => s.channelStopped call

/-- Let a channel act, and do what it asks for. Once its listener is over, those who wait for that
are woken. -/
def onChannel (s : Station) (id : ChannelId) (f : Channel → Channel) : Station :=
  match s.channels.get? id with
  | none => s
  | some c =>
    let c := f c
    let s := c.acts.foldl (doChannelAct id)
      { s with channels := s.channels.put id { c with acts := [] } }
    if c.isOver then c.joiners.foldl (fun s call => s.wake (.call call)) s else s

/-! ## Making pools and channels -/

/-- The number of the next pool. -/
def nextPool (s : Station) : PoolId := s.pools.size

/-- The number of the next channel. -/
def nextChannel (s : Station) : ChannelId := s.channels.size

/-- A new pool for a studio, and its upkeep begins. -/
def openPool (s : Station) (studio : Studio) (settings : PoolSettings) : Station :=
  let id := s.nextPool
  { s with pools := s.pools.put id (.forStudio id studio settings s.now) }.wake (.upkeep id)

/-- A new channel to a studio, and its listener begins. -/
def openChannel (s : Station) (studio : Studio) (settings : ChannelSettings) : Station :=
  let id := s.nextChannel
  { s with channels := s.channels.put id (.toStudio id studio settings s.now) }.wake (.listener id)

end Station

end BroadcastLink
