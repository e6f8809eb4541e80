import BroadcastLink.Bench.Network
import BroadcastLink.Bench.Shell

/-!
# A world for a station

A station, a network, a clock that moves only when told to, and launchers. Tasks that were woken
take their turns first come first served, each going on until it has to wait; when none is left the
network moves, and so on until nothing moves any more. Timers ring in the order of their times,
those of one time together, the one set first waking its task first.
-/

namespace BroadcastLink.Bench

/-- What a planned launch comes to: how long it takes, and why it fails, if it does. -/
structure PlannedLaunch where
  after : Duration := ⟨0⟩
  reason : Option String := none
  deriving DecidableEq, Repr

/-- How studios are launched: as planned, or by a shell. -/
inductive Launcher where
  | planned
  | shell (timeout interval : Duration)
  deriving DecidableEq, Repr

/-- A launch going on. -/
inductive Launching where
  | planned (doneAt : Instant) (fault : Option Fault)
  /-- A process was started, and may have ended. -/
  | process (launch : Launch) (ended : Option ExitStatus)
  deriving DecidableEq, Repr

/-- A station in its world. -/
structure World where
  station : Station
  network : Network := {}
  /-- Whom to wake when, oldest first. -/
  timers : List (Alarm × Task) := []
  launcher : Launcher := .planned
  plans : Roster String (List PlannedLaunch) := {}
  launches : Roster CallId Launching := {}
  /-- The studios whose launch was planned, in the order of their launches. -/
  launched : List String := []
  /-- Links that somebody keeps. -/
  kept : Roster String Link := {}
  /-- Pools that somebody keeps. -/
  keptPools : List PoolId := []

namespace World

/-- The time. -/
def now (w : World) : Instant := w.station.now

/-- Change the station. -/
def onStation (w : World) (f : Station → Station) : World := { w with station := f w.station }

/-- A task gets what it wanted. -/
def hear (w : World) (t : Task) (outcome : Outcome) : World := w.onStation (·.hear t outcome)

/-- Wake tasks. -/
def wakeAll (w : World) (ts : List Task) : World := ts.foldl (fun w t => w.onStation (·.wake t)) w

/-- Hang up what the station no longer needs. -/
def hangUpAll (w : World) : World :=
  { w with
    network := w.station.hangUps.foldl Network.hangUp w.network
    station := { w.station with hangUps := [] } }

/-! ## Connecting and launching -/

/-- A task wants a connection: it begins to connect, or learns what came of it. -/
def dial (w : World) (t : Task) (host : String) (port : UInt16)
    (found : World → Except IoFault LineId → World) : Option World :=
  match w.network.attempt? t with
  | none =>
    some { w with network := w.network.dial t (addressText host port) }
  | some ⟨_, some outcome, true⟩ =>
    some (found { w with network := w.network.endAttempt t } outcome)
  | some _ => none

/-- A launch is over. -/
def endLaunch (w : World) (call : CallId) (fault : Option Fault) : World :=
  { w with launches := w.launches.erase call }.hear (.call call) (.launched fault)

/-- Note how a launch stands, or that it failed. -/
def putLaunch (w : World) (call : CallId) (ended : Option ExitStatus) :
    Except Fault Launch → World
  | .ok l => { w with launches := w.launches.put call (.process l ended) }
  | .error fault => w.endLaunch call (some fault)

/-- The next planned outcome of a studio's launch. Without a plan it succeeds at once. -/
def takePlan (w : World) (studio : Studio) : World × PlannedLaunch :=
  match w.plans.get? studio.name with
  | some (p :: rest) => ({ w with plans := w.plans.put studio.name rest }, p)
  | _ => (w, {})

/-- Begin a launch. -/
def beginLaunch (w : World) (call : CallId) (studio : Studio) : World :=
  match w.launcher with
  | .planned =>
    let (w, p) := w.takePlan studio
    { w with
      launched := w.launched ++ [studio.name]
      launches := w.launches.put call
        (.planned (p.after.after w.now) (p.reason.map (.launch studio.name))) }
  | .shell timeout interval => w.putLaunch call none (Launch.start studio timeout interval w.now)

/-- A knock at a studio's port was answered or not. -/
def knocked (call : CallId) (l : Launch) (ended : Option ExitStatus) (w : World) :
    Except IoFault LineId → World
  | .ok line => { w with network := w.network.hangUp line }.endLaunch call none
  | .error _ => w.putLaunch call ended (l.refused w.now ended)

/-- A launch goes on, if it can. -/
def moveLaunch (w : World) (call : CallId) (studio : Studio) : Option World :=
  match w.launches.get? call with
  | none => some (w.beginLaunch call studio)
  | some (.planned doneAt fault) => if doneAt ≤ w.now then some (w.endLaunch call fault) else none
  | some (.process l ended) =>
    match l.want with
    | .dial host port => w.dial (.call call) host port (knocked call l ended)
    | _ => none

/-- When a task's launch runs out of time. -/
def launchAlarms (w : World) : Task → List Alarm
  | .call call =>
    match w.launches.get? call with
    | some (.planned doneAt _) => [⟨doneAt, .launch⟩]
    | some (.process l _) => l.alarms
    | none => []
  | _ => []

/-- The processes that were started end. -/
def endProcesses (w : World) : World :=
  { w with launches := w.launches.mapEntries fun
    | _, .process l none => .process l (l.studio.launchCommand.map Shell.exitStatus)
    | _, launching => launching }

/-! ## Taking turns -/

/-- When a task runs out of time. -/
def alarms (w : World) (t : Task) : List Alarm := w.station.alarms t ++ w.launchAlarms t

/-- An alarm of the task has rung. A connection it was waiting for is given up. -/
def expire (w : World) (t : Task) : World :=
  let w := { w with network := w.network.dropAttempt t }
  match t with
  | .call call =>
    match w.launches.get? call with
    | some (.process l ended) => w.putLaunch call ended (l.expired w.now)
    | _ => w.onStation (·.expire t)
  | _ => w.onStation (·.expire t)

/-- Let a task have what it wants, if the world has it. -/
def serve (w : World) (t : Task) : Option World :=
  match w.station.want t with
  | .nothing =>
    some ({ w with network := w.network.dropAttempt t }.onStation (·.resume t))
  | .write line bytes =>
    (w.network.write line bytes).map fun (network, taken) =>
      { w with network := network }.hear t (.stimulus (.accepted taken))
  | .flush _ => some (w.hear t (.stimulus .flushed))
  | .read line limit =>
    (w.network.read line limit).map fun (network, stimulus) =>
      { w with network := network }.hear t (.stimulus stimulus)
  | .dial host port => w.dial t host port fun w outcome => w.hear t (.dialled outcome)
  | .launch studio =>
    match t with
    | .call call => w.moveLaunch call studio
    | _ => none
  | .patience => none

/-- One move of a task: what it wants, or the end of its time. -/
def move (w : World) (t : Task) : Option World :=
  match w.serve t with
  | some w => some w
  | none => if (w.alarms t).any (·.hasRung w.now) then some (w.expire t) else none

/-- Set the timers of a task that has to wait. Those already set keep their place. -/
def setTimers (w : World) (t : Task) : World :=
  let alarms := w.alarms t
  let timers := w.timers.filter fun e => e.2 ≠ t || e.1 ∈ alarms
  let fresh := alarms.filter fun a => (a, t) ∉ timers
  { w with timers := timers ++ fresh.map fun a => (a, t) }

/-- A task takes its turn. -/
def turn : Nat → World → Task → World
  | 0, w, _ => w
  | fuel + 1, w, t =>
    match w.move t with
    | some w => turn fuel w t
    | none => w.setTimers t

/-- Every task there is. -/
def tasks (w : World) : List Task :=
  w.station.calls.keys.map .call ++ w.station.pools.keys.map .upkeep
    ++ w.station.channels.keys.map .listener

/-- The tasks that a connection has news or room for, by connection, readers first. -/
def concerned (w : World) : List Task :=
  let wants := w.tasks.map fun t => (t, w.station.want t)
  let readers := wants.filterMap fun
    | (t, .read line _) => if w.network.hasNews line then some (line, t) else none
    | _ => none
  let writers := wants.filterMap fun
    | (t, .write line _) => if w.network.hasRoom line then some (line, t) else none
    | _ => none
  let sorted (ts : List (LineId × Task)) : List Task :=
    (ts.mergeSort fun a b => decide (a.1 ≤ b.1)).map (·.2)
  sorted readers ++ sorted writers

/-- The pools that somebody outside the station keeps. Whoever has a session in hand keeps its pool,
to give it back there. -/
def poolsKept (w : World) : List PoolId :=
  w.keptPools ++ w.kept.values.map (·.pool)
    ++ (w.station.pools.entries.filter fun e => !e.2.loans.isEmpty).map (·.1)

/-- Go on until nothing moves. -/
def settle : Nat → World → World
  | 0, w => w
  | fuel + 1, w =>
    match w.station.ready with
    | t :: rest =>
      let w := w.onStation fun s => { s with ready := rest }
      settle fuel (w.turn fuel t).hangUpAll
    | [] =>
      let w := (w.onStation (·.letGoUnheld w.poolsKept)).hangUpAll
      let (network, settled, moved) := w.network.pulse
      let w := { w with network := network }.wakeAll settled
      let w := w.wakeAll w.concerned
      if w.station.ready.isEmpty && !moved then w else settle fuel w

/-- More turns than anything here takes. -/
def manyTurns : Nat := 1000000000

/-- Let everything run that can. -/
def run (w : World) : World := settle manyTurns w.hangUpAll

/-! ## Time -/

/-- The time of the earliest timer, if it is due by the given time. -/
def nextTimer? (w : World) (target : Instant) : Option Instant :=
  w.timers.foldl (fun best e =>
    if e.1.due ≤ target && best.all (e.1.due < ·) then some e.1.due else best) none

/-- Move the clock to the time of a timer, and wake whom that wakes. -/
def ring (w : World) (time : Instant) : World :=
  let due := w.timers.filter (·.1.hasRung time)
  let w := { w with timers := w.timers.filter (!·.1.hasRung time) }
  (w.onStation fun s => { s with now := max s.now time }).wakeAll (due.map (·.2))

/-- A call is given up. -/
def cancel (w : World) (call : CallId) : World :=
  { w with
    network := w.network.dropAttempt (.call call)
    launches := w.launches.erase call }.onStation (·.cancel call)

end World

end BroadcastLink.Bench
