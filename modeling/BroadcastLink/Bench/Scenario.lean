import BroadcastLink.Bench.World
import BroadcastLink.Studio.Reader

/-!
# Scenarios

A scenario is a pool, a channel or a registry in its world, and a list of steps. After each step
everything runs that can, and a report tells what is seen.
-/

namespace BroadcastLink.Bench

/-- What a scenario is about. -/
inductive Subject where
  | pool
  | channel
  | registry
  deriving DecidableEq, Repr

/-- What is done in a step. Sessions, and calls to cancel, are named by labels. -/
inductive Action where
  | subscribe (topic : String)
  | unsubscribe (topic : String)
  | advance (span : Duration)
  | cancel (label : String)
  | server (address : String) (change : ServerChange)
  | serverSend (address : String) (pushes : Bool) (bytes : Bytes)
  | serverClose (address : String) (pushes : Bool)
  /-- Borrow from the pool, or from the pool of a studio. -/
  | acquire (studio : Option String)
  | connect (id : Nat) (host : String) (port : UInt16) (timeout patience : Duration)
  | send (session : String) (commands : List String)
  | check (session : String) (timeout : Duration)
  | invalidate (session : String)
  | state (session : String)
  | release (session : String)
  | destroy (session : String)
  | lose (session : String)
  | resize (min max : Nat)
  | clear
  | drain
  | realtime (commands : List String)
  | shutdown
  | plan (studio : String) (outcomes : List PlannedLaunch)
  /-- Configure from a document, with an entry's name changed, and perhaps wait until the processes
  that this starts have ended. -/
  | configure (document : String) (rename : Option (String × String)) (endsProcesses : Bool)
  | launch (studio : String)
  | execute (studio : String) (commands : Commands) (options : ExecuteOptions)
  | hold (studio : String)
  | held (link : String)
  | about
  deriving DecidableEq, Repr

/-- A step: its label and what is done. -/
structure Step where
  label : String
  action : Action
  deriving DecidableEq, Repr

/-- A link as it is seen. -/
structure LinkView where
  link : Link
  age : Duration
  isClosed : Bool
  poolStudio : String
  channelStudio : String
  pool : PoolStats
  channel : ChannelStats
  deriving DecidableEq, Repr

/-- What the subject tells about itself. -/
structure About where
  poolStudio : Option String := none
  channelStudio : Option String := none
  acquireTimeout : Option Duration := none
  maxWaiting : Option Nat := none
  reconnectDelay : Option Duration := none
  connected : Option Bool := none
  deriving DecidableEq, Repr

/-- What is seen of a call or of a step. -/
inductive Seen where
  | answer (answer : Answer)
  | inUse
  | noSession
  | noPool
  | connections (n : Nat)
  | state (state : SessionState)
  | found (isThere : Bool)
  | link (view : Option LinkView)
  | about (about : About)
  deriving DecidableEq, Repr

/-- A studio of the registry as it is seen. -/
structure StudioView where
  name : String
  state : Option StudioState
  link : Option LinkView
  deriving DecidableEq, Repr

/-- What is seen after a step. -/
structure Report where
  done : List (String × Seen)
  pending : List String
  network : List (String × Tally)
  events : List (String × List Receipt)
  pool : Option (PoolStats × Bool) := none
  channel : Option ChannelStats := none
  /-- The studios with a link, the launches planned, and every studio ever named. -/
  registry : Option (List String × List String × List StudioView) := none
  deriving DecidableEq, Repr

/-- A scenario going on. -/
structure Scenario where
  subject : Subject
  world : World
  /-- The labels of calls. -/
  labels : Roster CallId String := {}
  /-- Sessions in hand. -/
  sessions : Roster String Held := {}
  /-- Sessions whose label was given to another one. -/
  orphans : List Held := []
  /-- Every studio that a document named. -/
  named : List String := []
  /-- The number of the next call. -/
  next : CallId := 0
  done : List (String × Seen) := []

namespace Scenario

/-- Change the world. -/
def onWorld (s : Scenario) (f : World → World) : Scenario := { s with world := f s.world }

/-- Change the station. -/
def onStation (s : Scenario) (f : Station → Station) : Scenario := s.onWorld (·.onStation f)

/-- Note what is seen of a step. -/
def see (s : Scenario) (label : String) (seen : Seen) : Scenario :=
  { s with done := s.done ++ [(label, seen)] }

/-! ## Views -/

/-- A link as it is seen. -/
def viewLink (s : Scenario) (link : Link) : Option LinkView := do
  let pool ← s.world.station.pools.get? link.pool
  let channel ← s.world.station.channels.get? link.channel
  return {
    link := link
    age := ⟨s.world.now - link.createdAt⟩
    isClosed := pool.isClosed
    poolStudio := pool.studio
    channelStudio := channel.studio
    pool := pool.stats
    channel := channel.counters.stats }

/-- A studio as it is seen. -/
def viewStudio (s : Scenario) (name : String) : StudioView :=
  let r := s.world.station.registry
  ⟨name, r.states.get? name, (r.links.get? name).bind s.viewLink⟩

/-- What the subject tells about itself. -/
def tellAbout (s : Scenario) : About :=
  match s.subject with
  | .pool =>
    match s.world.station.pools.get? 0 with
    | some p =>
      { poolStudio := some p.studio, acquireTimeout := some p.settings.acquireTimeout
        maxWaiting := some p.settings.maxWaiting }
    | none => {}
  | .channel =>
    match s.world.station.channels.get? 0 with
    | some c => { channelStudio := some c.studio, connected := some c.counters.connected }
    | none => {}
  | .registry =>
    let r := s.world.station.registry.settings
    { acquireTimeout := some r.pool.acquireTimeout, maxWaiting := some r.pool.maxWaiting
      reconnectDelay := some r.channel.reconnectDelay }

/-! ## Sessions in hand -/

/-- The pool that the scenario is about. -/
def mainPool (s : Scenario) : Option PoolId :=
  match s.subject with
  | .pool => some 0
  | _ => none

/-- Is a call talking on the session? -/
def isTalking (s : Scenario) (held : Held) : Bool :=
  s.world.station.calls.values.any fun
    | .talking h _ => h == held
    | _ => false

/-- Do something with a session in hand, unless there is none or a call is using it. -/
def withSession (s : Scenario) (label session : String) (act : Scenario → Held → Scenario) :
    Scenario :=
  match s.sessions.get? session with
  | none => s.see label .noSession
  | some held => if s.isTalking held then s.see label .inUse else act s held

/-- Part with a session in hand. -/
def part (s : Scenario) (session : String) (act : Station → Station) : Scenario :=
  { s with sessions := s.sessions.erase session }.onStation act

/-- Take a session in hand. One held under the same label is an orphan. -/
def takeInHand (s : Scenario) (label : String) (held : Held) : Scenario :=
  { s with
    orphans := s.orphans ++ (s.sessions.get? label).toList
    sessions := s.sessions.put label held }

/-- Lose the orphans that no call is using. -/
def loseOrphans (s : Scenario) : Scenario :=
  let (used, unused) := s.orphans.partition s.isTalking
  unused.foldl (fun s held => s.onStation (·.lose held)) { s with orphans := used }

/-! ## Calls -/

/-- A call begins under a label. -/
def begin (s : Scenario) (label : String) (act : Station → CallId → Station) : Scenario :=
  let call := s.next
  { s with labels := s.labels.put call label, next := call + 1 }.onStation (act · call)

/-- The session that a call got. -/
def sessionOf (s : Scenario) (call : CallId) : Held :=
  match s.world.station.pools.entries.find? fun e => e.2.loans.has call with
  | some (pool, _) => .lent pool call
  | none => .own call

/-- Take note of the answers that have come. -/
def collect (s : Scenario) : Scenario :=
  let answers := s.world.station.answers
  let s := s.onStation fun st => { st with answers := [] }
  answers.foldl (fun s (call, a) =>
    let label := (s.labels.get? call).getD ""
    let s := match a with
      | .session _ => s.takeInHand label (s.sessionOf call)
      | _ => s
    s.see label (.answer a)) s

/-- Go on until nothing moves and no session is left that nobody has in hand. -/
def settle : Nat → Scenario → Scenario
  | 0, s => s
  | fuel + 1, s =>
    let s := (s.onWorld World.run).collect
    if s.orphans.all s.isTalking then s else settle fuel s.loseOrphans

/-- Let everything run that can. -/
def run (s : Scenario) : Scenario := settle World.manyTurns s

/-- Move the clock from timer to timer. -/
def ringUntil : Nat → Instant → Scenario → Scenario
  | 0, _, s => s
  | fuel + 1, target, s =>
    match s.world.nextTimer? target with
    | some time => ringUntil fuel target (s.onWorld (·.ring time)).run
    | none => s.onStation fun st => { st with now := target }

/-- Move the clock. -/
def advance (s : Scenario) (d : Duration) : Scenario :=
  ringUntil World.manyTurns (d.after s.world.now) s

/-- The calls under a label that are not over. -/
def callNamed? (s : Scenario) (label : String) : Option CallId :=
  s.world.station.calls.keys.find? fun call => s.labels.get? call == some label

/-! ## Steps -/

/-- Give an entry of a configuration another name. -/
def renameEntry (f : Fleet) : Option (String × String) → Fleet
  | some (key, name) =>
    match f.get? key with
    | some studio => f.insert key { studio with name := name }
    | none => f
  | none => f

/-- Configure from a document. -/
def configure (s : Scenario) (label document : String) (rename : Option (String × String)) :
    Scenario :=
  match Fleet.ofJson document with
  | .error fault => s.see label (.answer (.fault fault))
  | .ok f =>
    let s := { s with named := (s.named ++ f.keys).eraseDups }
    s.begin label fun st call => st.configure call (renameEntry f rename)

/-- Change the main pool. -/
def onPool (s : Scenario) (f : Pool → Instant → Pool) : Scenario :=
  s.onStation fun st => st.onPool 0 (f · st.now)

/-- Do what a step says. -/
def act (s : Scenario) (label : String) : Action → Scenario
  | .subscribe topic => s.onStation fun st => { st with hub := st.hub.subscribe topic topic }
  | .unsubscribe topic => s.onStation fun st => { st with hub := st.hub.unsubscribe topic }
  | .advance span => s.advance span
  | .cancel name =>
    match s.callNamed? name with
    | some call => s.onWorld (·.cancel call)
    | none => s
  | .server address change => s.onWorld fun w =>
    let old := (w.network.servers.get? address).getD {}
    { w with network.servers := w.network.servers.put address (old.change change) }
  | .serverSend address pushes bytes =>
    let (network, n) := s.world.network.onOpen address pushes (·.send bytes)
    (s.onWorld fun w => { w with network := network }).see label (.connections n)
  | .serverClose address pushes =>
    let (network, n) := s.world.network.onOpen address pushes fun w => { w with ended := true }
    (s.onWorld fun w => { w with network := network }).see label (.connections n)
  | .acquire studio =>
    let pool := match studio with
      | some name => (s.world.station.registry.links.get? name).map (·.pool)
      | none => s.mainPool
    match pool with
    | some pool => s.begin label fun st call => st.acquire call pool
    | none => s.see label .noPool
  | .connect id host port timeout patience =>
    s.begin label fun st call => st.connect call id host port timeout patience
  | .send session commands => s.withSession label session fun s held =>
    s.begin label fun st call => st.talk call held .commands (·.send commands)
  | .check session timeout => s.withSession label session fun s held =>
    s.begin label fun st call => st.talk call held .check (·.check timeout)
  | .invalidate session => s.withSession label session fun s held =>
    s.onStation (·.changeHeld held Session.invalidate)
  | .state session => s.withSession label session fun s held =>
    match s.world.station.held? held with
    | some found => s.see label (.state found.state)
    | none => s
  | .release session => s.withSession label session fun s held =>
    (s.part session (·.release held s.mainPool)).see label (.answer .nothing)
  | .destroy session => s.withSession label session fun s held =>
    (s.part session (·.destroy held s.mainPool)).see label (.answer .nothing)
  | .lose session => s.withSession label session fun s held => s.part session (·.lose held)
  | .resize min max =>
    (s.onPool fun p now => p.resize min max now).see label (.answer .nothing)
  | .clear => (s.onPool fun p _ => p.clear).see label (.answer .nothing)
  | .drain => s.begin label fun st call => st.drainPool call 0
  | .realtime commands => s.begin label fun st call => st.realtime call 0 commands false
  | .shutdown =>
    match s.subject with
    | .registry => s.begin label fun st call => st.shutdown call
    | _ => s.begin label fun st call => st.stopChannel call 0
  | .plan studio outcomes => s.onWorld fun w => { w with plans := w.plans.put studio outcomes }
  | .configure document rename _ => s.configure label document rename
  | .launch studio => s.begin label fun st call => st.launch call studio
  | .execute studio commands options =>
    s.begin label fun st call => st.execute call studio commands options
  | .hold studio =>
    match s.world.station.registry.links.get? studio with
    | some link =>
      (s.onWorld fun w => { w with kept := w.kept.put label link }).see label (.found true)
    | none => s.see label (.found false)
  | .held link => s.see label (.link ((s.world.kept.get? link).bind s.viewLink))
  | .about => s.see label (.about s.tellAbout)

/-! ## Reports -/

/-- Read everything there is in a subscription. -/
def drainSubscription : Nat → Hub → String → Hub × List Receipt
  | 0, h, _ => (h, [])
  | fuel + 1, h, name =>
    match h.receive name with
    | (h, some (.message p)) =>
      let (h, rest) := drainSubscription fuel h name
      (h, .message p :: rest)
    | (h, some (.lagged n)) =>
      let (h, rest) := drainSubscription fuel h name
      (h, .lagged n :: rest)
    | (h, _) => (h, [])

/-- Read everything there is in all subscriptions. -/
def drainAll (h : Hub) : Hub × List (String × List Receipt) :=
  h.subscriptions.keys.foldl (fun (r : Hub × List (String × List Receipt)) name =>
    let room := r.1.topics.values.foldl (fun n t => n + t.room) 0
    let (h, found) := drainSubscription (room + 2) r.1 name
    (h, if found.isEmpty then r.2 else r.2 ++ [(name, found)])) (h, [])

/-- The labels of the calls in progress, in order. -/
def pending (s : Scenario) : List String :=
  (s.world.station.calls.keys.map fun call => (s.labels.get? call).getD "").mergeSort
    fun a b => decide (a ≤ b)

/-- What is seen, and nothing of it is new any more. -/
def report (s : Scenario) : Scenario × Report :=
  let st := s.world.station
  let (hub, events) := drainAll st.hub
  let (network, tallies) := s.world.network.report
  let seen : Report := {
    done := s.done
    pending := s.pending
    network := tallies
    events := events
    pool := if s.subject = .pool then (st.pools.get? 0).map fun p => (p.stats, p.isClosed) else none
    channel := if s.subject = .channel then (st.channels.get? 0).map (·.counters.stats) else none
    registry := if s.subject = .registry then
        some (st.registry.studios, s.world.launched, s.named.map s.viewStudio)
      else none }
  let world :=
    { s.world with network := network, launched := [], station := { st with hub := hub } }
  ({ s with done := [], world := world }, seen)

/-- Do a step and let everything run that can. -/
def step (s : Scenario) (st : Step) : Scenario :=
  let s := (s.act st.label st.action).run
  match st.action with
  | .configure _ _ true => s.onWorld World.endProcesses
  | _ => s

/-- All steps, with a report for each. -/
def runSteps (s : Scenario) : List Step → List Report
  | [] => []
  | st :: rest =>
    let (s, seen) := (s.step st).report
    seen :: s.runSteps rest

/-- A report of the start, and one for each step. -/
def runAll (s : Scenario) (steps : List Step) : List Report :=
  let (s, seen) := s.run.report
  seen :: s.runSteps steps

end Scenario

/-- How a scenario starts. -/
structure Setting where
  servers : List (String × ServerChange) := []
  subscriptions : List String := []
  hub : HubSettings := {}

/-- The world of a setting, with the given registry settings and launcher. -/
def Setting.world (g : Setting) (settings : RegistrySettings) (launcher : Launcher) : World :=
  let servers := g.servers.map fun e => (e.1, ({} : Server).change e.2)
  let hub := g.subscriptions.foldl (fun h t => h.subscribe t t) { settings := g.hub }
  { station := { hub := hub, registry := { settings := settings } }
    network := { servers := .ofList servers }, launcher := launcher }

/-- What a pool for a studio shows. -/
def runPool (g : Setting) (studio : Studio) (settings : PoolSettings) (steps : List Step) :
    List Report :=
  let w := { g.world {} .planned with keptPools := [0] }.onStation (·.openPool studio settings)
  Scenario.runAll { subject := .pool, world := w } steps

/-- What a channel to a studio shows. -/
def runChannel (g : Setting) (studio : Studio) (settings : ChannelSettings) (steps : List Step) :
    List Report :=
  let w := (g.world {} .planned).onStation (·.openChannel studio settings)
  Scenario.runAll { subject := .channel, world := w } steps

/-- What a registry shows. -/
def runRegistry (g : Setting) (settings : RegistrySettings) (isShell : Bool) (steps : List Step) :
    List Report :=
  let launcher := if isShell then .shell settings.launchTimeout Launch.defaultInterval else .planned
  Scenario.runAll { subject := .registry, world := g.world settings launcher } steps

end BroadcastLink.Bench
