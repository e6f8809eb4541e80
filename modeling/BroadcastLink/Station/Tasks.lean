import BroadcastLink.Station.Reconcile
import BroadcastLink.Station.Sessions

/-!
# Running the tasks

What each task wants, how it goes on once it has that, and what happens when its time runs out. Of
two deadlines that have passed, the inner one counts first.
-/

namespace BroadcastLink

/-- What came of a want. -/
inductive Outcome where
  | stimulus (stimulus : Stimulus)
  | dialled (line : Except IoFault LineId)
  | launched (fault : Option Fault)

namespace Station

/-- What a task gets from a pool, if the pool is there. -/
def ofPool {α : Type} (s : Station) (id : PoolId) (f : Pool → α) (default : α) : α :=
  ((s.pools.get? id).map f).getD default

/-- What a task gets from a channel, if the channel is there. -/
def ofChannel {α : Type} (s : Station) (id : ChannelId) (f : Channel → α) (default : α) : α :=
  ((s.channels.get? id).map f).getD default

/-- What a call wants. -/
def callWant (s : Station) (call : CallId) : Want :=
  match s.calls.get? call with
  | none => .patience
  | some (.borrowing pool) | some (.executing pool _ _ .borrowing) =>
    s.ofPool pool (·.borrowWant call) .patience
  | some (.executing _ _ _ .lent) => .nothing
  | some (.executing pool _ _ .exchanging) =>
    s.ofPool pool (fun p => ((p.loans.get? call).map Session.want).getD .patience) .patience
  | some (.connecting _ host port _ _) => .dial host port
  | some (.talking held _) => ((s.held? held).map Session.want).getD .patience
  | some (.draining pool) => s.ofPool pool Pool.drainWant .patience
  | some (.writing channel _) | some (.stopping channel) =>
    s.ofChannel channel (·.callWant call) .patience
  | some (.reconciling _ stage) => s.jobWant call stage

/-- What a task wants. -/
def want (s : Station) : Task → Want
  | .call call => s.callWant call
  | .upkeep pool => s.ofPool pool (·.upkeepWant s.now) .patience
  | .listener channel => s.ofChannel channel Channel.listenerWant .patience

/-- A call that can go on by itself does so. -/
def resumeCall (s : Station) (call : CallId) : Station :=
  match s.calls.get? call with
  | some (.borrowing pool) | some (.executing pool _ _ .borrowing) =>
    s.onPool pool (·.resume call s.now)
  | some (.executing _ _ _ .lent) => s.beginExecution call
  | some (.draining pool) => s.onPool pool (·.resumeDrain s.now)
  | some (.writing channel _) | some (.stopping channel) =>
    s.onChannel channel (·.resumeCall call s.now)
  | some (.reconciling job stage) => s.resumeJob call job stage
  | _ => s

/-- A task that can go on by itself does so. -/
def resume (s : Station) : Task → Station
  | .call call => s.resumeCall call
  | .upkeep pool => s.onPool pool (·.tend s.now)
  | .listener channel => s.onChannel channel (·.resumeListener s.now)

/-- A call gets what it wanted. -/
def callHears (s : Station) (call : CallId) (outcome : Outcome) : Station :=
  match s.calls.get? call, outcome with
  | some (.borrowing pool), .stimulus stimulus
  | some (.executing pool _ _ .borrowing), .stimulus stimulus =>
    s.onPool pool (·.hearCheck call s.now stimulus)
  | some (.borrowing pool), .dialled line | some (.executing pool _ _ .borrowing), .dialled line =>
    s.onPool pool (·.dialled call s.now line)
  | some (.executing _ _ _ .exchanging), .stimulus stimulus => s.executionMoved call stimulus
  | some (.connecting _ _ _ _ _), .dialled line => s.connected call line
  | some (.talking _ _), .stimulus stimulus => s.talked call stimulus
  | some (.writing channel _), .stimulus stimulus => s.onChannel channel (·.hearWrite call stimulus)
  | some (.reconciling job (.launching studio)), .launched fault =>
    s.putJob call job (.launched studio fault)
  | _, _ => s

/-- A task gets what it wanted. -/
def hear (s : Station) (t : Task) (outcome : Outcome) : Station :=
  match t, outcome with
  | .call call, outcome => s.callHears call outcome
  | .upkeep pool, .dialled line => s.onPool pool (·.upkeepDialled s.now line)
  | .listener channel, .dialled line => s.onChannel channel (·.dialled s.now line)
  | .listener channel, .stimulus stimulus => s.onChannel channel (·.hearListener s.now stimulus)
  | _, _ => s

/-! ## Time -/

/-- When a call runs out of time, innermost first. -/
def callAlarms (s : Station) (call : CallId) : List Alarm :=
  match s.calls.get? call with
  | none => []
  | some (.borrowing pool) | some (.executing pool _ _ .borrowing) =>
    s.ofPool pool (·.borrowAlarms call) []
  | some (.executing _ _ _ .lent) => []
  | some (.executing pool _ _ .exchanging) =>
    s.ofPool pool (fun p => ((p.loans.get? call).bind Session.alarm?).toList) []
  | some (.connecting id _ _ _ deadline) => [⟨deadline, .connection id⟩]
  | some (.talking held _) => ((s.held? held).bind Session.alarm?).toList
  | some (.draining pool) | some (.reconciling _ (.draining ⟨_, pool, _, _, _⟩)) =>
    s.ofPool pool Pool.drainAlarms []
  | some (.writing channel _) => s.ofChannel channel (fun c => (c.callAlarm? call).toList) []
  | some (.stopping _) | some (.reconciling _ _) => []

/-- When a task runs out of time, innermost first. -/
def alarms (s : Station) : Task → List Alarm
  | .call call => s.callAlarms call
  | .upkeep pool => s.ofPool pool (·.upkeepAlarms s.now) []
  | .listener channel => s.ofChannel channel (fun c => c.listenerAlarm?.toList) []

/-- A caller's time ran out, at its stage or altogether. -/
def borrowOverdue (s : Station) (pool : PoolId) (call : CallId) : Station :=
  match s.ofPool pool (·.borrows.get? call) none with
  | some b =>
    if b.stage.alarm?.any (·.hasRung s.now) then s.onPool pool (·.stageExpired call s.now)
    else s.onPool pool (·.borrowExpired call s.now)
  | none => s

/-- A drain's nap is over, or its time. -/
def drainOverdue (s : Station) (pool : PoolId) : Station :=
  match s.ofPool pool (·.drain) none with
  | some d =>
    if d.nap ≤ s.now then s.onPool pool (·.resumeDrain s.now)
    else s.onPool pool (·.drainExpired s.now)
  | none => s

/-- A call's time ran out. -/
def callExpired (s : Station) (call : CallId) : Station :=
  match s.calls.get? call with
  | some (.borrowing pool) | some (.executing pool _ _ .borrowing) => s.borrowOverdue pool call
  | some (.executing _ _ _ .exchanging) => s.executionMoved call .expired
  | some (.connecting _ _ _ _ _) => s.connected call (.error (.bare .timedOut))
  | some (.talking _ _) => s.talked call .expired
  | some (.draining pool) | some (.reconciling _ (.draining ⟨_, pool, _, _, _⟩)) =>
    s.drainOverdue pool
  | some (.writing channel _) => s.onChannel channel (·.writeExpired call s.now)
  | _ => s

/-- A task's time ran out. -/
def expire (s : Station) : Task → Station
  | .call call => s.callExpired call
  | .upkeep pool => s.onPool pool (·.upkeepExpired s.now)
  | .listener channel => s.onChannel channel (·.listenerExpired s.now)

/-! ## Giving up -/

/-- A call is given up. -/
def cancel (s : Station) (call : CallId) : Station :=
  match s.calls.get? call with
  | none => s
  | some activity =>
    let s := match activity with
      | .borrowing pool | .executing pool _ _ .borrowing => s.onPool pool (·.cancelBorrow call)
      | .executing pool _ _ _ => s.onPool pool (·.loseLoan call)
      | .connecting _ _ _ _ _ => s
      | .talking held _ => s.changeHeld held Session.abandon
      | .draining pool => s.onPool pool (·.cancelDrain call)
      | .writing channel _ | .stopping channel => s.onChannel channel (·.cancelCall call)
      | .reconciling _ stage => s.cancelJob call stage
    s.finish call .cancelled

/-- The links that a job still holds. -/
def jobLinks : Job → JobStage → List Link
  | job, stage =>
    let atHand := match stage with
      | .draining link | .drained link | .stopping link | .stopped link => [link]
      | _ => []
    let planned := match job with
      | .configure w => w.current.values
      | .launch _ => []
      | .shutdown rest => rest.map (·.2)
    atHand ++ planned

/-- The pools that a call holds. -/
def poolsOf : Activity → List PoolId
  | .borrowing pool | .executing pool _ _ _ | .draining pool => [pool]
  | .reconciling job stage => (jobLinks job stage).map (·.pool)
  | _ => []

/-- Does anything hold on to the pool? -/
def isHeld (s : Station) (pool : PoolId) : Bool :=
  s.registry.links.values.any (·.pool == pool) || s.calls.values.any fun a => pool ∈ poolsOf a

/-- Pools that nothing holds on to any more, save those `kept` outside, let their idle sessions go
once their upkeep is over. -/
def letGoUnheld (s : Station) (kept : List PoolId) : Station :=
  s.pools.keys.foldl (fun s id =>
    if id ∈ kept || s.isHeld id then s
    else s.onPool id fun p => if p.upkeep.stage = .over then p.abandon else p) s

end Station

end BroadcastLink
