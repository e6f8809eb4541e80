import BroadcastLink.Proofs.Station.Housing
import BroadcastLink.Proofs.Station.Links

/-!
# What closes no pool

Sessions are borrowed, talked on and given back, channels listen and write, and calls come and go;
none of it closes a pool any further. What a caller does with a session in hand is something that
its pool knows of, and a session connected without a pool takes up no place in the one it is given
to.
-/

namespace BroadcastLink.Station

variable {s s' : Station} {call : CallId} {id : PoolId} {held : Held} {session session' : Session}
  {activity : Activity}

/-! ## Sessions in hand -/

theorem guest_of_held (h : s.Housed) (hheld : s.held? (.own call) = some session) :
    session.pool = none :=
  h.guests call session hheld

theorem calm_putOwn (h : s.Housed) (call : CallId) (hguest : session.pool = none) :
    Calm s { s with own := s.own.put call session } := by
  refine ⟨⟨h.pools, h.fresh, ?_, h.drains, h.undrained⟩, fun _ => rfl, fun _ hnone => hnone⟩
  intro other found hfound
  replace hfound : (s.own.put call session).get? other = some found := hfound
  rw [Roster.get?_put] at hfound
  split at hfound
  · obtain rfl := Option.some.inj hfound
    exact hguest
  · exact h.guests other found hfound

theorem calm_eraseOwn (h : s.Housed) (call : CallId) :
    Calm s { s with own := s.own.erase call } := by
  refine ⟨⟨h.pools, h.fresh, ?_, h.drains, h.undrained⟩, fun _ => rfl, fun _ hnone => hnone⟩
  intro other found hfound
  replace hfound : (s.own.erase call).get? other = some found := hfound
  rw [Roster.get?_erase] at hfound
  split at hfound
  · contradiction
  · exact h.guests other found hfound

/-- A session in hand changes by something that a pool that lent it knows of. -/
theorem calm_putHeld (h : s.Housed) (event : CallId → PoolEvent)
    (hheld : s.held? held = some session) (hlater : session.Later session')
    (hown : ∀ loan, (event loan).isDrains = false ∧ (event loan).guest? = none ∧
      (event loan).caller? = none)
    (hevent : ∀ (p : Pool) loan, p.loans.get? loan = some session →
      p.putLoan loan session' = p.perform (event loan)) :
    Calm s (s.putHeld held session') := by
  cases held with
  | lent pool loan =>
    obtain ⟨hdrains, hguest, hcaller⟩ := hown loan
    refine calm_onPool h pool (event loan) ?_ hdrains (fun g hg => ?_) fun c hc => ?_
    · intro p hp
      have hloan : (s.pools.get? pool).bind (·.loans.get? loan) = some session := hheld
      rw [hp] at hloan
      exact hevent p loan hloan
    · rw [hguest] at hg
      contradiction
    · rw [hcaller] at hc
      contradiction
  | own call => exact calm_putOwn h call (hlater.pool.trans (guest_of_held h hheld))

theorem calm_invalidate (h : s.Housed) (held : Held) :
    Calm s (s.changeHeld held Session.invalidate) := by
  unfold changeHeld
  split
  · rename_i session hheld
    refine calm_putHeld h .invalidateLoan hheld ⟨rfl, rfl⟩ (fun _ => ⟨rfl, rfl, rfl⟩) ?_
    intro p loan hloan
    rw [Pool.perform, Pool.invalidateLoan, hloan]
  · exact .refl h

theorem calm_abandon (h : s.Housed) (held : Held) :
    Calm s (s.changeHeld held Session.abandon) := by
  unfold changeHeld
  split
  · rename_i session hheld
    refine calm_putHeld h .abandonLoan hheld ⟨rfl, rfl⟩ (fun _ => ⟨rfl, rfl, rfl⟩) ?_
    intro p loan hloan
    rw [Pool.perform, Pool.abandonLoan, hloan]
  · exact .refl h

/-- A new call begins an exchange on a session in hand. -/
theorem calm_talk (h : s.Housed) (hnew : s.IsNew call) (held : Held) (purpose : Purpose)
    {begin : Session → Begun} (event : CallId → PoolEvent)
    (hbegin : ∀ session session', begin session = .inFlight session' → session.Later session')
    (hown : ∀ loan, (event loan).isDrains = false ∧ (event loan).guest? = none ∧
      (event loan).caller? = none)
    (hevent : ∀ (p : Pool) loan, p.perform (event loan) = (p.beginOn loan begin).1) :
    Calm s (s.talk call held purpose begin) := by
  unfold talk
  split
  · exact .refl h
  · rename_i session hheld
    split
    · exact calm_answer h call _
    · rename_i session' hbegun
      -- The call is new to the station, so it may come after the session has changed.
      have hput : Calm s (s.putHeld held session') := by
        refine calm_putHeld h event hheld (hbegin _ _ hbegun) hown fun p loan hloan => ?_
        rw [hevent, Pool.beginOn, hloan]
        dsimp only
        rw [hbegun]
      have hwork := hput.workless call (work_of_new hnew)
      have hcall : Calm (s.putHeld held session')
          ((s.putHeld held session').putCall call (.talking held purpose)) :=
        calm_putCall hput.housed (not_draining_of_work hwork) (fun _ heq => by contradiction)
          fun _ => rfl
      exact (hput.trans hcall).trans (calm_wake hcall.housed _)

theorem calm_talked (h : s.Housed) (call : CallId) (stimulus : Stimulus) :
    Calm s (s.talked call stimulus) := by
  unfold talked
  split
  · rename_i held purpose hcall
    split
    · exact .refl h
    · rename_i session hheld
      have hput : Calm s (s.putHeld held (session.react s.now stimulus).1) := by
        refine calm_putHeld h (.hearLoan · s.now stimulus) hheld
          (Session.later_react session s.now stimulus) (fun _ => ⟨rfl, rfl, rfl⟩) ?_
        intro p loan hloan
        rw [Pool.perform, Pool.hearLoan, hloan]
      dsimp only
      split
      · have hwork := hput.workless call (work_of_calls hcall)
        exact hput.trans (calm_finish hput.housed (not_draining_of_work hwork) _)
      · exact hput
  · exact .refl h

theorem calm_connected (h : s.Housed) (call : CallId) (outcome : Except IoFault LineId) :
    Calm s (s.connected call outcome) := by
  unfold connected
  split
  · rename_i hcall
    have hother := not_draining_of_calls hcall fun _ _ heq => by contradiction
    split
    · rename_i id _ _ patience _ _ line
      have hown : Calm s { s with own := s.own.put call (.opened id line patience s.now) } :=
        calm_putOwn h call rfl
      exact hown.trans (calm_finish hown.housed hother _)
    · exact calm_finish h hother _
  · exact .refl h

/-- A session connected without a pool is given to one, or hung up. -/
theorem calm_handOver (h : s.Housed) (call : CallId) (pool : Option PoolId)
    {take : Pool → Session → Pool} (event : Session → PoolEvent)
    (hevent : ∀ g, (event g).isDrains = false ∧ (event g).guest? = some g ∧
      (event g).caller? = none)
    (htake : ∀ p g, g.pool = none → take p g = p.perform (event g)) :
    Calm s (s.handOver call pool take) := by
  unfold handOver
  split
  · exact .refl h
  · rename_i session hown
    obtain ⟨hdrains, hguest, hcaller⟩ := hevent session
    have hnone := h.guests call session hown
    have hgone := calm_eraseOwn h call
    dsimp only
    split
    · refine hgone.trans (calm_onPool hgone.housed _ (event session)
        (fun p _ => htake p session hnone) hdrains (fun g hg => ?_) fun c hc => ?_)
      · obtain rfl := Option.some.inj (hguest.symm.trans hg)
        exact hnone
      · rw [hcaller] at hc
        contradiction
    · exact hgone.trans (calm_of_same hgone.housed rfl rfl rfl rfl)

theorem calm_release (h : s.Housed) (held : Held) (pool : Option PoolId) :
    Calm s (s.release held pool) := by
  cases held with
  | lent id loan => exact calm_onPool_own h id (.release loan) rfl rfl rfl
  | own call =>
    refine calm_handOver h call pool .takeGuest (fun _ => ⟨rfl, rfl, rfl⟩) ?_
    intro p g hnone
    rw [Pool.perform, hnone, if_neg (fun heq => by contradiction)]

theorem calm_giveToDestroy (h : s.Housed) (call : CallId) (pool : Option PoolId) :
    Calm s (s.handOver call pool Pool.destroy) := by
  refine calm_handOver h call pool .destroyGuest (fun _ => ⟨rfl, rfl, rfl⟩) ?_
  intro p g hnone
  rw [Pool.perform, hnone, if_neg (fun heq => by contradiction)]

theorem calm_destroy (h : s.Housed) (held : Held) (pool : Option PoolId) :
    Calm s (s.destroy held pool) := by
  cases held with
  | lent id loan => exact calm_onPool_own h id (.destroyLoan loan) rfl rfl rfl
  | own call => exact calm_giveToDestroy h call pool

theorem calm_lose (h : s.Housed) (held : Held) : Calm s (s.lose held) := by
  cases held with
  | lent id loan => exact calm_onPool_own h id (.loseLoan loan) rfl rfl rfl
  | own call => exact calm_giveToDestroy h call none

/-! ## Channels -/

theorem calm_batchSent (h : s.Housed) (call : CallId) (written : Bool) :
    Calm s (s.batchSent call written) := by
  unfold batchSent
  split
  · rename_i hcall
    exact calm_finish h (not_draining_of_calls hcall fun _ _ heq => by contradiction) _
  · rename_i hcall
    exact calm_finish h (not_draining_of_calls hcall fun _ _ heq => by contradiction) _
  · exact .refl h

theorem calm_channelStopped (h : s.Housed) (call : CallId) : Calm s (s.channelStopped call) := by
  unfold channelStopped
  split
  · rename_i hcall
    exact calm_finish h (not_draining_of_calls hcall fun _ _ heq => by contradiction) _
  · rename_i job link hcall
    have hother := not_draining_of_calls hcall fun _ _ heq => by
      have hstage := (Activity.reconciling.inj heq).2
      contradiction
    refine calm_putCall h hother (fun _ heq => by contradiction) fun hnone => ?_
    rw [work_of_calls hcall] at hnone
    contradiction
  · exact .refl h

theorem calm_doChannelAct (h : s.Housed) (channel : ChannelId) (act : ChannelAct) :
    Calm s (doChannelAct channel s act) := by
  cases act with
  | hangUp line => exact calm_of_same h rfl rfl rfl rfl
  | wake user =>
    cases user with
    | listener => exact calm_wake h _
    | call call => exact calm_wake h _
  | publish publication => exact calm_of_same h rfl rfl rfl rfl
  | sent call written => exact calm_batchSent h call written
  | stopped call => exact calm_channelStopped h call

theorem calm_steps {α : Type} {step : Station → α → Station}
    (hstep : ∀ (s : Station) a, s.Housed → Calm s (step s a)) (h : s.Housed) (steps : List α) :
    Calm s (steps.foldl step s) := by
  induction steps generalizing s with
  | nil => exact .refl h
  | cons a rest ih => exact (hstep s a h).trans (ih (hstep s a h).housed)

/-- Channels have nothing to do with the pools. -/
theorem calm_onChannel (h : s.Housed) (channel : ChannelId) (f : Channel → Channel) :
    Calm s (s.onChannel channel f) := by
  unfold onChannel
  split
  · exact .refl h
  · rename_i c _
    have hput : Calm s { s with channels := s.channels.put channel { f c with acts := [] } } :=
      calm_of_same h rfl rfl rfl rfl
    have hacts := hput.trans (calm_steps (fun _ act hs => calm_doChannelAct hs channel act)
      hput.housed (f c).acts)
    dsimp only
    split
    · exact hacts.trans (calm_steps (fun _ call hs => calm_wake hs (.call call)) hacts.housed _)
    · exact hacts

/-! ## Calls on pools and channels -/

/-- A new call looks for a session. -/
theorem calm_startBorrow (h : s.Housed) (hnew : s.IsNew call) (id : PoolId)
    (hactivity : ∀ pool, activity ≠ .draining pool) (hwork : activity.work? = none) :
    Calm s ((s.startCall call activity).onPool id (·.acquire call s.now)) := by
  have hstart := calm_startCall h hnew hactivity hwork
  have hknown := known_startCall s call activity
  have hpools : (s.startCall call activity).pools = s.pools := by
    obtain ⟨ready, hwake⟩ := exists_ready_wake (s.putCall call activity) (.call call)
    rw [startCall, hwake]
    rfl
  refine hstart.trans (calm_onPool hstart.housed id (.acquire call s.now) ?_ rfl
    (fun g hg => by contradiction) fun c hc => ?_)
  · intro p hp
    rw [hpools] at hp
    rw [Pool.perform, if_pos (h.fresh id p call hp hnew)]
  · obtain rfl := Option.some.inj hc
    exact ⟨not_isNew_of_calls hknown, (work_of_calls hknown).trans hwork⟩

theorem calm_realtime (h : s.Housed) (hnew : s.IsNew call) (channel : ChannelId)
    (commands : List String) (forExecution : Bool) :
    Calm s (s.realtime call channel commands forExecution) := by
  have hstart : Calm s (s.startCall call (.writing channel forExecution)) :=
    calm_startCall h hnew (fun _ heq => by contradiction) rfl
  have hknown := known_startCall s call (.writing channel forExecution)
  unfold realtime
  dsimp only
  split
  · exact hstart
  · split
    · exact hstart.trans (calm_onChannel hstart.housed channel _)
    · exact hstart.trans (calm_finish hstart.housed
        (not_draining_of_calls hknown fun _ _ heq => by contradiction) _)

theorem calm_execute (h : s.Housed) (hnew : s.IsNew call) (studio : String) (commands : Commands)
    (options : ExecuteOptions) : Calm s (s.execute call studio commands options) := by
  unfold execute
  split
  · exact calm_answer h call _
  · split
    · exact calm_realtime h hnew _ _ true
    · exact calm_startBorrow h hnew _ (fun _ heq => by contradiction) rfl

/-! ## Executing commands -/

theorem calm_executed (h : s.Housed) (hwork : s.work? call = none) (pool : PoolId) (raw : Bool)
    (outcome : Except Fault String) : Calm s (s.executed call pool raw outcome) := by
  have hback : Calm s (s.onPool pool (·.release call)) :=
    calm_onPool_own h pool (.release call) rfl rfl rfl
  exact hback.trans
    (calm_finish hback.housed (not_draining_of_work (hback.workless call hwork)) _)

/-- A pool is replaced by what an exchange made of it. -/
theorem calm_replacePool (h : s.Housed) {p : Pool} (hp : s.pools.get? id = some p)
    (event : PoolEvent) (hdrains : event.isDrains = false) (hguest : event.guest? = none)
    (hcaller : event.caller? = none) : Calm s (s.onPool id fun _ => p.perform event) := by
  refine calm_onPool h id event ?_ hdrains (fun g hg => ?_) fun c hc => ?_
  · intro q hq
    obtain rfl := Option.some.inj (hp.symm.trans hq)
    rfl
  · rw [hguest] at hg
    contradiction
  · rw [hcaller] at hc
    contradiction

theorem calm_beginExecution (h : s.Housed) (call : CallId) : Calm s (s.beginExecution call) := by
  unfold beginExecution
  split
  · rename_i pool commands raw hcall
    have hwork := work_of_calls hcall
    split
    · rename_i q outcome hbegun
      obtain ⟨p, hp, hq⟩ := Option.map_eq_some_iff.mp hbegun
      have hq' : p.perform (.sendOn call commands) = q := congrArg Prod.fst hq
      have hput := calm_replacePool h hp (.sendOn call commands) rfl rfl rfl
      rw [hq'] at hput
      have hwork' := hput.workless call hwork
      dsimp only
      split
      · exact hput.trans (calm_executed hput.housed hwork' pool raw _)
      · exact hput.trans (calm_putCall hput.housed (not_draining_of_work hwork')
          (fun _ heq => by contradiction) fun _ => rfl)
    · exact .refl h
  · exact .refl h

theorem calm_executionMoved (h : s.Housed) (call : CallId) (stimulus : Stimulus) :
    Calm s (s.executionMoved call stimulus) := by
  unfold executionMoved
  split
  · rename_i pool commands raw hcall
    have hwork := work_of_calls hcall
    split
    · rename_i q outcome hmoved
      obtain ⟨p, hp, hq⟩ := Option.map_eq_some_iff.mp hmoved
      have hq' : p.perform (.hearLoan call s.now stimulus) = q := congrArg Prod.fst hq
      have hput := calm_replacePool h hp (.hearLoan call s.now stimulus) rfl rfl rfl
      rw [hq'] at hput
      dsimp only
      split
      · exact hput.trans (calm_executed hput.housed (hput.workless call hwork) pool raw _)
      · exact hput
    · exact .refl h
  · exact .refl h

/-! ## Tasks -/

theorem calm_callHears (h : s.Housed) (call : CallId) (outcome : Outcome) :
    Calm s (s.callHears call outcome) := by
  unfold callHears
  split
  · rename_i pool stimulus hcall
    exact calm_onPool_caller h pool (.hearCheck call s.now stimulus) rfl rfl rfl hcall rfl
  · rename_i pool _ _ stimulus hcall
    exact calm_onPool_caller h pool (.hearCheck call s.now stimulus) rfl rfl rfl hcall rfl
  · rename_i pool line hcall
    exact calm_onPool_caller h pool (.dialled call s.now line) rfl rfl rfl hcall rfl
  · rename_i pool _ _ line hcall
    exact calm_onPool_caller h pool (.dialled call s.now line) rfl rfl rfl hcall rfl
  · exact calm_executionMoved h call _
  · exact calm_connected h call _
  · exact calm_talked h call _
  · exact calm_onChannel h _ _
  · rename_i hcall
    have hother := not_draining_of_calls hcall fun _ _ heq => by
      have hstage := (Activity.reconciling.inj heq).2
      contradiction
    refine calm_putCall h hother (fun _ heq => by contradiction) fun hnone => ?_
    rw [work_of_calls hcall] at hnone
    contradiction
  · exact .refl h

theorem calm_hear (h : s.Housed) (task : Task) (outcome : Outcome) :
    Calm s (s.hear task outcome) := by
  unfold hear
  split
  · exact calm_callHears h _ outcome
  · exact calm_onPool_own h _ (.upkeepDialled s.now _) rfl rfl rfl
  · exact calm_onChannel h _ _
  · exact calm_onChannel h _ _
  · exact .refl h

theorem calm_borrowOverdue (h : s.Housed) (hcall : s.calls.get? call = some activity)
    (hactivity : activity.work? = none) (pool : PoolId) : Calm s (s.borrowOverdue pool call) := by
  unfold borrowOverdue
  split
  · split
    · exact calm_onPool_caller h pool (.stageExpired call s.now) rfl rfl rfl hcall hactivity
    · exact calm_onPool_caller h pool (.borrowExpired call s.now) rfl rfl rfl hcall hactivity
  · exact .refl h

/-! ## Giving up -/

/-- A call that does not work on the links is given up. -/
theorem calm_cancel (h : s.Housed) (hwork : s.work? call = none) : Calm s (s.cancel call) := by
  have hover : ∀ {s' : Station}, Calm s s' → Calm s (s'.finish call .cancelled) := by
    intro s' hcalm
    exact hcalm.trans
      (calm_finish hcalm.housed (not_draining_of_work (hcalm.workless call hwork)) _)
  unfold cancel
  split
  · exact .refl h
  · rename_i activity hcall
    apply hover
    split
    · exact calm_onPool_caller h _ (.cancelBorrow call) rfl rfl rfl hcall rfl
    · exact calm_onPool_caller h _ (.cancelBorrow call) rfl rfl rfl hcall rfl
    · exact calm_onPool_own h _ (.loseLoan call) rfl rfl rfl
    · exact .refl h
    · exact calm_abandon h _
    · exact absurd hcall (h.undrained call _)
    · exact calm_onChannel h _ _
    · exact calm_onChannel h _ _
    · rw [work_of_calls hcall] at hwork
      contradiction

theorem calm_letGoUnheld (h : s.Housed) (kept : List PoolId) : Calm s (s.letGoUnheld kept) := by
  refine calm_steps (fun s id hs => ?_) h _
  split
  · exact .refl hs
  · -- A pool whose upkeep is not over is left as it is, which is to have it settle nothing.
    cases hp : s.pools.get? id with
    | none =>
      rw [onPool, hp]
      exact .refl hs
    | some p =>
      by_cases hover : p.upkeep.stage = .over
      · refine calm_onPool hs id .abandon ?_ rfl (fun g hg => by contradiction)
          fun c hc => by contradiction
        intro q hq
        obtain rfl := Option.some.inj (hp.symm.trans hq)
        rw [if_pos hover]
        rfl
      · refine calm_onPool hs id .settled ?_ rfl (fun g hg => by contradiction)
          fun c hc => by contradiction
        intro q hq
        obtain rfl := Option.some.inj (hp.symm.trans hq)
        rw [if_neg hover, Pool.perform]
        exact congrArg (fun acts => { p with acts := acts }) (hs.pools id p hp).done

end BroadcastLink.Station
