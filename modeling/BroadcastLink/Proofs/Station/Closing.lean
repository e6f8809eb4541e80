import BroadcastLink.Proofs.Station.Calm

/-!
# How pools come to be closed

A pool is closed by the call that takes its link down, and by nothing else. It drains from then on:
for that call and until the same deadline, and when it has ended, either nothing that the pool lent
is out any more or the deadline has passed. A pool that is drained stays so.
-/

namespace BroadcastLink

namespace Pool

variable {p q r : Pool} {d : Drain} {deadline now : Instant}

/-- The pool is drained to the end: it is closed, and no drain goes on. -/
structure IsDrained (p : Pool) : Prop where
  closed : p.isClosed = true
  drain : p.drain = none

/-- What has come of a drain by now: it goes on until its deadline, or it has ended. It ends with
nothing lent any more, or at its deadline. -/
inductive Drains (deadline now : Instant) (q : Pool) : Prop where
  | on {d : Drain} (drain : q.drain = some d) (same : d.deadline = deadline)
  | ended (drain : q.drain = none) (reason : q.loans.values = [] ∨ deadline ≤ now)

/-- What an event comes to for the closing of a pool: nothing, or a drain starts in an open pool, or
one goes on. -/
inductive Fares (now : Instant) (p q : Pool) : Prop where
  | rests (door : q.door = p.door)
  | starts (isOpen : p.isClosed = false) (studio : q.studio = p.studio)
    (settings : q.settings = p.settings) (closed : q.isClosed = true)
    (drains : q.Drains (p.settings.drainTimeout.after now) now)
  | goesOn {d : Drain} (drain : p.drain = some d) (studio : q.studio = p.studio)
    (settings : q.settings = p.settings) (closed : q.isClosed = true)
    (drains : q.Drains d.deadline now)

theorem studio_of_door (h : q.door = p.door) : q.studio = p.studio := congrArg (·.1) h

theorem settings_of_door (h : q.door = p.door) : q.settings = p.settings := congrArg (·.2.1) h

theorem closing_of_door (h : q.door = p.door) : q.closing = p.closing := congrArg (·.2.2) h

namespace Fares

theorem studio (h : p.Fares now q) : q.studio = p.studio := by
  cases h with
  | rests door => exact studio_of_door door
  | starts _ studio => exact studio
  | goesOn _ studio => exact studio

/-- A closed pool stays closed. -/
theorem closed (h : p.Fares now q) (hclosed : p.isClosed = true) : q.isClosed = true := by
  cases h with
  | rests door => exact (isClosed_of_closing (closing_of_door door)).trans hclosed
  | starts _ _ _ closed => exact closed
  | goesOn _ _ _ closed => exact closed

/-- A drained pool stays so. -/
theorem isDrained (h : p.Fares now q) (hdrained : p.IsDrained) : q.IsDrained := by
  refine ⟨h.closed hdrained.closed, ?_⟩
  cases h with
  | rests door => exact (drain_of_closing (closing_of_door door)).trans hdrained.drain
  | starts isOpen =>
    rw [hdrained.closed] at isOpen
    contradiction
  | goesOn drain =>
    rw [hdrained.drain] at drain
    contradiction

/-- What closes no pool may come first. -/
theorem after (h : q.Fares now r) (hdoor : q.door = p.door) : p.Fares now r := by
  have hstudio := studio_of_door hdoor
  have hsettings := settings_of_door hdoor
  have hclosing := closing_of_door hdoor
  cases h with
  | rests door => exact .rests (door.trans hdoor)
  | starts isOpen studio settings closed drains =>
    rw [hsettings] at drains
    exact .starts ((isClosed_of_closing hclosing).symm.trans isOpen) (studio.trans hstudio)
      (settings.trans hsettings) closed drains
  | goesOn drain studio settings closed drains =>
    exact .goesOn ((drain_of_closing hclosing).symm.trans drain) (studio.trans hstudio)
      (settings.trans hsettings) closed drains

end Fares

/-- What a pool asked for makes no difference to how it fares. -/
theorem Drains.settled (h : q.Drains deadline now) (acts : List PoolAct) :
    { q with acts := acts }.Drains deadline now := by
  cases h with
  | on drain same => exact .on drain same
  | ended drain reason => exact .ended drain reason

theorem Fares.settled (h : p.Fares now q) (acts : List PoolAct) :
    p.Fares now { q with acts := acts } := by
  cases h with
  | rests door => exact .rests door
  | starts isOpen studio settings closed drains =>
    exact .starts isOpen studio settings closed (drains.settled acts)
  | goesOn drain studio settings closed drains =>
    exact .goesOn drain studio settings closed (drains.settled acts)

theorem Waits.drains (h : Waits d now p q) : q.Drains d.deadline now := by
  cases h with
  | on d' drain _ deadline _ => exact .on drain deadline
  | ended drain reason _ _ => exact .ended drain reason

/-- However a drain goes on, the pool stays that of its studio. -/
theorem Waits.bearing (h : Waits d now p q) : q.studio = p.studio ∧ q.settings = p.settings := by
  cases h with
  | on _ _ _ _ discreet => exact ⟨discreet.studio, discreet.settings⟩
  | @ended _ _ r discreet told =>
    have hstudio : q.studio = r.studio := congrArg Bearing.studio told
    have hsettings : q.settings = r.settings := congrArg Bearing.settings told
    exact ⟨hstudio.trans discreet.studio, hsettings.trans discreet.settings⟩

end Pool

namespace Station

variable {s s' s'' : Station} {call : CallId} {id : PoolId} {job : Job} {link : Link}

/-- The pools that there are go on as drains have them go on, new ones are open, and all are kept
well. -/
structure Tends (s s' : Station) : Prop where
  housed : s'.Housed
  pools : ∀ id p, s.pools.get? id = some p →
    ∃ q, s'.pools.get? id = some q ∧ p.Fares s'.now q
  news : ∀ id q, s.pools.get? id = none → s'.pools.get? id = some q → q.isClosed = false

theorem Calm.pool_eq_some (h : Calm s s') {p : Pool} (hp : s.pools.get? id = some p) :
    ∃ q, s'.pools.get? id = some q ∧ q.door = p.door := by
  have hdoor := h.doors id
  rw [hp] at hdoor
  exact Option.map_eq_some_iff.mp hdoor

theorem Calm.pool_eq_none (h : Calm s s') (hp : s.pools.get? id = none) :
    s'.pools.get? id = none := by
  have hdoor := h.doors id
  rw [hp] at hdoor
  exact Option.map_eq_none_iff.mp hdoor

theorem Calm.tends (h : Calm s s') : Tends s s' := by
  refine ⟨h.housed, fun id p hp => ?_, fun id q hp hq => ?_⟩
  · obtain ⟨q, hq, hsame⟩ := h.pool_eq_some hp
    exact ⟨q, hq, .rests hsame⟩
  · rw [h.pool_eq_none hp] at hq
    contradiction

theorem Tends.after (h : Tends s' s'') (hcalm : Calm s s') : Tends s s'' := by
  refine ⟨h.housed, fun id p hp => ?_, fun id q hp => h.news id q (hcalm.pool_eq_none hp)⟩
  obtain ⟨q, hq, hsame⟩ := hcalm.pool_eq_some hp
  obtain ⟨r, hr, hfares⟩ := h.pools id q hq
  exact ⟨r, hr, hfares.after hsame⟩

/-- A pool is closed, and the others fare as drains have them fare. -/
structure Closes (id : PoolId) (s s' : Station) : Prop extends Tends s s' where
  closed : ∀ q, s'.pools.get? id = some q → q.isClosed = true

theorem Closes.after (h : Closes id s' s'') (hcalm : Calm s s') : Closes id s s'' :=
  ⟨h.toTends.after hcalm, h.closed⟩

/-! ## What a drain asks for -/

/-- What a pool asks for, other pools apart, changes no pool and takes no time. -/
theorem pools_doOwnAct (id : PoolId) (s : Station) (act : PoolAct) :
    (doOwnAct id s act).pools = s.pools ∧ (doOwnAct id s act).now = s.now := by
  have hwake : ∀ t, (s.wake t).pools = s.pools ∧ (s.wake t).now = s.now := by
    intro t
    unfold wake
    split <;> exact ⟨rfl, rfl⟩
  cases act with
  | hangUp | freeIn | refused => exact ⟨rfl, rfl⟩
  | wake waiter =>
    cases waiter with
    | caller call => exact hwake _
    | drainer =>
      unfold doOwnAct
      dsimp only
      split
      · exact hwake _
      · exact ⟨rfl, rfl⟩
  | wakeUpkeep => exact hwake _
  | lent call session =>
    show (s.lent call session).pools = _ ∧ (s.lent call session).now = _
    unfold lent
    split <;> exact ⟨rfl, rfl⟩
  | drained call =>
    show (s.drained call).pools = _ ∧ (s.drained call).now = _
    unfold drained
    split <;> exact ⟨rfl, rfl⟩

theorem pools_foldl {acts : List PoolAct} (h : ∀ other, .freeIn other ∉ acts) (id : PoolId)
    (s : Station) : (acts.foldl (doPoolAct id) s).pools = s.pools ∧
      (acts.foldl (doPoolAct id) s).now = s.now := by
  induction acts generalizing s with
  | nil => exact ⟨rfl, rfl⟩
  | cons act rest ih =>
    have hfirst : doPoolAct id s act = doOwnAct id s act := by
      cases act with
      | freeIn other => exact absurd List.mem_cons_self (h other)
      | _ => rfl
    obtain ⟨hpools, hnow⟩ := pools_doOwnAct id s act
    obtain ⟨hpools', hnow'⟩ := ih (fun other hmem => h other (List.mem_cons_of_mem act hmem))
      (doPoolAct id s act)
    rw [← hfirst] at hpools hnow
    exact ⟨hpools'.trans hpools, hnow'.trans hnow⟩

/-! ## How a drain goes on -/

/-- A pool does what a drain does. What it asks for is its own affair, but that at most one call for
which no drain goes on is told that the pool is drained. -/
theorem closes_onPool (h : s.Housed) {p : Pool} (hp : s.pools.get? id = some p) (event : PoolEvent)
    (hcaller : event.caller? = none) (hguest : event.guest? = none)
    (hcloses : Pool.OnlyCloses p (p.perform event)) (hfares : p.Fares s.now (p.perform event))
    (hclosed : (p.perform event).isClosed = true)
    (hdrain : ∀ d, (p.perform event).drain = some d → ∃ job link,
      s.calls.get? d.call = some (.reconciling job (.draining link)) ∧ link.pool = id)
    (acts : List PoolAct) (told : Option CallId)
    (hacts : (p.perform event).acts = acts ++ (told.map PoolAct.drained).toList)
    (hown : ∀ act ∈ acts, act.isOwn = true)
    (htold : ∀ c ∈ told, ∀ other q d, (s.putBack id (p.perform event)).pools.get? other = some q →
      q.drain = some d → d.call ≠ c) :
    Closes id s (s.onPool id (·.perform event)) := by
  have hdone := (h.pools id p hp).done
  let put := s.putBack id (p.perform event)
  have hget : ∀ other, put.pools.get? other =
      if other = id then some { p.perform event with acts := [] } else s.pools.get? other :=
    fun other => Roster.get?_put _ _ _ _
  have hput : put.Housed := by
    refine housed_putBack h hp (fun g hg => ?_) (fun c hc => ?_) (fun _ => hclosed) hdrain
    · rw [hguest] at hg
      contradiction
    · rw [hcaller] at hc
      contradiction
  have hharmless : ∀ act ∈ acts, put.Harmless act := by
    refine fun act hact => ⟨hown act hact, fun c hc => ?_⟩
    have hmem : c ∈ (p.perform event).refused :=
      List.mem_filterMap.mpr ⟨act, hacts ▸ List.mem_append_left _ hact, hc⟩
    rw [hcloses.refused, Pool.refused, hdone] at hmem
    contradiction
  have hfree : ∀ other, .freeIn other ∉ acts := by
    intro other hmem
    have htrue := hown _ hmem
    contradiction
  -- Whatever the pool asks for leaves all pools as they were put back.
  obtain ⟨hhoused, hpools, hnow⟩ : (s.onPool id (·.perform event)).Housed ∧
      (s.onPool id (·.perform event)).pools = put.pools ∧
      (s.onPool id (·.perform event)).now = s.now := by
    have heq : s.onPool id (·.perform event) =
        (p.perform event).acts.foldl (doPoolAct id) put := by
      rw [onPool, hp]
      rfl
    have hcalm := calm_foldl hput id hharmless
    obtain ⟨hsame, hnow⟩ := pools_foldl hfree id put
    rw [heq, hacts, List.foldl_append]
    cases told with
    | none => exact ⟨hcalm.housed, hsame, hnow⟩
    | some c =>
      obtain ⟨hsame', hnow'⟩ := pools_doOwnAct id (acts.foldl (doPoolAct id) put) (.drained c)
      refine ⟨?_, hsame'.trans hsame, hnow'.trans hnow⟩
      refine (calm_drained hcalm.housed c fun other q d hq => ?_).housed
      rw [hsame] at hq
      exact htold c rfl other q d hq
  refine ⟨⟨hhoused, fun other q hq => ?_, fun other q hq hq' => ?_⟩, fun q hq => ?_⟩
  · rw [hpools, hnow]
    by_cases heq : other = id
    · subst heq
      obtain rfl := Option.some.inj (hp.symm.trans hq)
      exact ⟨_, (hget other).trans (if_pos rfl), hfares.settled []⟩
    · exact ⟨q, (hget other).trans ((if_neg heq).trans hq), .rests rfl⟩
  · rw [hpools, hget] at hq'
    split at hq'
    · rename_i heq
      rw [heq, hp] at hq
      contradiction
    · rw [hq] at hq'
      contradiction
  · rw [hpools, hget, if_pos rfl] at hq
    obtain rfl := Option.some.inj hq
    exact hclosed

/-- A drain goes on in a pool, for a call that takes the pool's link down. -/
theorem closes_waits (h : s.Housed) {p : Pool} (hp : s.pools.get? id = some p) {d : Drain}
    (event : PoolEvent) (hcaller : event.caller? = none) (hguest : event.guest? = none)
    (hcloses : Pool.OnlyCloses p (p.perform event))
    (hwaits : Pool.Waits d s.now p (p.perform event))
    (hfares : p.Fares s.now (p.perform event)) (hclosed : (p.perform event).isClosed = true)
    (hcall : s.calls.get? d.call = some (.reconciling job (.draining link)))
    (hlink : link.pool = id) : Closes id s (s.onPool id (·.perform event)) := by
  have hown : ∀ {r : Pool}, Pool.Discreet p r → ∀ act ∈ r.acts, act.isOwn = true := by
    intro r hdiscreet act hact
    rcases hdiscreet.acts act hact with hold | hnew
    · have hnone : act ∈ p.acts := hold
      rw [(h.pools id p hp).done] at hnone
      contradiction
    · exact hnew
  cases hwaits with
  | on d' drain same _ discreet =>
    refine closes_onPool h hp event hcaller hguest hcloses hfares hclosed (fun d'' hd => ?_) _ none
      (List.append_nil _).symm (hown discreet) fun c hc => by contradiction
    obtain rfl := Option.some.inj (drain.symm.trans hd)
    exact ⟨job, link, same ▸ hcall, hlink⟩
  | @ended drain _ r discreet told =>
    refine closes_onPool h hp event hcaller hguest hcloses hfares hclosed (fun d'' hd => ?_) r.acts
      (some d.call) (congrArg Pool.Bearing.acts told) (hown discreet) ?_
    · rw [drain] at hd
      contradiction
    · -- Another pool that drains for this call would be the one whose link it takes down.
      intro c hc other q d' hq hd' heq
      obtain rfl := Option.some.inj hc
      replace hq := (Roster.get?_put _ _ _ _).symm.trans hq
      split at hq
      · obtain rfl := Option.some.inj hq
        replace hd' : (p.perform event).drain = some d' := hd'
        rw [drain] at hd'
        contradiction
      · rename_i hne
        obtain ⟨job', link', hcall', hlink'⟩ := h.drains other q d' hq hd'
        rw [heq] at hcall'
        obtain ⟨-, hstage⟩ := Activity.reconciling.inj (Option.some.inj (hcall.symm.trans hcall'))
        obtain rfl := JobStage.draining.inj hstage
        exact hne (hlink'.symm.trans hlink)

/-- What a drain does when none goes on is nothing. -/
theorem calm_onPool_same (h : s.Housed) {f : Pool → Pool}
    (hf : ∀ p, s.pools.get? id = some p → f p = p) : Calm s (s.onPool id f) := by
  refine calm_onPool h id .settled (fun p hp => (hf p hp).trans ?_) rfl
    (fun g hg => by contradiction) fun c hc => by contradiction
  exact (congrArg (fun acts => { p with acts := acts }) (h.pools id p hp).done)

/-- A drain that goes on is that of a call which takes the pool's link down. -/
theorem tends_goOn (h : s.Housed) (id : PoolId) (event : PoolEvent)
    (hcaller : event.caller? = none) (hguest : event.guest? = none)
    (hnone : ∀ p : Pool, p.drain = none → p.perform event = p)
    (hcloses : ∀ p : Pool, Pool.OnlyCloses p (p.perform event))
    (hwaits : ∀ (p : Pool) d, p.InHouse id → p.drain = some d →
      Pool.Waits d s.now p (p.perform event)) :
    Tends s (s.onPool id (·.perform event)) := by
  cases hp : s.pools.get? id with
  | none =>
    refine (calm_onPool_same h fun p hp' => ?_).tends
    rw [hp] at hp'
    contradiction
  | some p =>
    have hkept := h.pools id p hp
    cases hdrain : p.drain with
    | none =>
      refine (calm_onPool_same h fun q hq => ?_).tends
      obtain rfl := Option.some.inj (hp.symm.trans hq)
      exact hnone p hdrain
    | some d =>
      have hstarted := hwaits p d hkept hdrain
      obtain ⟨hstudio, hsettings⟩ := hstarted.bearing
      have hclosed : (p.perform event).isClosed = true :=
        Pool.isClosed_perform (hkept.closed (hdrain ▸ Option.some_ne_none d)) event
      obtain ⟨job, link, hcall, hlink⟩ := h.drains id p d hp hdrain
      exact (closes_waits h hp event hcaller hguest (hcloses p) hstarted
        (.goesOn hdrain hstudio hsettings hclosed hstarted.drains) hclosed hcall hlink).toTends

theorem tends_resumeDrain (h : s.Housed) (id : PoolId) :
    Tends s (s.onPool id (·.resumeDrain s.now)) := by
  refine tends_goOn h id (.resumeDrain s.now) rfl rfl ?_
    (fun p => Pool.onlyCloses_resumeDrain p s.now) ?_
  · intro p hnone
    rw [Pool.perform, Pool.resumeDrain, hnone]
  · intro p d hkept hdrain
    exact Pool.waits_resumeDrain hkept.counted.live hkept.own hdrain s.now

theorem tends_drainExpired (h : s.Housed) (id : PoolId) :
    Tends s (s.onPool id (·.drainExpired s.now)) := by
  refine tends_goOn h id (.drainExpired s.now) rfl rfl ?_
    (fun p => Pool.onlyCloses_drainExpired p s.now) ?_
  · intro p hnone
    rw [Pool.perform, Pool.drainExpired, hnone]
  · intro p d hkept hdrain
    exact Pool.waits_drainExpired hkept.own hdrain s.now

theorem tends_drainOverdue (h : s.Housed) (id : PoolId) : Tends s (s.drainOverdue id) := by
  unfold drainOverdue
  split
  · split
    · exact tends_resumeDrain h id
    · exact tends_drainExpired h id
  · exact (Calm.refl h).tends

/-! ## How a drain starts -/

/-- A call that changes the set of links, and took none down at the moment, begins to. -/
theorem closes_takeDown (h : s.Housed) (hwork : s.work? call ≠ none)
    (hcall : ∀ job link, s.calls.get? call ≠ some (.reconciling job (.draining link)))
    (job : Job) (link : Link) : Closes link.pool s (s.takeDown call job link) := by
  have hcalm : Calm s (s.putJob call job (.draining link)) :=
    calm_putCall h hcall (fun _ heq => by contradiction) fun hnone => absurd hnone hwork
  have hstage : (s.putJob call job (.draining link)).calls.get? call =
      some (.reconciling job (.draining link)) :=
    (Roster.get?_put _ _ _ _).trans (if_pos rfl)
  -- The call took no link down before, so no drain is its own yet.
  have hnobody : ∀ other q d, s.pools.get? other = some q → q.drain = some d → d.call ≠ call := by
    rintro other q d hq hd rfl
    obtain ⟨job', link', hbefore, -⟩ := h.drains other q d hq hd
    exact hcall job' link' hbefore
  refine Closes.after ?_ hcalm
  unfold takeDown
  generalize hput : s.putJob call job (.draining link) = put at hcalm hstage ⊢
  have hpools : put.pools = s.pools := hput ▸ rfl
  have hnow : put.now = s.now := hput ▸ rfl
  rw [← hnow]
  cases hp : put.pools.get? link.pool with
  | none =>
    have hsame : Calm put (put.onPool link.pool (·.startDrain call put.now)) := by
      refine calm_onPool_same hcalm.housed fun p hp' => ?_
      rw [hp] at hp'
      contradiction
    refine ⟨hsame.tends, fun q hq => ?_⟩
    rw [hsame.pool_eq_none hp] at hq
    contradiction
  | some p =>
    have hkept := hcalm.housed.pools link.pool p hp
    have hcloses := Pool.onlyCloses_startDrain p call put.now
    cases hopen : p.isClosed with
    | false =>
      have hstarted := Pool.waits_startDrain hkept.counted.live hkept.own hopen call put.now
      obtain ⟨hstudio, hsettings⟩ := hstarted.bearing
      have hclosed := (Pool.startDrain_of_open hopen call put.now).1
      have hfares := Pool.Fares.starts hopen hstudio hsettings hclosed hstarted.drains
      exact closes_waits hcalm.housed hp (.startDrain call put.now) rfl rfl hcloses hstarted hfares
        hclosed hstage rfl
    | true =>
      have hstarted : p.startDrain call put.now = p.ask (.drained call) := by
        rw [Pool.startDrain, if_pos hopen]
      have hacts : (p.ask (.drained call)).acts = [] ++ [.drained call] :=
        congrArg (· ++ [PoolAct.drained call]) hkept.done
      refine closes_onPool hcalm.housed hp (.startDrain call put.now) rfl rfl hcloses ?_ ?_ ?_ []
        (some call) ?_ (fun _ hact => by contradiction) ?_
      all_goals simp only [Pool.perform, hstarted]
      · exact .rests rfl
      · exact hopen
      · exact fun d hd => hcalm.housed.drains link.pool p d hp hd
      · exact hacts
      · intro c hc other q d hq hd
        obtain rfl := Option.some.inj hc
        replace hq := (Roster.get?_put _ _ _ _).symm.trans hq
        rw [hpools] at hp hq
        split at hq
        · obtain rfl := Option.some.inj hq
          exact hnobody link.pool p d hp hd
        · exact hnobody other q d hq hd

end Station

end BroadcastLink
