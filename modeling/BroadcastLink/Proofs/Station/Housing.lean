import BroadcastLink.Proofs.Pool.Draining
import BroadcastLink.Proofs.Station.Events

/-!
# How the pools of a station fare

The pools of a station stay in order, each with sessions of its own alone: sessions connected
without a pool take up no place when they are given to one, and a call looks for a session only
once. As long as callers drain no pool, a drain that goes on is that of a call which takes the
pool's link down. Whatever else happens, pools are closed no further than before, and their drains
stand as they stood.
-/

namespace BroadcastLink

/-- A pool of a station between two events: it stands under its number and in order, with sessions
of its own alone; what it asked for is done; and a drain goes on only once it is closed. -/
structure Pool.InHouse (id : PoolId) (p : Pool) : Prop extends InOrder p where
  number : p.id = id
  own : p.Own
  done : p.acts = []
  closed : p.drain ≠ none → p.isClosed = true

/-- Whose pool it is, how it was set up, and how far it is closed. -/
def Pool.door (p : Pool) : String × PoolSettings × Closing := (p.studio, p.settings, p.closing)

namespace Pool

variable {id : PoolId} {p q : Pool} {event : PoolEvent}

/-- After an event, and once what the pool asked for is done. -/
theorem InHouse.perform (h : p.InHouse id) (hguest : ∀ g ∈ event.guest?, g.pool = none)
    (hclosed : (p.perform event).drain ≠ none → (p.perform event).isClosed = true) :
    InHouse id { p.perform event with acts := [] } := by
  have horder := (h.toInOrder.perform event).perform .settled
  have hpassage : Account.Passage (fun _ => True) p.toAccount (p.perform event).toAccount :=
    passage_perform h.apart event fun _ _ _ => trivial
  have hnumber : (p.perform event).id = p.id := hpassage.id_eq
  have hown : ∀ s ∈ (p.run [event]).sessions, s.pool = some (p.run [event]).id := by
    refine forall_own_run h.toInOrder h.own fun e he => ?_
    rw [List.mem_singleton.mp he]
    exact hguest
  exact ⟨horder, hnumber.trans h.number, hown, rfl, hclosed⟩

theorem inHouse_forStudio (id : PoolId) (studio : Studio) (settings : PoolSettings)
    (now : Instant) : (forStudio id studio settings now).InHouse id :=
  ⟨inOrder_forStudio id studio settings now, rfl, fun _ hs => by contradiction, rfl,
    fun hdrain => absurd rfl hdrain⟩

/-- No event but a drain's closes the pool further. -/
theorem door_perform (h : p.InHouse id) (hdrains : event.isDrains = false)
    (hguest : ∀ g ∈ event.guest?, g.pool = none) : (p.perform event).door = p.door := by
  have hdiscreet := discreet_perform h.own hdrains hguest
  have hclosing : (p.perform event).closing = p.closing := closing_perform hdrains
  have hstudio : (p.perform event).studio = p.studio := hdiscreet.studio
  have hsettings : (p.perform event).settings = p.settings := hdiscreet.settings
  rw [door, door, hclosing, hstudio, hsettings]

end Pool

namespace Station

variable {s s' s'' : Station} {call : CallId} {id : PoolId} {activity : Activity}

/-- The pools are kept well, and so are the sessions without a pool. A drain that goes on is that of
a call which takes the pool's link down. -/
structure Housed (s : Station) : Prop where
  pools : ∀ id p, s.pools.get? id = some p → p.InHouse id
  fresh : ∀ id p call, s.pools.get? id = some p → s.IsNew call → p.IsFresh call
  guests : ∀ call session, s.own.get? call = some session → session.pool = none
  drains : ∀ id p d, s.pools.get? id = some p → p.drain = some d → ∃ job link,
    s.calls.get? d.call = some (.reconciling job (.draining link)) ∧ link.pool = id
  undrained : ∀ call pool, s.calls.get? call ≠ some (.draining pool)

/-- The pools are kept well, and none is closed further than before. -/
structure Calm (s s' : Station) : Prop where
  housed : s'.Housed
  doors : ∀ id, (s'.pools.get? id).map Pool.door = (s.pools.get? id).map Pool.door
  workless : ∀ call, s.work? call = none → s'.work? call = none

theorem Calm.refl (h : s.Housed) : Calm s s := ⟨h, fun _ => rfl, fun _ hnone => hnone⟩

theorem Calm.trans (h : Calm s s') (h' : Calm s' s'') : Calm s s'' :=
  ⟨h'.housed, fun id => (h'.doors id).trans (h.doors id),
    fun call hnone => h'.workless call (h.workless call hnone)⟩

/-- A call that is known stays so. -/
theorem not_isNew_of_calls (h : s.calls.get? call = some activity) : ¬ s.IsNew call := by
  intro hnew
  rw [hnew.1] at h
  contradiction

/-! ## Calls come and go -/

/-- Nothing happens to pools, sessions and calls. -/
theorem calm_of_same (h : s.Housed) (hpools : s'.pools = s.pools) (hown : s'.own = s.own)
    (hcalls : s'.calls = s.calls) (hanswers : s'.answers = s.answers) : Calm s s' := by
  refine ⟨⟨?_, ?_, ?_, ?_, ?_⟩, fun id => by rw [hpools], ?_⟩
  · rw [hpools]
    exact h.pools
  · intro id p call hp hnew
    rw [hpools] at hp
    rw [IsNew, hcalls, hanswers] at hnew
    exact h.fresh id p call hp hnew
  · rw [hown]
    exact h.guests
  · rw [hpools, hcalls]
    exact h.drains
  · rw [hcalls]
    exact h.undrained
  · intro call hnone
    rw [work?, hcalls]
    exact hnone

/-- One call starts, goes on or is over, and took no link down at the moment. -/
theorem housed_of_call (h : s.Housed) (hpools : s'.pools = s.pools) (hown : s'.own = s.own)
    (hothers : ∀ c, c ≠ call → s'.calls.get? c = s.calls.get? c)
    (hanswers : ∀ e ∈ s.answers, e ∈ s'.answers)
    (hknown : s'.calls.get? call ≠ none ∨ ∃ a, (call, a) ∈ s'.answers)
    (hbefore : ∀ job link, s.calls.get? call ≠ some (.reconciling job (.draining link)))
    (hafter : ∀ pool, s'.calls.get? call ≠ some (.draining pool)) : s'.Housed := by
  have hne : ∀ {c}, s'.IsNew c → c ≠ call := by
    rintro c hnew rfl
    rcases hknown with hcall | ⟨a, ha⟩
    · exact hcall hnew.1
    · exact hnew.2 _ ha rfl
  refine ⟨?_, ?_, ?_, ?_, ?_⟩
  · rw [hpools]
    exact h.pools
  · intro id p c hp hnew
    rw [hpools] at hp
    refine h.fresh id p c hp ⟨(hothers c (hne hnew)).symm.trans hnew.1, fun e he => ?_⟩
    exact hnew.2 e (hanswers e he)
  · rw [hown]
    exact h.guests
  · intro id p d hp hdrain
    rw [hpools] at hp
    obtain ⟨job, link, hcall, hlink⟩ := h.drains id p d hp hdrain
    have hother : d.call ≠ call := fun heq => hbefore job link (heq ▸ hcall)
    exact ⟨job, link, (hothers d.call hother).trans hcall, hlink⟩
  · intro c pool hc
    by_cases heq : c = call
    · exact hafter pool (heq ▸ hc)
    · exact h.undrained c pool ((hothers c heq).symm.trans hc)

theorem calm_of_call (h : s.Housed) (hpools : s'.pools = s.pools) (hown : s'.own = s.own)
    (hothers : ∀ c, c ≠ call → s'.calls.get? c = s.calls.get? c)
    (hanswers : ∀ e ∈ s.answers, e ∈ s'.answers)
    (hknown : s'.calls.get? call ≠ none ∨ ∃ a, (call, a) ∈ s'.answers)
    (hbefore : ∀ job link, s.calls.get? call ≠ some (.reconciling job (.draining link)))
    (hafter : ∀ pool, s'.calls.get? call ≠ some (.draining pool))
    (hwork : s.work? call = none → s'.work? call = none) : Calm s s' := by
  refine ⟨housed_of_call h hpools hown hothers hanswers hknown hbefore hafter,
    fun id => by rw [hpools], fun c hnone => ?_⟩
  by_cases heq : c = call
  · rw [heq] at hnone ⊢
    exact hwork hnone
  · rw [work?, hothers c heq]
    exact hnone

theorem calm_wake (h : s.Housed) (t : Task) : Calm s (s.wake t) := by
  unfold wake
  split
  · exact .refl h
  · exact calm_of_same h rfl rfl rfl rfl

theorem calm_answer (h : s.Housed) (call : CallId) (a : Answer) : Calm s (s.answer call a) := by
  refine ⟨⟨h.pools, ?_, h.guests, h.drains, h.undrained⟩, fun _ => rfl, fun _ hnone => hnone⟩
  intro id p c hp hnew
  exact h.fresh id p c hp ⟨hnew.1, fun e he => hnew.2 e (List.mem_append_left _ he)⟩

theorem calm_finish (h : s.Housed)
    (hcall : ∀ job link, s.calls.get? call ≠ some (.reconciling job (.draining link)))
    (a : Answer) : Calm s (s.finish call a) := by
  have hget : ∀ c, (s.finish call a).calls.get? c = if c = call then none else s.calls.get? c :=
    fun c => Roster.get?_erase _ _ _
  refine calm_of_call h rfl rfl (fun c hc => (hget c).trans (if_neg hc))
    (fun e he => List.mem_append_left _ he) (.inr ⟨a, List.mem_append_right _ List.mem_cons_self⟩)
    hcall ?_ ?_
  · intro pool hc
    rw [hget, if_pos rfl] at hc
    contradiction
  · intro _
    rw [work?, hget, if_pos rfl]
    rfl

/-- What work a call does not do, it does not do as a call that takes a link down. -/
theorem not_draining_of_work (h : s.work? call = none) (job : Job) (link : Link) :
    s.calls.get? call ≠ some (.reconciling job (.draining link)) := by
  intro hcall
  rw [work_of_calls hcall] at h
  contradiction

/-- A call is at something else. -/
theorem not_draining_of_calls (h : s.calls.get? call = some activity)
    (hactivity : ∀ job link, activity ≠ .reconciling job (.draining link)) (job : Job)
    (link : Link) : s.calls.get? call ≠ some (.reconciling job (.draining link)) := by
  intro hcall
  exact hactivity job link (Option.some.inj (h.symm.trans hcall))

theorem calm_putCall (h : s.Housed)
    (hcall : ∀ job link, s.calls.get? call ≠ some (.reconciling job (.draining link)))
    (hactivity : ∀ pool, activity ≠ .draining pool)
    (hwork : s.work? call = none → activity.work? = none) :
    Calm s (s.putCall call activity) := by
  have hget : ∀ c, (s.putCall call activity).calls.get? c =
      if c = call then some activity else s.calls.get? c := fun c => Roster.get?_put _ _ _ _
  refine calm_of_call h rfl rfl (fun c hc => (hget c).trans (if_neg hc)) (fun e he => he)
    (.inl ?_) hcall ?_ ?_
  · rw [hget, if_pos rfl]
    exact Option.some_ne_none _
  · intro pool hc
    rw [hget, if_pos rfl] at hc
    exact hactivity pool (Option.some.inj hc)
  · intro hnone
    rw [work?, hget, if_pos rfl]
    exact hwork hnone

theorem calm_startCall (h : s.Housed) (hnew : s.IsNew call) (hactivity : ∀ pool,
    activity ≠ .draining pool) (hwork : activity.work? = none) :
    Calm s (s.startCall call activity) := by
  have hput := calm_putCall h (not_draining_of_work (work_of_new hnew)) hactivity fun _ => hwork
  exact hput.trans (calm_wake hput.housed _)

/-- A call that has started is known, and does no work on the links. -/
theorem known_startCall (s : Station) (call : CallId) (activity : Activity) :
    (s.startCall call activity).calls.get? call = some activity := by
  have hput : (s.putCall call activity).calls.get? call = some activity :=
    (Roster.get?_put _ _ _ _).trans (if_pos rfl)
  unfold startCall wake
  split
  · exact hput
  · exact hput

/-! ## What pools ask for -/

theorem calm_lent (h : s.Housed) (call : CallId) (id : Nat) : Calm s (s.lent call id) := by
  unfold lent
  split
  · rename_i hcall
    exact calm_finish h (not_draining_of_calls hcall fun _ _ heq => by contradiction) _
  · rename_i hcall
    exact calm_putCall h (not_draining_of_calls hcall fun _ _ heq => by contradiction)
      (fun _ heq => by contradiction) fun _ => rfl
  · exact .refl h

/-- The end of a drain is told to a call for which none goes on any more. -/
theorem calm_drained (h : s.Housed) (call : CallId) (hover : ∀ id p d, s.pools.get? id = some p →
    p.drain = some d → d.call ≠ call) : Calm s (s.drained call) := by
  unfold drained
  split
  · rename_i pool hcall
    exact absurd hcall (h.undrained call pool)
  · rename_i job link hcall
    -- No drain goes on for the call, so whatever it was at does not matter to those that do.
    have hget : ∀ c, (s.putCall call (.reconciling job (.drained link))).calls.get? c =
        if c = call then some (.reconciling job (.drained link)) else s.calls.get? c :=
      fun c => Roster.get?_put _ _ _ _
    refine ⟨⟨h.pools, ?_, h.guests, ?_, ?_⟩, fun _ => rfl, ?_⟩
    · intro id p c hp hnew
      refine h.fresh id p c hp ⟨?_, hnew.2⟩
      have hnone := hnew.1
      rw [hget] at hnone
      split at hnone
      · contradiction
      · exact hnone
    · intro id p d hp hdrain
      obtain ⟨job', link', hd, hlink⟩ := h.drains id p d hp hdrain
      exact ⟨job', link', ((hget _).trans (if_neg (hover id p d hp hdrain))).trans hd, hlink⟩
    · intro c pool hc
      rw [hget] at hc
      split at hc
      · have heq := Option.some.inj hc
        contradiction
      · exact h.undrained c pool hc
    · intro c hnone
      rw [work?, hget]
      split
      · rename_i heq
        rw [heq, work_of_calls hcall] at hnone
        contradiction
      · exact hnone
  · exact .refl h

/-- What is a pool's own affair, and refuses nobody who works on the links. -/
def Harmless (s : Station) (act : PoolAct) : Prop :=
  act.isOwn = true ∧ ∀ c ∈ act.refused?, s.work? c = none

theorem Harmless.calm {act : PoolAct} (h : s.Harmless act) (hcalm : Calm s s') :
    s'.Harmless act :=
  ⟨h.1, fun c hc => hcalm.workless c (h.2 c hc)⟩

theorem calm_doPoolAct (h : s.Housed) (id : PoolId) {act : PoolAct} (hact : s.Harmless act) :
    Calm s (doPoolAct id s act) := by
  obtain ⟨hown, hrefused⟩ := hact
  cases act with
  | freeIn | drained => contradiction
  | hangUp line => exact calm_of_same h rfl rfl rfl rfl
  | wake waiter =>
    cases waiter with
    | caller call => exact calm_wake h _
    | drainer =>
      unfold doPoolAct doOwnAct
      dsimp only
      split
      · exact calm_wake h _
      · exact .refl h
  | wakeUpkeep => exact calm_wake h _
  | lent call session => exact calm_lent h call session
  | refused call fault =>
    exact calm_finish h (not_draining_of_work (hrefused call rfl)) (.fault fault)

theorem calm_foldl (h : s.Housed) (id : PoolId) {acts : List PoolAct}
    (hacts : ∀ act ∈ acts, s.Harmless act) : Calm s (acts.foldl (doPoolAct id) s) := by
  induction acts generalizing s with
  | nil => exact .refl h
  | cons act rest ih =>
    have hfirst := calm_doPoolAct h id (hacts act List.mem_cons_self)
    refine hfirst.trans (ih hfirst.housed fun a ha => ?_)
    exact (hacts a (List.mem_cons_of_mem act ha)).calm hfirst

/-- What a pool asks for that keeps to itself is harmless, if it refuses nobody who works on the
links. -/
theorem harmless_of_discreet {p q : Pool} (hdone : p.acts = []) (hdiscreet : Pool.Discreet p q)
    (hrefused : ∀ c ∈ q.refused, s.work? c = none) : ∀ act ∈ q.acts, s.Harmless act := by
  intro act hact
  refine ⟨?_, fun c hc => hrefused c (List.mem_filterMap.mpr ⟨act, hact, hc⟩)⟩
  rcases hdiscreet.acts act hact with hold | hown
  · have hnone : act ∈ p.acts := hold
    rw [hdone] at hnone
    contradiction
  · exact hown

/-! ## What pools do -/

/-- A pool is put back after an event. -/
theorem housed_putBack (h : s.Housed) {p : Pool} (hp : s.pools.get? id = some p)
    {event : PoolEvent} (hguest : ∀ g ∈ event.guest?, g.pool = none)
    (hcaller : ∀ c ∈ event.caller?, ¬ s.IsNew c)
    (hclosed : (p.perform event).drain ≠ none → (p.perform event).isClosed = true)
    (hdrain : ∀ d, (p.perform event).drain = some d → ∃ job link,
      s.calls.get? d.call = some (.reconciling job (.draining link)) ∧ link.pool = id) :
    (s.putBack id (p.perform event)).Housed := by
  have hget : ∀ other, (s.putBack id (p.perform event)).pools.get? other =
      if other = id then some { p.perform event with acts := [] } else s.pools.get? other :=
    fun other => Roster.get?_put _ _ _ _
  refine ⟨?_, ?_, h.guests, ?_, h.undrained⟩
  · intro other q hq
    rw [hget] at hq
    split at hq
    · rename_i heq
      obtain rfl := Option.some.inj hq
      exact heq ▸ (h.pools id p hp).perform hguest hclosed
    · exact h.pools other q hq
  · intro other q c hq hnew
    rw [hget] at hq
    split at hq
    · obtain rfl := Option.some.inj hq
      have hfresh : (p.perform event).IsFresh c := Pool.isFresh_perform (h.pools id p hp).apart
        (h.fresh id p c hp hnew) fun hc => hcaller c hc hnew
      exact ⟨hfresh.1, hfresh.2⟩
    · exact h.fresh other q c hq hnew
  · intro other q d hq hd
    rw [hget] at hq
    split at hq
    · rename_i heq
      obtain rfl := Option.some.inj hq
      obtain ⟨job, link, hcall, hlink⟩ := hdrain d hd
      exact ⟨job, link, hcall, hlink.trans heq.symm⟩
    · exact h.drains other q d hq hd

/-- Letting a pool do anything but what a drain does. Who looks for a session has done so once and
does no work on the links; guests come from no pool. -/
theorem calm_onPool (h : s.Housed) (id : PoolId) {f : Pool → Pool} (event : PoolEvent)
    (hf : ∀ p, s.pools.get? id = some p → f p = p.perform event)
    (hdrains : event.isDrains = false) (hguest : ∀ g ∈ event.guest?, g.pool = none)
    (hcaller : ∀ c ∈ event.caller?, ¬ s.IsNew c ∧ s.work? c = none) :
    Calm s (s.onPool id f) := by
  unfold onPool
  split
  · exact .refl h
  · rename_i p hp
    have hkept := h.pools id p hp
    have hdoor := Pool.door_perform hkept hdrains hguest
    have hclosing : (p.perform event).closing = p.closing := congrArg (·.2.2) hdoor
    rw [hf p hp]
    have hput : Calm s (s.putBack id (p.perform event)) := by
      refine ⟨housed_putBack h hp hguest (fun c hc => (hcaller c hc).1) ?_ ?_, ?_,
        fun _ hnone => hnone⟩
      · rw [Pool.drain_of_closing hclosing, Pool.isClosed_of_closing hclosing]
        exact hkept.closed
      · intro d hd
        rw [Pool.drain_of_closing hclosing] at hd
        exact h.drains id p d hp hd
      · intro other
        show ((s.pools.put id { p.perform event with acts := [] }).get? other).map Pool.door = _
        rw [Roster.get?_put]
        split
        · rename_i heq
          rw [heq, hp]
          exact congrArg some hdoor
        · rfl
    refine hput.trans (calm_foldl hput.housed id ?_)
    refine harmless_of_discreet hkept.done (Pool.discreet_perform hkept.own hdrains hguest) ?_
    intro c hc
    rcases Pool.refused_perform c hc with hold | hown
    · rw [Pool.refused, hkept.done] at hold
      contradiction
    · exact (hcaller c hown).2

/-- What a pool does by itself. -/
theorem calm_onPool_own (h : s.Housed) (id : PoolId) (event : PoolEvent)
    (hdrains : event.isDrains = false) (hguest : event.guest? = none)
    (hcaller : event.caller? = none) : Calm s (s.onPool id (·.perform event)) := by
  refine calm_onPool h id event (fun _ _ => rfl) hdrains ?_ ?_
  · rw [hguest]
    exact fun _ hg => by contradiction
  · rw [hcaller]
    exact fun _ hc => by contradiction

/-- What a pool does for a caller that looks for a session. -/
theorem calm_onPool_caller (h : s.Housed) (id : PoolId) (event : PoolEvent)
    (hdrains : event.isDrains = false) (hguest : event.guest? = none)
    (hcaller : event.caller? = some call) (hcall : s.calls.get? call = some activity)
    (hactivity : activity.work? = none) : Calm s (s.onPool id (·.perform event)) := by
  refine calm_onPool h id event (fun _ _ => rfl) hdrains ?_ ?_
  · rw [hguest]
    exact fun _ hg => by contradiction
  · intro c hc
    obtain rfl := Option.some.inj (hcaller.symm.trans hc)
    exact ⟨not_isNew_of_calls hcall, (work_of_calls hcall).trans hactivity⟩

end Station

end BroadcastLink
