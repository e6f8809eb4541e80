import BroadcastLink.Proofs.Station.Closing
import BroadcastLink.Proofs.Station.Deeds

/-!
# Every event keeps the pools well

As long as callers drain no pool, whatever happens to a station lets the pools it has fare as drains
have them fare: a deed of a call on the links closes at most the pool of the link it takes down, a
new link gets a new pool, and everything else leaves the pools as far closed as they are.
-/

namespace BroadcastLink

/-- Does a caller drain a pool or shut a channel down, past the registry? -/
def StationEvent.closes : StationEvent → Bool
  | .drain _ _ | .stop _ _ => true
  | _ => false

theorem StationEvent.shutDown_of_not_closes {event : StationEvent} (h : event.closes = false) :
    event.shutDown? = none := by
  cases event with
  | stop => contradiction
  | _ => rfl

namespace Station

variable {low floor : Nat} {s s' : Station} {call : CallId} {job : Job} {stage : JobStage}
  {studio : Studio} {link : Link}

/-! ## Deeds -/

theorem calm_onRegistry (h : s.Housed) (f : Registry → Registry) : Calm s (s.onRegistry f) :=
  calm_of_same h rfl rfl rfl rfl

/-- A call at work comes to another stage of it. -/
theorem calm_putJob (h : s.Housed) (hwork : s.work? call ≠ none)
    (hcall : ∀ job link, s.calls.get? call ≠ some (.reconciling job (.draining link)))
    (job : Job) (stage : JobStage) : Calm s (s.putJob call job stage) :=
  calm_putCall h hcall (fun _ heq => by contradiction) fun hnone => absurd hnone hwork

theorem calm_finishJob (h : s.Housed)
    (hcall : ∀ job link, s.calls.get? call ≠ some (.reconciling job (.draining link)))
    (a : Answer) : Calm s (s.finishJob call a) := by
  obtain ⟨ready, hgiven⟩ := exists_ready_giveUpTurn s call
  have hcalm : Calm s (s.giveUpTurn call) := by
    rw [hgiven]
    exact calm_of_same h rfl rfl rfl rfl
  refine hcalm.trans (calm_finish hcalm.housed ?_ a)
  rw [hgiven]
  exact hcall

/-- A new link brings a new pool, which is kept well. -/
theorem housed_insertLink (h : s.Housed) (studio : Studio) : (s.insertLink studio).Housed := by
  obtain ⟨ready, hinsert⟩ := exists_ready_insertLink s studio
  rw [hinsert]
  refine ⟨?_, ?_, h.guests, ?_, h.undrained⟩
  · intro id p hp
    replace hp := (pools_withLink s studio id).symm.trans hp
    split at hp
    · rename_i heq
      obtain rfl := Option.some.inj hp
      exact heq ▸ Pool.inHouse_forStudio _ studio _ s.now
    · exact h.pools id p hp
  · intro id p call hp hnew
    replace hp := (pools_withLink s studio id).symm.trans hp
    split at hp
    · obtain rfl := Option.some.inj hp
      exact ⟨rfl, rfl⟩
    · exact h.fresh id p call hp hnew
  · intro id p d hp hd
    replace hp := (pools_withLink s studio id).symm.trans hp
    split at hp
    · obtain rfl := Option.some.inj hp
      contradiction
    · exact h.drains id p d hp hd

/-- The pools that there are do not notice a new link. -/
theorem tends_insertLink (hground : s.Ground) (hcalm : Calm (s.insertLink studio) s') :
    Tends s s' := by
  have hget (id : PoolId) : (s.insertLink studio).pools.get? id =
      if id = s.nextPool then some (.forStudio s.nextPool studio s.registry.settings.pool s.now)
      else s.pools.get? id := by
    obtain ⟨ready, hinsert⟩ := exists_ready_insertLink s studio
    rw [hinsert]
    exact pools_withLink s studio id
  refine ⟨hcalm.housed, fun id p hp => ?_, fun id q hp hq => ?_⟩
  · have hne : id ≠ s.nextPool :=
      Nat.ne_of_lt (hground.pools id fun hnone => by rw [hp] at hnone; contradiction)
    exact hcalm.tends.pools id p ((hget id).trans ((if_neg hne).trans hp))
  · by_cases heq : id = s.nextPool
    · obtain ⟨r, hr, hdoor⟩ := hcalm.pool_eq_some ((hget id).trans (if_pos heq))
      obtain rfl := Option.some.inj (hr.symm.trans hq)
      exact Pool.isClosed_of_closing (Pool.closing_of_door hdoor)
    · rw [hcalm.pool_eq_none ((hget id).trans ((if_neg heq).trans hp))] at hq
      contradiction

/-- Resizing a pool ends no call's work. -/
theorem work_resize (htidy : s.Tidy) (hwork : s.work? call ≠ none) (id : PoolId) (min max : Nat) :
    (s.onPool id (·.resize min max s.now)).work? call ≠ none := by
  cases hp : s.pools.get? id with
  | none =>
    rw [onPool, hp]
    exact hwork
  | some p =>
    rw [(aside_resizePool htidy hp min max).work]
    exact hwork

theorem tends_deed (h : s.Housed) (hground : s.Ground) (hwork : s.work? call ≠ none)
    (hcall : ∀ job link, s.calls.get? call ≠ some (.reconciling job (.draining link)))
    (hdeed : Deed call s s') : Tends s s' := by
  have hinserted (studio : Studio) : (s.insertLink studio).calls = s.calls := by
    obtain ⟨ready, hinsert⟩ := exists_ready_insertLink s studio
    rw [hinsert]
    rfl
  cases hdeed with
  | @goesOn f job stage =>
    have hcalm := calm_onRegistry h f
    exact (hcalm.trans (calm_putJob hcalm.housed hwork hcall job stage)).tends
  | @ends f a =>
    have hcalm := calm_onRegistry h f
    exact (hcalm.trans (calm_finishJob hcalm.housed hcall a)).tends
  | @takesDown f job link =>
    have hcalm := calm_onRegistry h f
    exact (closes_takeDown hcalm.housed hwork hcall job link).toTends.after hcalm
  | @inserts studio w =>
    refine tends_insertLink hground (calm_putJob (housed_insertLink h studio) ?_ ?_ _ .next)
    · rw [work?, hinserted]
      exact hwork
    · rw [hinserted]
      exact hcall
  | @insertsLast studio a =>
    refine tends_insertLink hground (calm_finishJob (housed_insertLink h studio) ?_ a)
    rw [hinserted]
    exact hcall
  | @resizes name link studio min max w hlink =>
    let noted := s.onRegistry (·.setState name .reconfiguring)
    have hnoted : Calm s noted := calm_onRegistry h _
    have hresized : Calm noted (noted.onPool link.pool (·.resize min max s.now)) :=
      calm_onPool_own hnoted.housed link.pool (.resize min max s.now) rfl rfl rfl
    have hreplaced := calm_onRegistry hresized.housed
      (·.replaceLink name { link with studio := studio })
    refine (((hnoted.trans hresized).trans hreplaced).trans
      (calm_putJob hreplaced.housed ?_ ?_ _ .next)).tends
    · exact work_resize (s := noted) hground.tidy hwork link.pool min max
    · intro job other hdraining
      have honward : Onward Nobody Nobody noted (noted.onPool link.pool (·.resize min max s.now)) :=
        onward_onPool noted link.pool _
      obtain ⟨stage, hbefore, hwaited⟩ := honward.jobs call job _ hdraining
      cases hwaited
      exact hcall job other hbefore

/-! ## Starting and stopping -/

theorem tends_startJob (h : s.Housed) (hnew : s.IsNew call) (job : Job) :
    Tends s (s.startJob call job) := by
  let asked := s.onRegistry fun r => { r with turn := r.turn.request call }
  have hget : ∀ c, (asked.putJob call job .queued).calls.get? c =
      if c = call then some (.reconciling job .queued) else s.calls.get? c :=
    fun c => Roster.get?_put _ _ _ _
  have hput : (asked.putJob call job .queued).Housed := by
    refine housed_of_call h rfl rfl (fun c hne => (hget c).trans (if_neg hne)) (fun _ he => he)
      (.inl ?_) (not_draining_of_work (work_of_new hnew)) fun pool hpool => ?_
    · rw [hget, if_pos rfl]
      exact Option.some_ne_none _
    · rw [hget, if_pos rfl] at hpool
      have heq := Option.some.inj hpool
      contradiction
  have hwake := calm_wake hput (.call call)
  exact ⟨hwake.housed, hwake.tends.pools, hwake.tends.news⟩

/-- A call that takes a link down stops the channel of the link, and drains nothing any more. -/
theorem tends_stopLink (h : s.Housed)
    (hcall : s.calls.get? call = some (.reconciling job (.drained link))) :
    Tends s (s.stopLink call job link) := by
  have hother := not_draining_of_calls hcall fun _ _ heq => by
    have hstage := (Activity.reconciling.inj heq).2
    contradiction
  have hwork : s.work? call ≠ none := by
    rw [work_of_calls hcall]
    exact Option.some_ne_none _
  have hput := calm_putJob h hwork hother job (.stopping link)
  exact (hput.trans (calm_onChannel hput.housed link.channel _)).tends

/-! ## Going on -/

theorem tends_resumeJob (h : s.Housed) (horderly : s.Orderly low floor)
    (haccounted : s.Accounted Nobody)
    (hcall : s.calls.get? call = some (.reconciling job stage)) :
    Tends s (s.resumeJob call job stage) := by
  have hwork : s.work? call ≠ none := by
    rw [work_of_calls hcall]
    exact Option.some_ne_none _
  have hdeed {s' : Station} (hstage : ∀ link, stage ≠ .draining link) (hdeed : Deed call s s') :
      Tends s s' := by
    refine tends_deed h horderly.ground hwork (not_draining_of_calls hcall fun _ link heq => ?_)
      hdeed
    exact hstage link (Activity.reconciling.inj heq).2
  cases stage with
  | queued =>
    unfold resumeJob
    dsimp only
    split
    · exact hdeed (fun _ heq => by contradiction) (deed_beginJob s call job)
    · exact (Calm.refl h).tends
  | next => exact hdeed (fun _ heq => by contradiction) (deed_jobNext haccounted horderly hcall)
  | draining link => exact tends_resumeDrain h link.pool
  | drained link => exact tends_stopLink h hcall
  | stopping link => exact (calm_onChannel h link.channel _).tends
  | stopped link =>
    exact hdeed (fun _ heq => by contradiction) (deed_jobStopped haccounted horderly hcall)
  | launching studio => exact (Calm.refl h).tends
  | launched studio fault =>
    exact hdeed (fun _ heq => by contradiction) (deed_jobLaunched haccounted horderly hcall)

theorem tends_resumeCall (h : s.Housed) (horderly : s.Orderly low floor)
    (haccounted : s.Accounted Nobody) (call : CallId) : Tends s (s.resumeCall call) := by
  unfold resumeCall
  split
  · rename_i pool hcall
    exact (calm_onPool_caller h pool (.resume call s.now) rfl rfl rfl hcall rfl).tends
  · rename_i pool _ _ hcall
    exact (calm_onPool_caller h pool (.resume call s.now) rfl rfl rfl hcall rfl).tends
  · exact (calm_beginExecution h call).tends
  · rename_i hcall
    exact absurd hcall (h.undrained call _)
  · exact (calm_onChannel h _ _).tends
  · exact (calm_onChannel h _ _).tends
  · rename_i hcall
    exact tends_resumeJob h horderly haccounted hcall
  · exact (Calm.refl h).tends

theorem tends_resume (h : s.Housed) (horderly : s.Orderly low floor)
    (haccounted : s.Accounted Nobody) (task : Task) : Tends s (s.resume task) := by
  cases task with
  | call call => exact tends_resumeCall h horderly haccounted call
  | upkeep pool => exact (calm_onPool_own h pool (.tend s.now) rfl rfl rfl).tends
  | listener channel => exact (calm_onChannel h channel _).tends

theorem tends_callExpired (h : s.Housed) (call : CallId) : Tends s (s.callExpired call) := by
  unfold callExpired
  split
  · rename_i hcall
    exact (calm_borrowOverdue h hcall rfl _).tends
  · rename_i hcall
    exact (calm_borrowOverdue h hcall rfl _).tends
  · exact (calm_executionMoved h call _).tends
  · exact (calm_connected h call _).tends
  · exact (calm_talked h call _).tends
  · exact tends_drainOverdue h _
  · exact tends_drainOverdue h _
  · exact (calm_onChannel h _ _).tends
  · exact (Calm.refl h).tends

theorem tends_expire (h : s.Housed) (task : Task) : Tends s (s.expire task) := by
  cases task with
  | call call => exact tends_callExpired h call
  | upkeep pool => exact (calm_onPool_own h pool (.upkeepExpired s.now) rfl rfl rfl).tends
  | listener channel => exact (calm_onChannel h channel _).tends

/-! ## Every event -/

theorem tends_configure (h : s.Housed) (hnew : s.IsNew call) (desired : Fleet) :
    Tends s (s.configure call desired) := by
  unfold configure
  split
  · exact (calm_answer h call _).tends
  · exact tends_startJob h hnew _

/-- A call is made only if its number is new. -/
theorem tends_ifNew (h : s.Housed) (htends : s.IsNew call → Tends s s') :
    Tends s (if s.IsNew call then s' else s) := by
  split
  · rename_i hnew
    exact htends hnew
  · exact (Calm.refl h).tends

/-- Every event lets the pools fare as drains have them fare, unless callers drain a pool or shut a
channel down. -/
theorem tends_perform (h : s.Housed) (horderly : s.Orderly low floor)
    (haccounted : s.Accounted Nobody) {event : StationEvent} (hcloses : event.closes = false) :
    Tends s (s.perform event) := by
  cases event with
  | drain | stop => contradiction
  | configure call desired => exact tends_ifNew h fun hnew => tends_configure h hnew desired
  | launch call name => exact tends_ifNew h fun hnew => tends_startJob h hnew _
  | shutdown call => exact tends_ifNew h fun hnew => tends_startJob h hnew _
  | execute call studio commands options =>
    exact tends_ifNew h fun hnew => (calm_execute h hnew studio commands options).tends
  | acquire call pool =>
    exact tends_ifNew h fun hnew =>
      (calm_startBorrow h hnew pool (fun _ heq => by contradiction) rfl).tends
  | connect call id host port timeout patience =>
    exact tends_ifNew h fun hnew =>
      (calm_startCall h hnew (fun _ heq => by contradiction) rfl).tends
  | send call held commands =>
    exact tends_ifNew h fun hnew => (calm_talk h hnew held .commands (.sendOn · commands)
      (fun _ _ => Session.later_of_send) (fun _ => ⟨rfl, rfl, rfl⟩) fun _ _ => rfl).tends
  | check call held timeout =>
    exact tends_ifNew h fun hnew => (calm_talk h hnew held .check (.checkOn · timeout)
      (fun _ _ => Session.later_of_check) (fun _ => ⟨rfl, rfl, rfl⟩) fun _ _ => rfl).tends
  | invalidate held => exact (calm_invalidate h held).tends
  | release held pool => exact (calm_release h held pool).tends
  | destroy held pool => exact (calm_destroy h held pool).tends
  | lose held => exact (calm_lose h held).tends
  | realtime call channel commands =>
    exact tends_ifNew h fun hnew => (calm_realtime h hnew channel commands false).tends
  | cancel call =>
    rw [perform]
    split
    · rename_i hwork
      exact (calm_cancel h (Option.isNone_iff_eq_none.mp hwork)).tends
    · exact (Calm.refl h).tends
  | clear pool => exact (calm_onPool_own h pool .clear rfl rfl rfl).tends
  | letGo kept => exact (calm_letGoUnheld h kept).tends
  | resume task => exact tends_resume h horderly haccounted task
  | hear task outcome => exact (calm_hear h task outcome).tends
  | expire task => exact tends_expire h task
  | clock now =>
    have hlater : Calm s { s with now := now } := calm_of_same h rfl rfl rfl rfl
    exact hlater.tends

end Station

end BroadcastLink
