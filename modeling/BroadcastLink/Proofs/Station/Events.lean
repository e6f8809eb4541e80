import BroadcastLink.Proofs.Station.Aside

/-!
# What happens to a station

Everything that can happen to a station, in any order: calls are made and given up, sessions are
given back, and tasks go on, get what they want or run out of time. Calls that change the set of
links are seen through once they are made. An event is aside, or it starts such a call, or it takes
one a piece further.
-/

namespace BroadcastLink

/-- What happens to a station. -/
inductive StationEvent where
  | configure (call : CallId) (desired : Fleet)
  | launch (call : CallId) (name : String)
  | shutdown (call : CallId)
  | execute (call : CallId) (studio : String) (commands : Commands) (options : ExecuteOptions)
  | acquire (call : CallId) (pool : PoolId)
  | connect (call : CallId) (id : Nat) (host : String) (port : UInt16)
      (timeout patience : Duration)
  | send (call : CallId) (held : Held) (commands : List String)
  | check (call : CallId) (held : Held) (timeout : Duration)
  | invalidate (held : Held)
  | release (held : Held) (pool : Option PoolId)
  | destroy (held : Held) (pool : Option PoolId)
  | lose (held : Held)
  | drain (call : CallId) (pool : PoolId)
  | realtime (call : CallId) (channel : ChannelId) (commands : List String)
  | stop (call : CallId) (channel : ChannelId)
  | cancel (call : CallId)
  | clear (pool : PoolId)
  | letGo (kept : List PoolId)
  | resume (task : Task)
  | hear (task : Task) (outcome : Outcome)
  | expire (task : Task)
  | clock (now : Instant)

/-- Is a call made that changes the set of links? -/
def StationEvent.changesLinks : StationEvent → Bool
  | .configure _ _ | .launch _ _ | .shutdown _ => true
  | _ => false

/-- A call's work on the links as it starts. -/
def Job.IsFresh : Job → Prop
  | .configure w => w = { desired := w.desired } ∧ w.desired.validate = .ok ()
  | .launch _ => True
  | .shutdown rest => rest = []

namespace Station

variable {s s' : Station} {call : CallId} {event : StationEvent}

/-- A call of this number was never made. -/
def IsNew (s : Station) (call : CallId) : Prop :=
  s.calls.get? call = none ∧ ∀ e ∈ s.answers, e.1 ≠ call

instance (s : Station) (call : CallId) : Decidable (s.IsNew call) :=
  inferInstanceAs (Decidable (_ ∧ _))

/-- One event. Calls are made once each, and one that changes the set of links is not given up. -/
def perform (s : Station) : StationEvent → Station
  | .configure call desired => if s.IsNew call then s.configure call desired else s
  | .launch call name => if s.IsNew call then s.launch call name else s
  | .shutdown call => if s.IsNew call then s.shutdown call else s
  | .execute call studio commands options =>
    if s.IsNew call then s.execute call studio commands options else s
  | .acquire call pool => if s.IsNew call then s.acquire call pool else s
  | .connect call id host port timeout patience =>
    if s.IsNew call then s.connect call id host port timeout patience else s
  | .send call held commands =>
    if s.IsNew call then s.talk call held .commands (·.send commands) else s
  | .check call held timeout =>
    if s.IsNew call then s.talk call held .check (·.check timeout) else s
  | .invalidate held => s.changeHeld held Session.invalidate
  | .release held pool => s.release held pool
  | .destroy held pool => s.destroy held pool
  | .lose held => s.lose held
  | .drain call pool => if s.IsNew call then s.drainPool call pool else s
  | .realtime call channel commands =>
    if s.IsNew call then s.realtime call channel commands false else s
  | .stop call channel => if s.IsNew call then s.stopChannel call channel else s
  | .cancel call => if (s.work? call).isNone then s.cancel call else s
  | .clear pool => s.onPool pool Pool.clear
  | .letGo kept => s.letGoUnheld kept
  | .resume task => s.resume task
  | .hear task outcome => s.hear task outcome
  | .expire task => s.expire task
  | .clock now => { s with now := now }

/-- Any number of events. -/
def run (s : Station) (events : List StationEvent) : Station := events.foldl perform s

/-- What an event comes to for the links: it is aside, or a call that changes them starts, begins
with its turn, does its next piece of work, or goes on after a link was taken down or a studio was
launched. -/
inductive Advance (s : Station) (event : StationEvent) : Station → Prop where
  | aside {s' : Station} (h : Aside s s') : Advance s event s'
  | starts {call : CallId} {job : Job} (hnew : s.IsNew call) (hfresh : job.IsFresh)
    (hchanges : event.changesLinks = true) : Advance s event (s.startJob call job)
  | begins {call : CallId} {job : Job} (hwork : s.work? call = some (job, .queued))
    (hturn : s.registry.turn.heldBy call = true) : Advance s event (s.beginJob call job)
  | next {call : CallId} {job : Job} (hwork : s.work? call = some (job, .next)) :
    Advance s event (s.jobNext call job)
  | stopped {call : CallId} {job : Job} {link : Link}
    (hwork : s.work? call = some (job, .down link)) : Advance s event (s.jobStopped call job)
  | launched {call : CallId} {job : Job} {studio : Studio} {fault : Option Fault}
    (hwork : s.work? call = some (job, .up studio)) :
    Advance s event (s.jobLaunched call job studio fault)

/-! ## Sessions in hand -/

theorem work_of_new (h : s.IsNew call) : s.work? call = none := by
  rw [work?, h.1]
  rfl

theorem aside_putHeld (htidy : s.Tidy) (held : Held) (session : Session) :
    Aside s (s.putHeld held session) := by
  cases held with
  | lent pool loan => exact aside_onPool_frame htidy fun _ => rfl
  | own call => exact aside_of_same rfl rfl rfl rfl rfl

theorem aside_changeHeld (htidy : s.Tidy) (held : Held) (f : Session → Session) :
    Aside s (s.changeHeld held f) := by
  unfold changeHeld
  split
  · exact aside_putHeld htidy held _
  · exact .refl s

theorem exchangeAnswer_ne_summary (purpose : Purpose) (outcome : Except Fault String)
    (summary : Summary) : exchangeAnswer purpose outcome ≠ .summary summary := by
  intro h
  unfold exchangeAnswer at h
  split at h
  · contradiction
  · split at h <;> contradiction

theorem aside_talk (htidy : s.Tidy) (hwork : s.work? call = none) (held : Held)
    (purpose : Purpose) (begin : Session → Begun) : Aside s (s.talk call held purpose begin) := by
  unfold talk
  split
  · exact .refl s
  · split
    · exact aside_answer s call (exchangeAnswer_ne_summary purpose _)
    · have hput := aside_putHeld htidy held ‹Session›
      exact hput.trans (aside_startCall ((hput.work call).trans hwork).symm)

theorem aside_talked (htidy : s.Tidy) (call : CallId) (stimulus : Stimulus) :
    Aside s (s.talked call stimulus) := by
  unfold talked
  split
  · rename_i held purpose hcall
    split
    · exact .refl s
    · rename_i session _
      have hput := aside_putHeld htidy held (session.react s.now stimulus).1
      dsimp only
      split
      · have hwork := (hput.work call).trans (work_of_calls hcall)
        exact hput.trans (aside_finish hwork (exchangeAnswer_ne_summary purpose _))
      · exact hput
  · exact .refl s

theorem aside_connected (s : Station) (call : CallId) (outcome : Except IoFault LineId) :
    Aside s (s.connected call outcome) := by
  unfold connected
  split
  · rename_i hcall
    have hwork := work_of_calls hcall
    split
    · rename_i id _ _ patience _ _ line
      have hown : Aside s { s with own := s.own.put call (.opened id line patience s.now) } :=
        aside_of_same rfl rfl rfl rfl rfl
      exact hown.trans (aside_finish ((hown.work call).trans hwork) fun _ h => by contradiction)
    · exact aside_finish hwork fun _ h => by contradiction
  · exact .refl s

theorem aside_handOver (htidy : s.Tidy) (call : CallId) (pool : Option PoolId)
    {take : Pool → Session → Pool} (htake : ∀ p session, (take p session).frame = p.frame) :
    Aside s (s.handOver call pool take) := by
  unfold handOver
  split
  · exact .refl s
  · rename_i session _
    have hgone : Aside s { s with own := s.own.erase call } := aside_of_same rfl rfl rfl rfl rfl
    dsimp only
    split
    · exact hgone.trans (aside_onPool_frame (hgone.tidy htidy) fun p => htake p session)
    · exact hgone.trans (aside_hangUp _ _)

theorem aside_release (htidy : s.Tidy) (held : Held) (pool : Option PoolId) :
    Aside s (s.release held pool) := by
  cases held with
  | lent id loan => exact aside_onPool_frame htidy fun p => Pool.frame_release p loan
  | own call => exact aside_handOver htidy call pool Pool.frame_takeBack

theorem aside_destroy (htidy : s.Tidy) (held : Held) (pool : Option PoolId) :
    Aside s (s.destroy held pool) := by
  cases held with
  | lent id loan => exact aside_onPool_frame htidy fun p => Pool.frame_destroyLoan p loan
  | own call => exact aside_handOver htidy call pool Pool.frame_destroy

theorem aside_lose (htidy : s.Tidy) (held : Held) : Aside s (s.lose held) := by
  cases held with
  | lent id loan => exact aside_onPool_frame htidy fun p => Pool.frame_loseLoan p loan
  | own call => exact aside_handOver htidy call none Pool.frame_destroy

/-! ## Calls on pools and channels -/

/-- A new call starts and has a pool act for it. -/
theorem aside_startOn (htidy : s.Tidy) (hwork : s.work? call = none) {activity : Activity}
    (hactivity : activity.work? = none) {id : PoolId} {f : Pool → Pool}
    (hf : ∀ p, Pool.Answers p (f p) call) :
    Aside s ((s.startCall call activity).onPool id f) := by
  have hstart : Aside s (s.startCall call activity) := aside_startCall (hactivity.trans hwork.symm)
  exact hstart.trans (aside_onPool_answers (hstart.tidy htidy) (fun p _ => hf p)
    ((hstart.work call).trans hwork))

theorem aside_drainPool (htidy : s.Tidy) (hwork : s.work? call = none) (pool : PoolId) :
    Aside s (s.drainPool call pool) := by
  have hstart : Aside s (s.startCall call (.draining pool)) := aside_startCall hwork.symm
  exact hstart.trans (aside_onPool (hstart.tidy htidy)
    fun p _ => Pool.onlyCloses_startDrain p call s.now)

theorem aside_realtime (hwork : s.work? call = none) (channel : ChannelId)
    (commands : List String) (forExecution : Bool) :
    Aside s (s.realtime call channel commands forExecution) := by
  have hstart : Aside s (s.startCall call (.writing channel forExecution)) :=
    aside_startCall hwork.symm
  unfold realtime
  dsimp only
  split
  · exact hstart
  · rename_i c hc
    split
    · rename_i d hd
      refine hstart.trans (aside_onChannel _ ?_)
      intro other hother
      obtain rfl := Option.some.inj (hc.symm.trans hother)
      exact Channel.target_sendRealtime hd
    · exact hstart.trans (aside_finish ((hstart.work call).trans hwork)
        fun _ h => by contradiction)

theorem aside_stopChannel (hwork : s.work? call = none) (channel : ChannelId) :
    Aside s (s.stopChannel call channel) := by
  have hstart : Aside s (s.startCall call (.stopping channel)) := aside_startCall hwork.symm
  exact hstart.trans (aside_onChannel _ fun c _ => Channel.target_shutdown c call)

theorem aside_execute (htidy : s.Tidy) (hwork : s.work? call = none) (studio : String)
    (commands : Commands) (options : ExecuteOptions) :
    Aside s (s.execute call studio commands options) := by
  unfold execute
  split
  · exact aside_answer s call fun _ h => by contradiction
  · split
    · exact aside_realtime hwork _ _ true
    · exact aside_startOn htidy hwork rfl fun p => Pool.answers_acquire p call s.now

/-! ## Executing commands -/

theorem executeAnswer_ne_summary (raw : Bool) (outcome : Except Fault String)
    (summary : Summary) : executeAnswer raw outcome ≠ .summary summary := by
  intro h
  unfold executeAnswer at h
  split at h <;> contradiction

theorem aside_executed (htidy : s.Tidy) (hwork : s.work? call = none) (pool : PoolId) (raw : Bool)
    (outcome : Except Fault String) : Aside s (s.executed call pool raw outcome) := by
  have hback : Aside s (s.onPool pool (·.release call)) :=
    aside_onPool_frame htidy fun p => Pool.frame_release p call
  exact hback.trans (aside_finish ((hback.work call).trans hwork)
    (executeAnswer_ne_summary raw outcome))

/-- A pool is replaced by what an exchange made of it. -/
theorem aside_replacePool (htidy : s.Tidy) {id : PoolId} {p q : Pool}
    (hp : s.pools.get? id = some p) (hframe : q.frame = p.frame) :
    Aside s (s.onPool id fun _ => q) := by
  refine aside_onPool htidy ?_
  intro r hr
  obtain rfl := Option.some.inj (hp.symm.trans hr)
  exact Pool.onlyCloses_of_frame hframe

theorem aside_beginExecution (htidy : s.Tidy) (call : CallId) :
    Aside s (s.beginExecution call) := by
  unfold beginExecution
  split
  · rename_i pool commands raw hcall
    have hwork := work_of_calls hcall
    split
    · rename_i q outcome hbegun
      obtain ⟨p, hp, hq⟩ := Option.map_eq_some_iff.mp hbegun
      have hframe : q.frame = p.frame := by
        have hbegin := Pool.frame_beginOn p call (·.send commands)
        rwa [hq] at hbegin
      have hput := aside_replacePool htidy hp hframe
      have hwork' := (hput.work call).trans hwork
      dsimp only
      split
      · exact hput.trans (aside_executed (hput.tidy htidy) hwork' pool raw _)
      · exact hput.trans (aside_putCall _ hwork'.symm)
    · exact .refl s
  · exact .refl s

theorem aside_executionMoved (htidy : s.Tidy) (call : CallId) (stimulus : Stimulus) :
    Aside s (s.executionMoved call stimulus) := by
  unfold executionMoved
  split
  · rename_i pool commands raw hcall
    have hwork := work_of_calls hcall
    split
    · rename_i q outcome hmoved
      obtain ⟨p, hp, hq⟩ := Option.map_eq_some_iff.mp hmoved
      have hframe : q.frame = p.frame := by
        have hhear := Pool.frame_hearLoan p call s.now stimulus
        rwa [hq] at hhear
      have hput := aside_replacePool htidy hp hframe
      dsimp only
      split
      · have hwork' := (hput.work call).trans hwork
        exact hput.trans (aside_executed (hput.tidy htidy) hwork' pool raw _)
      · exact hput
    · exact .refl s
  · exact .refl s

/-! ## Tasks -/

/-- A call that changes the set of links and waits for nothing goes on. -/
theorem advance_resumeJob (htidy : s.Tidy) {job : Job} {stage : JobStage}
    (hcall : s.calls.get? call = some (.reconciling job stage)) :
    Advance s event (s.resumeJob call job stage) := by
  have hwork := work_of_calls hcall
  cases stage with
  | queued =>
    unfold resumeJob
    dsimp only
    split
    · rename_i hturn
      exact .begins hwork hturn
    · exact .aside (.refl s)
  | next => exact .next hwork
  | draining link =>
    exact .aside (aside_onPool htidy fun p _ => Pool.onlyCloses_resumeDrain p s.now)
  | drained link =>
    -- The call goes over to stopping the channel, which is still the same work.
    have hput : Aside s (s.putJob call job (.stopping link)) := aside_putCall s hwork.symm
    exact .aside (hput.trans (aside_onChannel _ fun c _ => Channel.target_shutdown c call))
  | stopping link =>
    exact .aside (aside_onChannel s fun c _ => Channel.target_resumeCall c call s.now)
  | stopped link => exact .stopped hwork
  | launching studio => exact .aside (.refl s)
  | launched studio fault => exact .launched hwork

theorem advance_resumeCall (htidy : s.Tidy) (call : CallId) :
    Advance s event (s.resumeCall call) := by
  have hresume : ∀ {activity : Activity} (pool : PoolId), s.calls.get? call = some activity →
      activity.work? = none → Advance s event (s.onPool pool (·.resume call s.now)) := by
    intro activity pool hcall hactivity
    exact .aside (aside_onPool_answers htidy (fun p _ => Pool.answers_resume p call s.now)
      ((work_of_calls hcall).trans hactivity))
  unfold resumeCall
  split
  · rename_i hcall
    exact hresume _ hcall rfl
  · rename_i hcall
    exact hresume _ hcall rfl
  · exact .aside (aside_beginExecution htidy call)
  · exact .aside (aside_onPool htidy fun p _ => Pool.onlyCloses_resumeDrain p s.now)
  · exact .aside (aside_onChannel s fun c _ => Channel.target_resumeCall c call s.now)
  · exact .aside (aside_onChannel s fun c _ => Channel.target_resumeCall c call s.now)
  · rename_i hcall
    exact advance_resumeJob htidy hcall
  · exact .aside (.refl s)

theorem advance_resume (htidy : s.Tidy) (task : Task) : Advance s event (s.resume task) := by
  cases task with
  | call call => exact advance_resumeCall htidy call
  | upkeep pool => exact .aside (aside_onPool_frame htidy fun p => Pool.frame_tend p s.now)
  | listener channel =>
    exact .aside (aside_onChannel s fun c _ => Channel.target_resumeListener c s.now)

theorem aside_callHears (htidy : s.Tidy) (call : CallId) (outcome : Outcome) :
    Aside s (s.callHears call outcome) := by
  have hon : ∀ {activity : Activity} (pool : PoolId) {f : Pool → Pool},
      s.calls.get? call = some activity → activity.work? = none →
      (∀ p, Pool.Answers p (f p) call) → Aside s (s.onPool pool f) := by
    intro activity pool f hcall hactivity hf
    exact aside_onPool_answers htidy (fun p _ => hf p) ((work_of_calls hcall).trans hactivity)
  unfold callHears
  split
  · rename_i hcall
    exact hon _ hcall rfl fun p => Pool.answers_hearCheck p call s.now _
  · rename_i hcall
    exact hon _ hcall rfl fun p => Pool.answers_hearCheck p call s.now _
  · rename_i hcall
    exact hon _ hcall rfl fun p => Pool.answers_dialled p call s.now _
  · rename_i hcall
    exact hon _ hcall rfl fun p => Pool.answers_dialled p call s.now _
  · exact aside_executionMoved htidy call _
  · exact aside_connected s call _
  · exact aside_talked htidy call _
  · exact aside_onChannel s fun c _ => Channel.target_hearWrite c call _
  · rename_i hcall
    exact aside_putCall s (work_of_calls hcall).symm
  · exact .refl s

theorem aside_hear (htidy : s.Tidy) (task : Task) (outcome : Outcome) :
    Aside s (s.hear task outcome) := by
  unfold hear
  split
  · exact aside_callHears htidy _ outcome
  · exact aside_onPool_frame htidy fun p => Pool.frame_upkeepDialled p s.now _
  · exact aside_onChannel s fun c _ => Channel.target_dialled c s.now _
  · exact aside_onChannel s fun c _ => Channel.target_hearListener c s.now _
  · exact .refl s

theorem aside_borrowOverdue (htidy : s.Tidy) (hwork : s.work? call = none) (pool : PoolId) :
    Aside s (s.borrowOverdue pool call) := by
  unfold borrowOverdue
  split
  · split
    · exact aside_onPool_answers htidy (fun p _ => Pool.answers_stageExpired p call s.now) hwork
    · exact aside_onPool_answers htidy (fun p _ => Pool.answers_borrowExpired p call s.now) hwork
  · exact .refl s

theorem aside_drainOverdue (htidy : s.Tidy) (pool : PoolId) : Aside s (s.drainOverdue pool) := by
  unfold drainOverdue
  split
  · split
    · exact aside_onPool htidy fun p _ => Pool.onlyCloses_resumeDrain p s.now
    · exact aside_onPool htidy fun p _ => Pool.onlyCloses_drainExpired p s.now
  · exact .refl s

theorem aside_callExpired (htidy : s.Tidy) (call : CallId) : Aside s (s.callExpired call) := by
  unfold callExpired
  split
  · rename_i hcall
    exact aside_borrowOverdue htidy (work_of_calls hcall) _
  · rename_i hcall
    exact aside_borrowOverdue htidy (work_of_calls hcall) _
  · exact aside_executionMoved htidy call _
  · exact aside_connected s call _
  · exact aside_talked htidy call _
  · exact aside_drainOverdue htidy _
  · exact aside_drainOverdue htidy _
  · exact aside_onChannel s fun c _ => Channel.target_writeExpired c call s.now
  · exact .refl s

theorem aside_expire (htidy : s.Tidy) (task : Task) : Aside s (s.expire task) := by
  cases task with
  | call call => exact aside_callExpired htidy call
  | upkeep pool => exact aside_onPool_frame htidy fun p => Pool.frame_upkeepExpired p s.now
  | listener channel => exact aside_onChannel s fun c _ => Channel.target_listenerExpired c s.now

/-! ## Giving up -/

theorem aside_cancel (htidy : s.Tidy) (hwork : s.work? call = none) : Aside s (s.cancel call) := by
  have hover : ∀ {s' : Station}, Aside s s' → Aside s (s'.finish call .cancelled) := by
    intro s' haside
    exact haside.trans (aside_finish ((haside.work call).trans hwork) fun _ h => by contradiction)
  unfold cancel
  split
  · exact .refl s
  · rename_i activity hcall
    apply hover
    split
    · exact aside_onPool_frame htidy fun p => Pool.frame_cancelBorrow p call
    · exact aside_onPool_frame htidy fun p => Pool.frame_cancelBorrow p call
    · exact aside_onPool_frame htidy fun p => Pool.frame_loseLoan p call
    · exact .refl s
    · exact aside_changeHeld htidy _ Session.abandon
    · exact aside_onPool htidy fun p _ => Pool.onlyCloses_cancelDrain p call
    · exact aside_onChannel s fun c _ => Channel.target_cancelCall c call
    · exact aside_onChannel s fun c _ => Channel.target_cancelCall c call
    · -- A call that changes the set of links is not given up.
      have hjob := work_of_calls hcall
      rw [hwork] at hjob
      contradiction

theorem aside_letGoUnheld (htidy : s.Tidy) (kept : List PoolId) :
    Aside s (s.letGoUnheld kept) := by
  have hstep : ∀ (s : Station) (id : PoolId), s.Tidy → Aside s
      (if id ∈ kept || s.isHeld id then s
        else s.onPool id fun p => if p.upkeep.stage = .over then p.abandon else p) := by
    intro s id htidy
    split
    · exact .refl s
    · refine aside_onPool_frame htidy ?_
      intro p
      split
      · exact Pool.frame_abandon p
      · rfl
  unfold letGoUnheld
  generalize s.pools.keys = ids
  induction ids generalizing s with
  | nil => exact .refl s
  | cons id rest ih =>
    have hfirst := hstep s id htidy
    exact hfirst.trans (ih (hfirst.tidy htidy))

/-! ## Every event -/

theorem advance_configure (hnew : s.IsNew call) (desired : Fleet) :
    Advance s (.configure call desired) (s.configure call desired) := by
  unfold configure
  split
  · exact .aside (aside_answer s call fun _ h => by contradiction)
  · rename_i hsound
    exact .starts hnew ⟨rfl, hsound⟩ rfl

/-- A call is made only if its number is new. -/
theorem advance_ifNew (h : s.IsNew call → Advance s event s') :
    Advance s event (if s.IsNew call then s' else s) := by
  split
  · rename_i hnew
    exact h hnew
  · exact .aside (.refl s)

/-- Every event is aside, or takes a call that changes the set of links one piece further. -/
theorem advance_perform (htidy : s.Tidy) (event : StationEvent) :
    Advance s event (s.perform event) := by
  cases event with
  | configure call desired => exact advance_ifNew fun hnew => advance_configure hnew desired
  | launch call name => exact advance_ifNew fun hnew => .starts hnew trivial rfl
  | shutdown call => exact advance_ifNew fun hnew => .starts hnew rfl rfl
  | execute call studio commands options =>
    exact advance_ifNew fun hnew =>
      .aside (aside_execute htidy (work_of_new hnew) studio commands options)
  | acquire call pool =>
    exact advance_ifNew fun hnew => .aside (aside_startOn htidy (work_of_new hnew) rfl
      fun p => Pool.answers_acquire p call s.now)
  | connect call id host port timeout patience =>
    exact advance_ifNew fun hnew => .aside (aside_startCall (work_of_new hnew).symm)
  | send call held commands =>
    exact advance_ifNew fun hnew =>
      .aside (aside_talk htidy (work_of_new hnew) held .commands _)
  | check call held timeout =>
    exact advance_ifNew fun hnew => .aside (aside_talk htidy (work_of_new hnew) held .check _)
  | invalidate held => exact .aside (aside_changeHeld htidy held _)
  | release held pool => exact .aside (aside_release htidy held pool)
  | destroy held pool => exact .aside (aside_destroy htidy held pool)
  | lose held => exact .aside (aside_lose htidy held)
  | drain call pool =>
    exact advance_ifNew fun hnew => .aside (aside_drainPool htidy (work_of_new hnew) pool)
  | realtime call channel commands =>
    exact advance_ifNew fun hnew =>
      .aside (aside_realtime (work_of_new hnew) channel commands false)
  | stop call channel =>
    exact advance_ifNew fun hnew => .aside (aside_stopChannel (work_of_new hnew) channel)
  | cancel call =>
    rw [perform]
    split
    · rename_i hwork
      exact .aside (aside_cancel htidy (Option.isNone_iff_eq_none.mp hwork))
    · exact .aside (.refl s)
  | clear pool => exact .aside (aside_onPool_frame htidy Pool.frame_clear)
  | letGo kept => exact .aside (aside_letGoUnheld htidy kept)
  | resume task => exact advance_resume htidy task
  | hear task outcome => exact .aside (aside_hear htidy task outcome)
  | expire task => exact .aside (aside_expire htidy task)
  | clock now => exact .aside (aside_of_same rfl rfl rfl rfl rfl)

end Station

end BroadcastLink
