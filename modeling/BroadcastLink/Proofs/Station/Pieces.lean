import BroadcastLink.Proofs.Station.Waiting

/-!
# What an event comes to

An event is nothing but waiting for the channels and for the calls that change the set of links, or
it takes one such call a piece further: it starts, begins with its turn, does its next piece of
work, stops the channel of a link, or goes on after a link was taken down or a studio was launched.
-/

namespace BroadcastLink

/-- The channel that a caller shuts down. -/
def StationEvent.shutDown? : StationEvent → Option ChannelId
  | .stop _ channel => some channel
  | _ => none

namespace Station

variable {callers : ChannelId → Prop} {s s' : Station} {call : CallId} {job : Job}
  {stage : JobStage}

/-- What an event comes to for the channels: nothing but waiting, or a piece of the work of a call
that changes the set of links. -/
inductive Piece (callers : ChannelId → Prop) (s : Station) : Station → Prop where
  | waits {s' : Station} (haside : Aside s s') (honward : Onward callers callers s s') :
    Piece callers s s'
  | starts {call : CallId} {job : Job} (hnew : s.IsNew call) (hfresh : job.IsFresh) :
    Piece callers s (s.startJob call job)
  | begins {call : CallId} {job : Job}
    (hcall : s.calls.get? call = some (.reconciling job .queued))
    (hturn : s.registry.turn.heldBy call = true) : Piece callers s (s.beginJob call job)
  | next {call : CallId} {job : Job} (hcall : s.calls.get? call = some (.reconciling job .next)) :
    Piece callers s (s.jobNext call job)
  | stops {call : CallId} {job : Job} {link : Link}
    (hcall : s.calls.get? call = some (.reconciling job (.drained link))) :
    Piece callers s (s.stopLink call job link)
  | stopped {call : CallId} {job : Job} {link : Link}
    (hcall : s.calls.get? call = some (.reconciling job (.stopped link))) :
    Piece callers s (s.jobStopped call job)
  | launched {call : CallId} {job : Job} {studio : Studio} {fault : Option Fault}
    (hcall : s.calls.get? call = some (.reconciling job (.launched studio fault))) :
    Piece callers s (s.jobLaunched call job studio fault)

theorem piece_resumeJob (htidy : s.Tidy) (hquiet : s.Quiet)
    (hcall : s.calls.get? call = some (.reconciling job stage)) :
    Piece callers s (s.resumeJob call job stage) := by
  cases stage with
  | queued =>
    unfold resumeJob
    dsimp only
    split
    · rename_i hturn
      exact .begins hcall hturn
    · exact .waits (.refl s) (.refl s)
  | next => exact .next hcall
  | draining link =>
    exact .waits (aside_onPool htidy fun p _ => Pool.onlyCloses_resumeDrain p s.now)
      (onward_onPool s _ _)
  | drained link => exact .stops hcall
  | stopping link =>
    refine .waits (aside_onChannel s fun c _ => Channel.target_resumeCall c call s.now)
      (onward_resumeCall_channel hquiet ?_)
    intro job' link' hstopping
    obtain ⟨-, heq⟩ := Activity.reconciling.inj (Option.some.inj (hcall.symm.trans hstopping))
    rw [JobStage.stopping.inj heq]
  | stopped link => exact .stopped hcall
  | launching studio => exact .waits (.refl s) (.refl s)
  | launched studio fault => exact .launched hcall

theorem piece_resumeCall (htidy : s.Tidy) (hquiet : s.Quiet) (call : CallId) :
    Piece callers s (s.resumeCall call) := by
  have hresume : ∀ {activity : Activity} (pool : PoolId), s.calls.get? call = some activity →
      activity.work? = none → Piece callers s (s.onPool pool (·.resume call s.now)) := by
    intro activity pool hcall hactivity
    exact .waits (aside_onPool_answers htidy (fun p _ => Pool.answers_resume p call s.now)
      ((work_of_calls hcall).trans hactivity)) (onward_onPool s _ _)
  have hchannel : ∀ {activity : Activity} (channel : ChannelId),
      s.calls.get? call = some activity → activity.work? = none →
      Piece callers s (s.onChannel channel (·.resumeCall call s.now)) := by
    intro activity channel hcall hactivity
    refine .waits (aside_onChannel s fun c _ => Channel.target_resumeCall c call s.now)
      (onward_resumeCall_channel hquiet ?_)
    intro job link hstopping
    obtain rfl := Option.some.inj (hcall.symm.trans hstopping)
    contradiction
  unfold resumeCall
  split
  · rename_i hcall
    exact hresume _ hcall rfl
  · rename_i hcall
    exact hresume _ hcall rfl
  · exact .waits (aside_beginExecution htidy call) (onward_beginExecution s call)
  · exact .waits (aside_onPool htidy fun p _ => Pool.onlyCloses_resumeDrain p s.now)
      (onward_onPool s _ _)
  · rename_i hcall
    exact hchannel _ hcall rfl
  · rename_i hcall
    exact hchannel _ hcall rfl
  · rename_i hcall
    exact piece_resumeJob htidy hquiet hcall
  · exact .waits (.refl s) (.refl s)

theorem piece_resume (htidy : s.Tidy) (hquiet : s.Quiet) (task : Task) :
    Piece callers s (s.resume task) := by
  cases task with
  | call call => exact piece_resumeCall htidy hquiet call
  | upkeep pool =>
    exact .waits (aside_onPool_frame htidy fun p => Pool.frame_tend p s.now) (onward_onPool s _ _)
  | listener channel =>
    exact .waits (aside_onChannel s fun c _ => Channel.target_resumeListener c s.now)
      (onward_onChannel_keeps hquiet fun c _ => c.keeps_resumeListener s.now)

theorem piece_configure (hnew : s.IsNew call) (desired : Fleet) :
    Piece callers s (s.configure call desired) := by
  unfold configure
  split
  · exact .waits (aside_answer s call fun _ h => by contradiction) (.of_same rfl rfl)
  · rename_i hsound
    exact .starts hnew ⟨rfl, hsound⟩

/-- A call is made only if its number is new. -/
theorem piece_ifNew (h : s.IsNew call → Piece callers s s') :
    Piece callers s (if s.IsNew call then s' else s) := by
  split
  · rename_i hnew
    exact h hnew
  · exact .waits (.refl s) (.refl s)

/-- Every event is nothing but waiting for the channels, or a piece of a call's work. -/
theorem piece_perform (htidy : s.Tidy) (hquiet : s.Quiet) (event : StationEvent)
    (hcallers : ∀ id ∈ event.shutDown?, callers id) : Piece callers s (s.perform event) := by
  cases event with
  | configure call desired => exact piece_ifNew fun hnew => piece_configure hnew desired
  | launch call name => exact piece_ifNew fun hnew => .starts hnew trivial
  | shutdown call => exact piece_ifNew fun hnew => .starts hnew rfl
  | execute call studio commands options =>
    exact piece_ifNew fun hnew => .waits
      (aside_execute htidy (work_of_new hnew) studio commands options)
      (onward_execute hquiet call studio commands options)
  | acquire call pool =>
    exact piece_ifNew fun hnew => .waits
      (aside_startOn htidy (work_of_new hnew) rfl fun p => Pool.answers_acquire p call s.now)
      (onward_startOn s call rfl pool _)
  | connect call id host port timeout patience =>
    exact piece_ifNew fun hnew => .waits (aside_startCall (work_of_new hnew).symm)
      (onward_startCall s call rfl)
  | send call held commands =>
    exact piece_ifNew fun hnew => .waits (aside_talk htidy (work_of_new hnew) held .commands _)
      (onward_talk s call held .commands _)
  | check call held timeout =>
    exact piece_ifNew fun hnew => .waits (aside_talk htidy (work_of_new hnew) held .check _)
      (onward_talk s call held .check _)
  | invalidate held => exact .waits (aside_changeHeld htidy held _) (onward_changeHeld s held _)
  | release held pool => exact .waits (aside_release htidy held pool) (onward_release s held pool)
  | destroy held pool => exact .waits (aside_destroy htidy held pool) (onward_destroy s held pool)
  | lose held => exact .waits (aside_lose htidy held) (onward_lose s held)
  | drain call pool =>
    exact piece_ifNew fun hnew => .waits (aside_drainPool htidy (work_of_new hnew) pool)
      (onward_startOn s call rfl pool _)
  | realtime call channel commands =>
    exact piece_ifNew fun hnew => .waits (aside_realtime (work_of_new hnew) channel commands false)
      (onward_realtime hquiet call channel commands false)
  | stop call channel =>
    exact piece_ifNew fun hnew => .waits (aside_stopChannel (work_of_new hnew) channel)
      (onward_stopChannel hquiet call (hcallers channel rfl))
  | cancel call =>
    rw [perform]
    split
    · rename_i hwork
      have hnone := Option.isNone_iff_eq_none.mp hwork
      exact .waits (aside_cancel htidy hnone) (onward_cancel hquiet hnone)
    · exact .waits (.refl s) (.refl s)
  | clear pool => exact .waits (aside_onPool_frame htidy Pool.frame_clear) (onward_onPool s pool _)
  | letGo kept => exact .waits (aside_letGoUnheld htidy kept) (onward_letGoUnheld s kept)
  | resume task => exact piece_resume htidy hquiet task
  | hear task outcome =>
    exact .waits (aside_hear htidy task outcome) (onward_hear hquiet task outcome)
  | expire task => exact .waits (aside_expire htidy task) (onward_expire hquiet task)
  | clock now => exact .waits (aside_of_same rfl rfl rfl rfl rfl) (.of_same rfl rfl)

end Station

end BroadcastLink
