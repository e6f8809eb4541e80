import BroadcastLink.Proofs.Station.Orphans

/-!
# Calls given up at any time

Nothing that happens in a station depends on where its studios are noted to stand. So whichever
calls are given up, with whatever in hand, the links stay in line with their studios and the calls
that change them take turns: only the notes may be off.
-/

namespace BroadcastLink.Station

variable {low floor : Nat} {s₀ s s' : Station} {call : CallId} {job : Job} {phase : JobPhase}
  {away : List String}

/-- The station with other notes of where its studios stand. -/
def renote (s : Station) (states : Roster String StudioState) : Station :=
  s.onRegistry fun r => { r with states := states }

/-! ## Pools and tasks -/

section Commuting

variable (s : Station) (states : Roster String StudioState)

theorem wake_renote (t : Task) : (s.renote states).wake t = (s.wake t).renote states := by
  unfold wake
  rw [show (s.renote states).ready = s.ready from rfl]
  split <;> rfl

theorem lent_renote (call : CallId) (id : Nat) :
    (s.renote states).lent call id = (s.lent call id).renote states := by
  unfold lent
  rw [show (s.renote states).calls = s.calls from rfl]
  split <;> rfl

theorem drained_renote (call : CallId) :
    (s.renote states).drained call = (s.drained call).renote states := by
  unfold drained
  rw [show (s.renote states).calls = s.calls from rfl]
  split <;> rfl

theorem doOwnAct_renote (id : PoolId) (act : PoolAct) :
    doOwnAct id (s.renote states) act = (doOwnAct id s act).renote states := by
  cases act with
  | hangUp | freeIn | refused => rfl
  | wakeUpkeep => exact wake_renote s states _
  | lent call session => exact lent_renote s states call session
  | drained call => exact drained_renote s states call
  | wake waiter =>
    cases waiter with
    | caller call => exact wake_renote s states _
    | drainer =>
      unfold doOwnAct
      dsimp only
      rw [show (s.renote states).pools = s.pools from rfl]
      split
      · exact wake_renote s states _
      · rfl

theorem foldl_renote {α : Type} {step : Station → α → Station}
    (hstep : ∀ s a, step (s.renote states) a = (step s a).renote states) (steps : List α) :
    steps.foldl step (s.renote states) = (steps.foldl step s).renote states := by
  induction steps generalizing s with
  | nil => rfl
  | cons a rest ih =>
    rw [List.foldl_cons, List.foldl_cons, hstep]
    exact ih _

theorem settlePool_renote (id : PoolId) (p : Pool) {act : Station → PoolAct → Station}
    (hact : ∀ s a, act (s.renote states) a = (act s a).renote states) :
    (s.renote states).settlePool id p act = (s.settlePool id p act).renote states :=
  foldl_renote (s.putBack id p) states hact p.acts

theorem doPoolAct_renote (id : PoolId) (act : PoolAct) :
    doPoolAct id (s.renote states) act = (doPoolAct id s act).renote states := by
  cases act with
  | freeIn other =>
    have hpools : (s.renote states).pools.get? other = s.pools.get? other := rfl
    cases hp : s.pools.get? other with
    | none => simp only [doPoolAct, hpools, hp]
    | some p =>
      simp only [doPoolAct, hpools, hp]
      exact settlePool_renote s states other _ fun s a => doOwnAct_renote s states other a
  | hangUp line => exact doOwnAct_renote s states id (.hangUp line)
  | wake waiter => exact doOwnAct_renote s states id (.wake waiter)
  | wakeUpkeep => exact doOwnAct_renote s states id .wakeUpkeep
  | lent call session => exact doOwnAct_renote s states id (.lent call session)
  | refused call fault => exact doOwnAct_renote s states id (.refused call fault)
  | drained call => exact doOwnAct_renote s states id (.drained call)

theorem onPool_renote (id : PoolId) (f : Pool → Pool) :
    (s.renote states).onPool id f = (s.onPool id f).renote states := by
  unfold onPool
  rw [show (s.renote states).pools = s.pools from rfl]
  split
  · rfl
  · exact settlePool_renote s states id _ fun s a => doPoolAct_renote s states id a

/-! ## Calls on the links -/

theorem startJob_renote (call : CallId) (job : Job) :
    (s.renote states).startJob call job = (s.startJob call job).renote states :=
  wake_renote ((s.onRegistry fun r => { r with turn := r.turn.request call }).putJob call job
    .queued) states (.call call)

theorem finishJob_renote (call : CallId) (a : Answer) :
    (s.renote states).finishJob call a = (s.finishJob call a).renote states := by
  have hgiven : (s.renote states).giveUpTurn call = (s.giveUpTurn call).renote states :=
    foldl_renote (s.onRegistry fun r => { r with turn := (r.turn.giveUp call).1 }) states
      (fun s call => wake_renote s states (.call call)) (s.registry.turn.giveUp call).2.toList
  rw [finishJob, hgiven]
  rfl

theorem takeDown_renote (call : CallId) (job : Job) (link : Link) :
    (s.renote states).takeDown call job link = (s.takeDown call job link).renote states :=
  onPool_renote (s.putJob call job (.draining link)) states link.pool _

theorem openPool_renote (studio : Studio) (settings : PoolSettings) :
    (s.renote states).openPool studio settings = (s.openPool studio settings).renote states := by
  let pool := Pool.forStudio s.nextPool studio settings s.now
  exact wake_renote { s with pools := s.pools.put s.nextPool pool } states (.upkeep s.nextPool)

theorem openChannel_renote (studio : Studio) (settings : ChannelSettings) :
    (s.renote states).openChannel studio settings =
      (s.openChannel studio settings).renote states := by
  let channel := Channel.toStudio s.nextChannel studio settings s.now
  exact wake_renote { s with channels := s.channels.put s.nextChannel channel } states
    (.listener s.nextChannel)

theorem insertLink_renote (studio : Studio) : (s.renote states).insertLink studio =
    (s.insertLink studio).renote (states.put studio.name .live) := by
  unfold insertLink
  dsimp only
  rw [openPool_renote, openChannel_renote]
  rfl

end Commuting

/-! ## Pieces of work -/

/-- The stations are the same, but for the notes. -/
def Alike (s t : Station) : Prop := ∃ states, t = s.renote states

namespace Alike

variable {t : Station}

theorem onRegistry (h : Alike s t) {f : Registry → Registry}
    (hf : ∀ (r : Registry) states, ∃ states',
      f { r with states := states } = { f r with states := states' }) :
    Alike (s.onRegistry f) (t.onRegistry f) := by
  obtain ⟨states, rfl⟩ := h
  obtain ⟨states', hstates⟩ := hf s.registry states
  exact ⟨states', congrArg (fun r => { s with registry := r }) hstates⟩

theorem putJob (h : Alike s t) (call : CallId) (job : Job) (stage : JobStage) :
    Alike (s.putJob call job stage) (t.putJob call job stage) := by
  obtain ⟨states, rfl⟩ := h
  exact ⟨states, rfl⟩

theorem resize (h : Alike s t) (id : PoolId) (min max : Nat) :
    Alike (s.onPool id (·.resize min max s.now)) (t.onPool id (·.resize min max t.now)) := by
  obtain ⟨states, rfl⟩ := h
  exact ⟨states, onPool_renote s states id (·.resize min max s.now)⟩

theorem takeDown (h : Alike s t) (call : CallId) (job : Job) (link : Link) :
    Alike (s.takeDown call job link) (t.takeDown call job link) := by
  obtain ⟨states, rfl⟩ := h
  exact ⟨states, takeDown_renote s states call job link⟩

theorem insertLink (h : Alike s t) (studio : Studio) :
    Alike (s.insertLink studio) (t.insertLink studio) := by
  obtain ⟨states, rfl⟩ := h
  exact ⟨_, insertLink_renote s states studio⟩

theorem finishJob (h : Alike s t) (call : CallId) (a : Answer) :
    Alike (s.finishJob call a) (t.finishJob call a) := by
  obtain ⟨states, rfl⟩ := h
  exact ⟨states, finishJob_renote s states call a⟩

theorem links (h : Alike s t) : t.registry.links = s.registry.links := by
  obtain ⟨states, rfl⟩ := h
  rfl

theorem desired (h : Alike s t) : t.registry.desired = s.registry.desired := by
  obtain ⟨states, rfl⟩ := h
  rfl

theorem beginJob (h : Alike s t) (call : CallId) (job : Job) :
    Alike (s.beginJob call job) (t.beginJob call job) := by
  obtain ⟨states, rfl⟩ := h
  cases job <;> exact ⟨states, rfl⟩

theorem configureNext (h : Alike s t) (call : CallId) (w : Reconfiguration) :
    Alike (s.configureNext call w) (t.configureNext call w) := by
  unfold Station.configureNext
  split
  · exact (h.onRegistry fun _ _ => ⟨_, rfl⟩).takeDown call _ _
  · exact (h.onRegistry fun _ _ => ⟨_, rfl⟩).finishJob call _
  · rename_i name _ _ _ _
    dsimp only
    split
    · rename_i link _
      split
      · exact h.putJob call _ _
      · split
        · have hnoted := h.onRegistry (f := (·.setState name .reconfiguring)) fun _ _ => ⟨_, rfl⟩
          exact ((hnoted.resize link.pool _ _).onRegistry fun _ _ => ⟨_, rfl⟩).putJob call _ _
        · exact (h.onRegistry fun _ _ => ⟨_, rfl⟩).takeDown call _ _
    · split
      · exact (h.onRegistry fun _ _ => ⟨_, rfl⟩).putJob call _ _
      · exact (h.insertLink _).putJob call _ _

theorem configureStopped (h : Alike s t) (call : CallId) (w : Reconfiguration) :
    Alike (s.configureStopped call w) (t.configureStopped call w) := by
  unfold Station.configureStopped
  split
  · exact (h.onRegistry fun _ _ => ⟨_, rfl⟩).putJob call _ _
  · exact (h.insertLink _).putJob call _ _
  · exact h.putJob call _ _

theorem configureLaunched (h : Alike s t) (call : CallId) (w : Reconfiguration) (studio : Studio)
    (fault : Option Fault) :
    Alike (s.configureLaunched call w studio fault) (t.configureLaunched call w studio fault) := by
  cases fault with
  | none => exact (h.insertLink studio).putJob call _ _
  | some fault => exact (h.onRegistry fun _ _ => ⟨_, rfl⟩).putJob call _ _

theorem launchNext (h : Alike s t) (call : CallId) (name : String) :
    Alike (s.launchNext call name) (t.launchNext call name) := by
  unfold Station.launchNext
  rw [h.desired, h.links]
  split
  · exact h.finishJob call _
  · split
    · exact h.finishJob call _
    · split
      · exact (h.onRegistry fun _ _ => ⟨_, rfl⟩).takeDown call _ _
      · exact (h.onRegistry fun _ _ => ⟨_, rfl⟩).putJob call _ _

theorem launchStopped (h : Alike s t) (call : CallId) (name : String) :
    Alike (s.launchStopped call name) (t.launchStopped call name) := by
  unfold Station.launchStopped
  rw [h.desired]
  split
  · exact h.finishJob call _
  · exact (h.onRegistry fun _ _ => ⟨_, rfl⟩).putJob call _ _

theorem launchLaunched (h : Alike s t) (call : CallId) (name : String) (studio : Studio)
    (fault : Option Fault) :
    Alike (s.launchLaunched call name studio fault) (t.launchLaunched call name studio fault) := by
  cases fault with
  | none => exact (h.insertLink studio).finishJob call _
  | some fault => exact (h.onRegistry fun _ _ => ⟨_, rfl⟩).finishJob call _

theorem shutdownNext (h : Alike s t) (call : CallId) (rest : List (String × Link)) :
    Alike (s.shutdownNext call rest) (t.shutdownNext call rest) := by
  cases rest with
  | nil => exact (h.onRegistry fun _ _ => ⟨_, rfl⟩).finishJob call _
  | cons first rest => exact (h.onRegistry fun _ _ => ⟨_, rfl⟩).takeDown call _ _

theorem shutdownStopped (h : Alike s t) (call : CallId) (rest : List (String × Link)) :
    Alike (s.shutdownStopped call rest) (t.shutdownStopped call rest) := by
  cases rest with
  | nil => exact h.putJob call _ _
  | cons first rest => exact (h.onRegistry fun _ _ => ⟨_, rfl⟩).putJob call _ _

theorem jobNext (h : Alike s t) (call : CallId) (job : Job) :
    Alike (s.jobNext call job) (t.jobNext call job) := by
  cases job with
  | configure w => exact h.configureNext call w
  | launch name => exact h.launchNext call name
  | shutdown rest => exact h.shutdownNext call rest

theorem jobStopped (h : Alike s t) (call : CallId) (job : Job) :
    Alike (s.jobStopped call job) (t.jobStopped call job) := by
  cases job with
  | configure w => exact h.configureStopped call w
  | launch name => exact h.launchStopped call name
  | shutdown rest => exact h.shutdownStopped call rest

theorem jobLaunched (h : Alike s t) (call : CallId) (job : Job) (studio : Studio)
    (fault : Option Fault) :
    Alike (s.jobLaunched call job studio fault) (t.jobLaunched call job studio fault) := by
  cases job with
  | configure w => exact h.configureLaunched call w studio fault
  | launch name => exact h.launchLaunched call name studio fault
  | shutdown rest => exact h.putJob call _ _

end Alike

/-! ## Every history -/

/-- All is in order, once the notes are put right. -/
def Rightable (low floor : Nat) (s : Station) : Prop := ∃ t, Alike s t ∧ t.Orderly low floor

theorem Orderly.rightable (h : s.Orderly low floor) : s.Rightable low floor :=
  ⟨s, ⟨s.registry.states, rfl⟩, h⟩

/-- Once the notes are put right, a call with anything in hand has nothing to put in line. -/
theorem AtWork.putRight {states : Roster String StudioState}
    (h : AtWork low floor call s₀ (s.renote states) away) :
    AtWork low floor call s₀ (s.renote (s.registry.links.mapEntries fun _ _ => .live)) [] := by
  refine ⟨⟨h.ground.same rfl rfl, h.turns.same rfl fun _ => rfl, h.desired, h.since, h.fresh⟩,
    h.holder, ⟨?_, h.inLine.apart, ?_, fun _ hname => by contradiction⟩, h.others,
    ⟨h.elsewhere.work, h.elsewhere.summaries⟩⟩
  · intro name link hlink
    exact (h.inLine.linked name link hlink).same rfl rfl (Nat.le_refl _)
  · intro name _
    exact Roster.get?_mapEntries _ _ name

namespace Rightable

theorem aside (h : s.Rightable low floor) (haside : Aside s s') : s'.Rightable low floor := by
  obtain ⟨_, ⟨states, rfl⟩, horderly⟩ := h
  exact ⟨_, ⟨states, rfl⟩, horderly.aside (haside.onRegistry _)⟩

theorem tidy (h : s.Rightable low floor) : s.Tidy := by
  obtain ⟨_, ⟨states, rfl⟩, horderly⟩ := h
  exact horderly.ground.tidy

theorem turns (h : s.Rightable low floor) : s.InTurn := by
  obtain ⟨_, ⟨states, rfl⟩, horderly⟩ := h
  exact horderly.turns.same rfl fun _ => rfl

theorem advance (h : s.Rightable low floor) {event : StationEvent}
    (hadvance : Advance s event s') : s'.Rightable low floor := by
  obtain ⟨_, ⟨states, rfl⟩, horderly⟩ := h
  have halike : Alike s (s.renote states) := ⟨states, rfl⟩
  cases hadvance with
  | aside haside => exact ⟨_, ⟨states, rfl⟩, horderly.aside (haside.onRegistry _)⟩
  | starts hnew hfresh _ =>
    exact ⟨_, ⟨states, startJob_renote s states _ _⟩, horderly.startJob hnew hfresh⟩
  | begins hwork hturn => exact ⟨_, halike.beginJob _ _, horderly.beginJob hwork hturn⟩
  | next hwork =>
    have hnext : Advance (s.renote states) event _ := .next hwork
    exact ⟨_, halike.jobNext _ _, horderly.advance hnext⟩
  | stopped hwork =>
    have hstopped : Advance (s.renote states) event _ := .stopped hwork
    exact ⟨_, halike.jobStopped _ _, horderly.advance hstopped⟩
  | launched hwork =>
    exact ⟨_, halike.jobLaunched _ _ _ _,
      horderly.advance (.launched hwork : Advance (s.renote states) event _)⟩

/-- Whatever a call has in hand, it may be given up. -/
theorem giveUp (h : s.Rightable low floor) (call : CallId) :
    (s.cancel call).Rightable low floor := by
  cases hwork : s.work? call with
  | none => exact h.aside (aside_cancel h.tidy hwork)
  | some work =>
    obtain ⟨job, phase⟩ := work
    obtain ⟨s', haside, hended⟩ := exists_aside_finishJob h.tidy hwork
    obtain ⟨_, ⟨states, rfl⟩, horderly⟩ := h.aside haside
    rw [hended]
    by_cases hholder : s'.registry.turn.holder = some call
    · have hwork' : (s'.renote states).work? call = some (job, phase) :=
        (haside.work call).trans hwork
      have hat := horderly.atWork hholder hwork'
      exact ⟨_, ⟨_, finishJob_renote s' _ call _⟩, hat.putRight.finishJob .cancelled⟩
    · exact ⟨_, ⟨states, finishJob_renote s' states call _⟩, horderly.leave hholder .cancelled⟩

/-- Whatever happens, and whichever calls are given up, all stays in order but the notes. -/
theorem live (h : s.Rightable low floor) (history : List StationHappening) :
    (s.live history).Rightable low floor := by
  induction history generalizing s with
  | nil => exact h
  | cons happening later ih =>
    cases happening with
    | event event => exact ih (h.advance (advance_perform h.tidy event))
    | giveUp call => exact ih (h.giveUp call)

end Rightable

end BroadcastLink.Station
