import BroadcastLink.Proofs.Channel.Ending
import BroadcastLink.Proofs.Station.Links

/-!
# What the calls on the links wait for

Between two pieces of its work, a call that changes the set of links waits until a pool is drained,
a channel has stopped or a studio was launched. Whatever happens meanwhile brings it from such a
wait to its end and no further, and it is told that a channel has stopped only when the channel's
listener is over. Channels are cancelled by the call that stops them, or by callers who shut them
down themselves.
-/

namespace BroadcastLink.Station

variable {asked callers : ChannelId → Prop} {s s' s'' : Station} {call : CallId} {id : ChannelId}
  {job : Job} {stage stage' : JobStage} {activity : Activity}

/-- The listener of a channel is over, if the channel is there, or callers shut it down. -/
def Ended (callers : ChannelId → Prop) (s : Station) (id : ChannelId) : Prop :=
  ∀ c, s.channels.get? id = some c → c.listener = .over ∨ c.isCancelled = true ∧ callers id

/-- What channels asked for is done. -/
def Quiet (s : Station) : Prop := ∀ id c, s.channels.get? id = some c → c.acts = []

/-- What a call waits for has happened, or it has not yet. -/
inductive Waited (callers : ChannelId → Prop) (s : Station) : JobStage → JobStage → Prop where
  | still (stage : JobStage) : Waited callers s stage stage
  | drained (link : Link) : Waited callers s (.draining link) (.drained link)
  | stopped {link : Link} (hended : s.Ended callers link.channel) :
    Waited callers s (.stopping link) (.stopped link)
  | launched (studio : Studio) (fault : Option Fault) :
    Waited callers s (.launching studio) (.launched studio fault)

/-- Channels go on, cancelled only where that was asked for, and the calls on the links get no
further than what they wait for. -/
structure Onward (asked callers : ChannelId → Prop) (s s' : Station) : Prop where
  channels : ∀ id d, s'.channels.get? id = some d →
    ∃ c, s.channels.get? id = some c ∧ c.Onward (asked id) d
  jobs : ∀ call job stage', s'.calls.get? call = some (.reconciling job stage') →
    ∃ stage, s.calls.get? call = some (.reconciling job stage) ∧ s'.Waited callers stage stage'
  quiet : s.Quiet → s'.Quiet

/-- A channel that has ended does not go on. -/
theorem Onward.ended (h : Onward asked callers s s') (hended : s.Ended callers id) :
    s'.Ended callers id := by
  intro d hd
  obtain ⟨c, hc, honward⟩ := h.channels id d hd
  rcases hended c hc with hover | ⟨hcancelled, hcallers⟩
  · exact .inl (honward.ended hover)
  · exact .inr ⟨honward.cancelled hcancelled, hcallers⟩

theorem Waited.onward (h : s.Waited callers stage stage') (honward : Onward asked callers s s') :
    s'.Waited callers stage stage' := by
  cases h with
  | still => exact .still stage
  | drained link => exact .drained link
  | stopped hended => exact .stopped (honward.ended hended)
  | launched studio fault => exact .launched studio fault

/-- Whoever waited to the end waits for nothing more. -/
theorem Waited.trans {later : JobStage} (h : s.Waited callers stage stage')
    (h' : s.Waited callers stage' later) : s.Waited callers stage later := by
  cases h with
  | still => exact h'
  | drained | stopped | launched =>
    cases h'
    constructor
    try assumption

namespace Onward

theorem refl (s : Station) : Onward asked callers s s :=
  ⟨fun _ c hc => ⟨c, hc, .refl _ c⟩, fun _ _ stage hcall => ⟨stage, hcall, .still stage⟩,
    fun h => h⟩

theorem trans (h : Onward asked callers s s') (h' : Onward asked callers s' s'') :
    Onward asked callers s s'' := by
  refine ⟨?_, ?_, fun hquiet => h'.quiet (h.quiet hquiet)⟩
  · intro id e he
    obtain ⟨d, hd, hsecond⟩ := h'.channels id e he
    obtain ⟨c, hc, hfirst⟩ := h.channels id d hd
    exact ⟨c, hc, hfirst.trans hsecond⟩
  · intro call job stage'' hcall
    obtain ⟨stage', hcall', hsecond⟩ := h'.jobs call job stage'' hcall
    obtain ⟨stage, hcall'', hfirst⟩ := h.jobs call job stage' hcall'
    exact ⟨stage, hcall'', (hfirst.onward h').trans hsecond⟩

/-- Nothing happens to the channels, and no call comes to work on the links. -/
theorem of_calls (hchannels : s'.channels = s.channels)
    (hjobs : ∀ call job stage, s'.calls.get? call = some (.reconciling job stage) →
      s.calls.get? call = some (.reconciling job stage)) : Onward asked callers s s' := by
  refine ⟨?_, ?_, ?_⟩
  · intro id c hc
    rw [hchannels] at hc
    exact ⟨c, hc, .refl _ c⟩
  · intro call job stage hcall
    exact ⟨stage, hjobs call job stage hcall, .still stage⟩
  · intro hquiet id c hc
    rw [hchannels] at hc
    exact hquiet id c hc

theorem of_same (hchannels : s'.channels = s.channels) (hcalls : s'.calls = s.calls) :
    Onward asked callers s s' :=
  of_calls hchannels fun _ _ _ hcall => hcalls ▸ hcall

end Onward

/-! ## Small steps -/

theorem onward_wake (s : Station) (t : Task) : Onward asked callers s (s.wake t) := by
  unfold wake
  split
  · exact .refl s
  · exact .of_same rfl rfl

theorem onward_fold {α : Type} {act : Station → α → Station}
    (hact : ∀ s a, Onward asked callers s (act s a)) (acts : List α) (s : Station) :
    Onward asked callers s (acts.foldl act s) := by
  induction acts generalizing s with
  | nil => exact .refl s
  | cons a rest ih => exact (hact s a).trans (ih _)

/-- A call may do anything that is not work on the links. -/
theorem onward_putCall (s : Station) (call : CallId) (hactivity : activity.work? = none) :
    Onward asked callers s (s.putCall call activity) := by
  refine .of_calls rfl fun other job stage hcall => ?_
  replace hcall := (Roster.get?_put _ _ _ _).symm.trans hcall
  split at hcall
  · obtain rfl := Option.some.inj hcall
    contradiction
  · exact hcall

theorem onward_startCall (s : Station) (call : CallId) (hactivity : activity.work? = none) :
    Onward asked callers s (s.startCall call activity) :=
  (onward_putCall s call hactivity).trans (onward_wake _ _)

/-- What a call waited for has happened. -/
theorem onward_putJob (hcall : s.calls.get? call = some (.reconciling job stage))
    (hwaited : s.Waited callers stage stage') :
    Onward asked callers s (s.putJob call job stage') := by
  refine ⟨fun id c hc => ⟨c, hc, .refl _ c⟩, ?_, fun h => h⟩
  intro other job' stage'' hother
  replace hother := (Roster.get?_put _ _ _ _).symm.trans hother
  split at hother
  · rename_i heq
    obtain ⟨rfl, rfl⟩ := Activity.reconciling.inj (Option.some.inj hother)
    refine ⟨stage, heq ▸ hcall, ?_⟩
    -- Only a call changed, so the channels that have ended are the same.
    cases hwaited with
    | still => exact .still stage
    | drained link => exact .drained link
    | stopped hended => exact .stopped hended
    | launched studio fault => exact .launched studio fault
  · exact ⟨stage'', hother, .still stage''⟩

theorem onward_finish (s : Station) (call : CallId) (a : Answer) :
    Onward asked callers s (s.finish call a) := by
  refine .of_calls rfl fun other job stage hcall => ?_
  replace hcall := (Roster.get?_erase _ _ _).symm.trans hcall
  split at hcall
  · contradiction
  · exact hcall

/-! ## What pools ask for -/

theorem onward_lent (s : Station) (call : CallId) (id : Nat) :
    Onward asked callers s (s.lent call id) := by
  unfold lent
  split
  · exact onward_finish s call _
  · exact onward_putCall s call rfl
  · exact .refl s

theorem onward_drained (s : Station) (call : CallId) : Onward asked callers s (s.drained call) := by
  unfold drained
  split
  · exact onward_finish s call _
  · rename_i hcall
    exact onward_putJob hcall (.drained _)
  · exact .refl s

theorem onward_doOwnAct (id : PoolId) (s : Station) (act : PoolAct) :
    Onward asked callers s (doOwnAct id s act) := by
  cases act with
  | hangUp line => exact .of_same rfl rfl
  | freeIn other => exact .refl s
  | wake waiter =>
    cases waiter with
    | caller call => exact onward_wake s _
    | drainer =>
      unfold doOwnAct
      dsimp only
      split
      · exact onward_wake s _
      · exact .refl s
  | wakeUpkeep => exact onward_wake s _
  | lent call session => exact onward_lent s call session
  | refused call fault => exact onward_finish s call _
  | drained call => exact onward_drained s call

theorem onward_settlePool {act : Station → PoolAct → Station}
    (hact : ∀ s a, Onward asked callers s (act s a)) (s : Station) (id : PoolId) (p : Pool) :
    Onward asked callers s (s.settlePool id p act) := by
  have hput : Onward asked callers s (s.putBack id p) := .of_same rfl rfl
  exact hput.trans (onward_fold hact p.acts _)

theorem onward_doPoolAct (id : PoolId) (s : Station) (act : PoolAct) :
    Onward asked callers s (doPoolAct id s act) := by
  cases act with
  | freeIn other =>
    unfold doPoolAct
    dsimp only
    split
    · exact .refl s
    · exact onward_settlePool (onward_doOwnAct other) s other _
  | hangUp line => exact onward_doOwnAct id s (.hangUp line)
  | wake waiter => exact onward_doOwnAct id s (.wake waiter)
  | wakeUpkeep => exact onward_doOwnAct id s .wakeUpkeep
  | lent call session => exact onward_doOwnAct id s (.lent call session)
  | refused call fault => exact onward_doOwnAct id s (.refused call fault)
  | drained call => exact onward_doOwnAct id s (.drained call)

/-- Pools have nothing to do with the channels. -/
theorem onward_onPool (s : Station) (id : PoolId) (f : Pool → Pool) :
    Onward asked callers s (s.onPool id f) := by
  unfold onPool
  split
  · exact .refl s
  · exact onward_settlePool (onward_doPoolAct id) s id _

/-! ## What channels ask for -/

theorem onward_batchSent (s : Station) (call : CallId) (written : Bool) :
    Onward asked callers s (s.batchSent call written) := by
  unfold batchSent
  split
  · exact onward_finish s call _
  · exact onward_finish s call _
  · exact .refl s

/-- A call may be told that the channel it stops has stopped, once the channel has ended. -/
def Permits (callers : ChannelId → Prop) (s : Station) (act : ChannelAct) : Prop :=
  ∀ call ∈ act.stopped?, ∀ job link, s.calls.get? call = some (.reconciling job (.stopping link)) →
    s.Ended callers link.channel

theorem Permits.onward {act : ChannelAct} (h : s.Permits callers act)
    (honward : Onward asked callers s s') : s'.Permits callers act := by
  intro call hact job link hcall
  obtain ⟨stage, hbefore, hwaited⟩ := honward.jobs call job _ hcall
  cases hwaited
  exact honward.ended (h call hact job link hbefore)

theorem onward_channelStopped (h : s.Permits callers (.stopped call)) :
    Onward asked callers s (s.channelStopped call) := by
  unfold channelStopped
  split
  · exact onward_finish s call _
  · rename_i job link hcall
    exact onward_putJob hcall (.stopped (h call rfl job link hcall))
  · exact .refl s

theorem onward_doChannelAct (id : ChannelId) {act : ChannelAct} (h : s.Permits callers act) :
    Onward asked callers s (doChannelAct id s act) := by
  cases act with
  | hangUp line => exact .of_same rfl rfl
  | wake user =>
    cases user with
    | listener => exact onward_wake s _
    | call call => exact onward_wake s _
  | publish publication => exact .of_same rfl rfl
  | sent call written => exact onward_batchSent s call written
  | stopped call => exact onward_channelStopped h

theorem onward_doChannelActs (id : ChannelId) {acts : List ChannelAct}
    (h : ∀ act ∈ acts, s.Permits callers act) :
    Onward asked callers s (acts.foldl (doChannelAct id) s) := by
  induction acts generalizing s with
  | nil => exact .refl s
  | cons act rest ih =>
    have hfirst : Onward asked callers s (doChannelAct id s act) :=
      onward_doChannelAct id (h act List.mem_cons_self)
    refine hfirst.trans (ih fun other hother => ?_)
    exact (h other (List.mem_cons_of_mem act hother)).onward hfirst

/-- A call is told that a channel has stopped when it does not work on the links, or when it stops
that channel and the channel has ended. -/
def MayTell (callers : ChannelId → Prop) (s : Station) (id : ChannelId) (d : Channel) : Prop :=
  ∀ call ∈ d.stops, ∀ job link, s.calls.get? call = some (.reconciling job (.stopping link)) →
    link.channel = id ∧ (d.listener = .over ∨ d.isCancelled = true ∧ callers id)

/-- Letting a channel act goes on with it, as long as it tells nobody too early. -/
theorem onward_onChannel {f : Channel → Channel}
    (hf : ∀ c, s.channels.get? id = some c → c.Onward (asked id) (f c))
    (htells : ∀ c, s.channels.get? id = some c → s.MayTell callers id (f c)) :
    Onward asked callers s (s.onChannel id f) := by
  unfold onChannel
  split
  · exact .refl s
  · rename_i c hc
    let put := { s with channels := s.channels.put id { f c with acts := [] } }
    have hget : ∀ other, put.channels.get? other =
        if other = id then some { f c with acts := [] } else s.channels.get? other :=
      fun other => Roster.get?_put _ _ _ _
    have hput : Onward asked callers s put := by
      refine ⟨?_, fun _ _ stage hcall => ⟨stage, hcall, .still stage⟩, ?_⟩
      · intro other d hd
        rw [hget] at hd
        split at hd
        · rename_i heq
          subst heq
          obtain rfl := Option.some.inj hd
          have honward := hf c hc
          exact ⟨c, hc, honward.studio, honward.ended, honward.due, honward.cancelled,
            honward.cause⟩
        · exact ⟨d, hd, .refl _ d⟩
      · intro hquiet other d hd
        rw [hget] at hd
        split at hd
        · obtain rfl := Option.some.inj hd
          rfl
        · exact hquiet other d hd
    -- The acts come after the channel was put back, so they meet it as it stands then.
    have hpermits : ∀ act ∈ (f c).acts, put.Permits callers act := by
      intro act hact call hcall job link hstopping d hd
      have hstops : call ∈ (f c).stops := List.mem_filterMap.mpr ⟨act, hact, hcall⟩
      obtain ⟨heq, hended⟩ := htells c hc call hstops job link hstopping
      rw [hget, if_pos heq] at hd
      obtain rfl := Option.some.inj hd
      rw [heq]
      exact hended
    have hacts := hput.trans (onward_doChannelActs id hpermits)
    dsimp only
    split
    · exact hacts.trans (onward_fold (fun s call => onward_wake s (.call call)) _ _)
    · exact hacts

/-- Most of what a channel does tells nobody that it has stopped. -/
theorem onward_onChannel_keeps (hquiet : s.Quiet) {f : Channel → Channel}
    (hf : ∀ c, s.channels.get? id = some c → c.Keeps (f c)) :
    Onward asked callers s (s.onChannel id f) := by
  refine onward_onChannel (fun c hc => (hf c hc).onward _) fun c hc call hcall => ?_
  have hnobody : (f c).stops = [] := by
    rw [(hf c hc).stops, Channel.stops, hquiet id c hc]
    rfl
  rw [hnobody] at hcall
  contradiction

/-- A channel goes on for a call, which either does not work on the links or stops that channel. -/
theorem onward_resumeCall_channel (hquiet : s.Quiet)
    (hcall : ∀ job link, s.calls.get? call = some (.reconciling job (.stopping link)) →
      link.channel = id) :
    Onward asked callers s (s.onChannel id (·.resumeCall call s.now)) := by
  have hstops : ∀ c, s.channels.get? id = some c → c.stops = [] := by
    intro c hc
    rw [Channel.stops, hquiet id c hc]
    rfl
  refine onward_onChannel (fun c _ => (c.stopsFor_resumeCall call s.now).onward _) ?_
  intro c hc other hother job link hstopping
  obtain ⟨rfl, hover⟩ := (c.stopsFor_resumeCall call s.now).tells (hstops c hc) hother
  exact ⟨hcall job link hstopping, .inl hover⟩

/-! ## Sessions in hand -/

theorem onward_putHeld (s : Station) (held : Held) (session : Session) :
    Onward asked callers s (s.putHeld held session) := by
  cases held with
  | lent pool loan => exact onward_onPool s pool _
  | own call => exact .of_same rfl rfl

theorem onward_changeHeld (s : Station) (held : Held) (f : Session → Session) :
    Onward asked callers s (s.changeHeld held f) := by
  unfold changeHeld
  split
  · exact onward_putHeld s held _
  · exact .refl s

theorem onward_talk (s : Station) (call : CallId) (held : Held) (purpose : Purpose)
    (begin : Session → Begun) : Onward asked callers s (s.talk call held purpose begin) := by
  unfold talk
  split
  · exact .refl s
  · split
    · exact .of_same rfl rfl
    · exact (onward_putHeld s held _).trans (onward_startCall _ call rfl)

theorem onward_talked (s : Station) (call : CallId) (stimulus : Stimulus) :
    Onward asked callers s (s.talked call stimulus) := by
  unfold talked
  split
  · split
    · exact .refl s
    · dsimp only
      split
      · exact (onward_putHeld s _ _).trans (onward_finish _ call _)
      · exact onward_putHeld s _ _
  · exact .refl s

theorem onward_connected (s : Station) (call : CallId) (outcome : Except IoFault LineId) :
    Onward asked callers s (s.connected call outcome) := by
  unfold connected
  split
  · split
    · refine Onward.trans ?_ (onward_finish _ call _)
      exact .of_same rfl rfl
    · exact onward_finish s call _
  · exact .refl s

theorem onward_handOver (s : Station) (call : CallId) (pool : Option PoolId)
    (take : Pool → Session → Pool) : Onward asked callers s (s.handOver call pool take) := by
  unfold handOver
  split
  · exact .refl s
  · have hgone : Onward asked callers s { s with own := s.own.erase call } := .of_same rfl rfl
    dsimp only
    split
    · exact hgone.trans (onward_onPool _ _ _)
    · exact .of_same rfl rfl

theorem onward_release (s : Station) (held : Held) (pool : Option PoolId) :
    Onward asked callers s (s.release held pool) := by
  cases held with
  | lent id loan => exact onward_onPool s id _
  | own call => exact onward_handOver s call pool _

theorem onward_destroy (s : Station) (held : Held) (pool : Option PoolId) :
    Onward asked callers s (s.destroy held pool) := by
  cases held with
  | lent id loan => exact onward_onPool s id _
  | own call => exact onward_handOver s call pool _

theorem onward_lose (s : Station) (held : Held) : Onward asked callers s (s.lose held) := by
  cases held with
  | lent id loan => exact onward_onPool s id _
  | own call => exact onward_handOver s call none Pool.destroy

/-! ## Calls on pools and channels -/

/-- A new call starts and has a pool act for it. -/
theorem onward_startOn (s : Station) (call : CallId) (hactivity : activity.work? = none)
    (id : PoolId) (f : Pool → Pool) :
    Onward asked callers s ((s.startCall call activity).onPool id f) :=
  (onward_startCall s call hactivity).trans (onward_onPool _ id f)

theorem onward_realtime (hquiet : s.Quiet) (call : CallId) (channel : ChannelId)
    (commands : List String) (forExecution : Bool) :
    Onward asked callers s (s.realtime call channel commands forExecution) := by
  have hstart : Onward asked callers s (s.startCall call (.writing channel forExecution)) :=
    onward_startCall s call rfl
  unfold realtime
  dsimp only
  split
  · exact hstart
  · rename_i c hc
    split
    · rename_i d hd
      refine hstart.trans (onward_onChannel_keeps (hstart.quiet hquiet) ?_)
      intro other hother
      obtain rfl := Option.some.inj (hc.symm.trans hother)
      exact Channel.keeps_sendRealtime hd
    · exact hstart.trans (onward_finish _ call _)

/-- A caller shuts a channel down. -/
theorem onward_stopChannel (hquiet : s.Quiet) (call : CallId) (hasked : asked id) :
    Onward asked callers s (s.stopChannel call id) := by
  have hstart : Onward asked callers s (s.startCall call (.stopping id)) :=
    onward_startCall s call rfl
  have hactivity : (s.startCall call (.stopping id)).calls.get? call = some (.stopping id) := by
    have hput : (s.putCall call (.stopping id)).calls.get? call = some (.stopping id) :=
      (Roster.get?_put _ _ _ _).trans (if_pos rfl)
    obtain ⟨ready, hwake⟩ := exists_ready_wake (s.putCall call (.stopping id)) (.call call)
    rw [startCall, hwake]
    exact hput
  refine hstart.trans (onward_onChannel (fun c _ => c.onward_shutdown call hasked) ?_)
  intro c hc other hother job link hstopping
  have hstops : c.stops = [] := by
    rw [Channel.stops, hstart.quiet hquiet id c hc]
    rfl
  obtain ⟨rfl, -⟩ := Channel.tells_shutdown hstops hother
  have hsame := Option.some.inj (hactivity.symm.trans hstopping)
  contradiction

theorem onward_execute (hquiet : s.Quiet) (call : CallId) (studio : String) (commands : Commands)
    (options : ExecuteOptions) :
    Onward asked callers s (s.execute call studio commands options) := by
  unfold execute
  split
  · exact .of_same rfl rfl
  · split
    · exact onward_realtime hquiet call _ _ true
    · exact onward_startOn s call rfl _ _

/-! ## Executing commands -/

theorem onward_executed (s : Station) (call : CallId) (pool : PoolId) (raw : Bool)
    (outcome : Except Fault String) : Onward asked callers s (s.executed call pool raw outcome) :=
  (onward_onPool s pool _).trans (onward_finish _ call _)

theorem onward_beginExecution (s : Station) (call : CallId) :
    Onward asked callers s (s.beginExecution call) := by
  unfold beginExecution
  split
  · split
    · dsimp only
      split
      · exact (onward_onPool s _ _).trans (onward_executed _ call _ _ _)
      · exact (onward_onPool s _ _).trans (onward_putCall _ call rfl)
    · exact .refl s
  · exact .refl s

theorem onward_executionMoved (s : Station) (call : CallId) (stimulus : Stimulus) :
    Onward asked callers s (s.executionMoved call stimulus) := by
  unfold executionMoved
  split
  · split
    · dsimp only
      split
      · exact (onward_onPool s _ _).trans (onward_executed _ call _ _ _)
      · exact onward_onPool s _ _
    · exact .refl s
  · exact .refl s

/-! ## Tasks -/

theorem onward_callHears (hquiet : s.Quiet) (call : CallId) (outcome : Outcome) :
    Onward asked callers s (s.callHears call outcome) := by
  unfold callHears
  split
  · exact onward_onPool s _ _
  · exact onward_onPool s _ _
  · exact onward_onPool s _ _
  · exact onward_onPool s _ _
  · exact onward_executionMoved s call _
  · exact onward_connected s call _
  · exact onward_talked s call _
  · exact onward_onChannel_keeps hquiet fun c _ => c.keeps_hearWrite call _
  · rename_i hcall
    exact onward_putJob hcall (.launched _ _)
  · exact .refl s

theorem onward_hear (hquiet : s.Quiet) (task : Task) (outcome : Outcome) :
    Onward asked callers s (s.hear task outcome) := by
  unfold hear
  split
  · exact onward_callHears hquiet _ outcome
  · exact onward_onPool s _ _
  · exact onward_onChannel_keeps hquiet fun c _ => c.keeps_dialled s.now _
  · exact onward_onChannel_keeps hquiet fun c _ => c.keeps_hearListener s.now _
  · exact .refl s

theorem onward_borrowOverdue (s : Station) (pool : PoolId) (call : CallId) :
    Onward asked callers s (s.borrowOverdue pool call) := by
  unfold borrowOverdue
  split
  · split <;> exact onward_onPool s pool _
  · exact .refl s

theorem onward_drainOverdue (s : Station) (pool : PoolId) :
    Onward asked callers s (s.drainOverdue pool) := by
  unfold drainOverdue
  split
  · split <;> exact onward_onPool s pool _
  · exact .refl s

theorem onward_callExpired (hquiet : s.Quiet) (call : CallId) :
    Onward asked callers s (s.callExpired call) := by
  unfold callExpired
  split
  · exact onward_borrowOverdue s _ call
  · exact onward_borrowOverdue s _ call
  · exact onward_executionMoved s call _
  · exact onward_connected s call _
  · exact onward_talked s call _
  · exact onward_drainOverdue s _
  · exact onward_drainOverdue s _
  · exact onward_onChannel_keeps hquiet fun c _ => c.keeps_writeExpired call s.now
  · exact .refl s

theorem onward_expire (hquiet : s.Quiet) (task : Task) :
    Onward asked callers s (s.expire task) := by
  cases task with
  | call call => exact onward_callExpired hquiet call
  | upkeep pool => exact onward_onPool s pool _
  | listener channel => exact onward_onChannel_keeps hquiet fun c _ => c.keeps_listenerExpired s.now

/-! ## Giving up -/

theorem onward_cancel (hquiet : s.Quiet) (hwork : s.work? call = none) :
    Onward asked callers s (s.cancel call) := by
  unfold cancel
  split
  · exact .refl s
  · rename_i activity hcall
    refine Onward.trans ?_ (onward_finish _ call _)
    split
    · exact onward_onPool s _ _
    · exact onward_onPool s _ _
    · exact onward_onPool s _ _
    · exact .refl s
    · exact onward_changeHeld s _ _
    · exact onward_onPool s _ _
    · exact onward_onChannel_keeps hquiet fun c _ => c.keeps_cancelCall call
    · exact onward_onChannel_keeps hquiet fun c _ => c.keeps_cancelCall call
    · rw [work_of_calls hcall] at hwork
      contradiction

theorem onward_letGoUnheld (s : Station) (kept : List PoolId) :
    Onward asked callers s (s.letGoUnheld kept) := by
  refine onward_fold (fun s id => ?_) _ s
  split
  · exact .refl s
  · exact onward_onPool s id _

end BroadcastLink.Station
