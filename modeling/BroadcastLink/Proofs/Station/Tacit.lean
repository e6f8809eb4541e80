import BroadcastLink.Proofs.Station.Links

/-!
# What gives out no text

Texts are given out at one place only, where the commands of a call are through. All else that a
station does, for pools, channels and the calls on the links, gives out no text, and begins no
execution of commands: an execution keeps the form in which its caller wants the response.
-/

namespace BroadcastLink

/-- The text that an answer gives out. -/
def Answer.text? : Answer → Option String
  | .executed text => text
  | _ => none

/-- The form in which a call that executes commands wants the response. -/
def Activity.raw? : Activity → Option Bool
  | .executing _ _ raw _ => some raw
  | _ => none

namespace Station

variable {s s' s'' : Station} {call : CallId} {activity : Activity} {answer : Answer}

/-- The texts that were given out, with the calls that got them. -/
def texts (s : Station) : List (CallId × String) :=
  s.answers.filterMap fun e => e.2.text?.map (e.1, ·)

/-- The form in which a call that executes commands wants the response. -/
def raw? (s : Station) (call : CallId) : Option Bool := (s.calls.get? call).bind Activity.raw?

theorem mem_texts {text : String} :
    (call, text) ∈ s.texts ↔ (call, .executed (some text)) ∈ s.answers := by
  simp only [texts, List.mem_filterMap, Option.map_eq_some_iff]
  constructor
  · rintro ⟨⟨c, a⟩, hmem, text', htext, heq⟩
    obtain ⟨rfl, rfl⟩ := Prod.mk.inj heq
    cases a with
    | executed found =>
      obtain rfl : found = some text' := htext
      exact hmem
    | _ => contradiction
  · intro hmem
    exact ⟨_, hmem, text, rfl, rfl⟩

/-- No text was given out, and no execution was begun. -/
structure Tacit (s s' : Station) : Prop where
  texts : s'.texts = s.texts
  raw : ∀ call raw, s'.raw? call = some raw → s.raw? call = some raw

namespace Tacit

theorem refl (s : Station) : Tacit s s := ⟨rfl, fun _ _ h => h⟩

theorem trans (h : Tacit s s') (h' : Tacit s' s'') : Tacit s s'' :=
  ⟨h'.texts.trans h.texts, fun call raw hraw => h.raw call raw (h'.raw call raw hraw)⟩

theorem of_same (hcalls : s'.calls = s.calls) (hanswers : s'.answers = s.answers) : Tacit s s' := by
  refine ⟨?_, ?_⟩
  · simp only [Station.texts, hanswers]
  · intro call raw hraw
    rwa [raw?, hcalls] at hraw

end Tacit

/-! ## Small steps -/

theorem tacit_wake (s : Station) (t : Task) : Tacit s (s.wake t) := by
  unfold wake
  split
  · exact .refl s
  · exact .of_same rfl rfl

theorem tacit_fold {α : Type} {act : Station → α → Station} (hact : ∀ s a, Tacit s (act s a))
    (acts : List α) (s : Station) : Tacit s (acts.foldl act s) := by
  induction acts generalizing s with
  | nil => exact .refl s
  | cons a rest ih => exact (hact s a).trans (ih _)

/-- A call may do anything then but begin to execute commands. -/
theorem Tacit.putCall (h : Tacit s s') (call : CallId)
    (hactivity : ∀ raw, activity.raw? = some raw → s.raw? call = some raw) :
    Tacit s (s'.putCall call activity) := by
  refine ⟨h.texts, ?_⟩
  intro other raw hraw
  replace hraw : ((s'.calls.put call activity).get? other).bind Activity.raw? = some raw := hraw
  rw [Roster.get?_put] at hraw
  split at hraw
  · rename_i heq
    rw [heq]
    exact hactivity raw hraw
  · exact h.raw other raw hraw

/-- What a call does then is no execution. -/
theorem tacit_putCall (s : Station) (call : CallId) (hactivity : activity.raw? = none) :
    Tacit s (s.putCall call activity) := by
  apply (Tacit.refl s).putCall call
  intro raw hraw
  rw [hactivity] at hraw
  contradiction

theorem tacit_startCall (s : Station) (call : CallId) (hactivity : activity.raw? = none) :
    Tacit s (s.startCall call activity) :=
  (tacit_putCall s call hactivity).trans (tacit_wake _ _)

theorem texts_answer (s : Station) (call : CallId) (answer : Answer) :
    (s.answer call answer).texts = s.texts ++ answer.text?.toList.map (call, ·) := by
  simp only [texts, Station.answer, List.filterMap_append]
  cases h : answer.text? <;> simp [h]

theorem tacit_answer (s : Station) (call : CallId) (hanswer : answer.text? = none) :
    Tacit s (s.answer call answer) := by
  refine ⟨?_, fun _ _ h => h⟩
  rw [texts_answer, hanswer]
  exact List.append_nil s.texts

theorem tacit_erase (s : Station) (call : CallId) :
    Tacit s { s with calls := s.calls.erase call } := by
  refine ⟨rfl, ?_⟩
  intro other raw hraw
  replace hraw : ((s.calls.erase call).get? other).bind Activity.raw? = some raw := hraw
  rw [Roster.get?_erase] at hraw
  split at hraw
  · contradiction
  · exact hraw

theorem tacit_finish (s : Station) (call : CallId) (hanswer : answer.text? = none) :
    Tacit s (s.finish call answer) :=
  (tacit_erase s call).trans (tacit_answer _ call hanswer)

/-! ## What pools ask for -/

theorem tacit_lent (s : Station) (call : CallId) (id : Nat) : Tacit s (s.lent call id) := by
  unfold lent
  split
  · exact tacit_finish s call rfl
  · -- The execution goes on with its session, as it was asked for.
    rename_i hcall
    apply (Tacit.refl s).putCall call
    intro raw hraw
    rw [raw?, hcall]
    exact hraw
  · exact .refl s

theorem tacit_drained (s : Station) (call : CallId) : Tacit s (s.drained call) := by
  unfold drained
  split
  · exact tacit_finish s call rfl
  · exact tacit_putCall s call rfl
  · exact .refl s

theorem tacit_doOwnAct (id : PoolId) (s : Station) (act : PoolAct) :
    Tacit s (doOwnAct id s act) := by
  cases act with
  | hangUp line => exact .of_same rfl rfl
  | freeIn other => exact .refl s
  | wake waiter =>
    cases waiter with
    | caller call => exact tacit_wake s _
    | drainer =>
      -- The call that drains the pool is woken, if there is one.
      unfold doOwnAct
      dsimp only
      split
      · exact tacit_wake s _
      · exact .refl s
  | wakeUpkeep => exact tacit_wake s _
  | lent call session => exact tacit_lent s call session
  | refused call fault => exact tacit_finish s call rfl
  | drained call => exact tacit_drained s call

theorem tacit_settlePool {act : Station → PoolAct → Station} (hact : ∀ s a, Tacit s (act s a))
    (s : Station) (id : PoolId) (p : Pool) : Tacit s (s.settlePool id p act) := by
  have hput : Tacit s { s with pools := s.pools.put id { p with acts := [] } } := .of_same rfl rfl
  exact hput.trans (tacit_fold hact p.acts _)

theorem tacit_doPoolAct (id : PoolId) (s : Station) (act : PoolAct) :
    Tacit s (doPoolAct id s act) := by
  cases act with
  | freeIn other =>
    unfold doPoolAct
    dsimp only
    split
    · exact .refl s
    · exact tacit_settlePool (tacit_doOwnAct other) s other _
  | hangUp line => exact tacit_doOwnAct id s (.hangUp line)
  | wake waiter => exact tacit_doOwnAct id s (.wake waiter)
  | wakeUpkeep => exact tacit_doOwnAct id s .wakeUpkeep
  | lent call session => exact tacit_doOwnAct id s (.lent call session)
  | refused call fault => exact tacit_doOwnAct id s (.refused call fault)
  | drained call => exact tacit_doOwnAct id s (.drained call)

theorem tacit_onPool (s : Station) (id : PoolId) (f : Pool → Pool) : Tacit s (s.onPool id f) := by
  unfold onPool
  split
  · exact .refl s
  · exact tacit_settlePool (tacit_doPoolAct id) s id _

/-! ## What channels ask for -/

/-- The end of a batch is told, and an execution over a channel has no text. -/
theorem tacit_batchSent (s : Station) (call : CallId) (written : Bool) :
    Tacit s (s.batchSent call written) := by
  unfold batchSent
  split
  · exact tacit_finish s call rfl
  · exact tacit_finish s call rfl
  · exact .refl s

theorem tacit_channelStopped (s : Station) (call : CallId) : Tacit s (s.channelStopped call) := by
  unfold channelStopped
  split
  · exact tacit_finish s call rfl
  · exact tacit_putCall s call rfl
  · exact .refl s

theorem tacit_doChannelAct (id : ChannelId) (s : Station) (act : ChannelAct) :
    Tacit s (doChannelAct id s act) := by
  cases act with
  | hangUp line => exact .of_same rfl rfl
  | wake user =>
    cases user with
    | listener => exact tacit_wake s _
    | call call => exact tacit_wake s _
  | publish publication => exact .of_same rfl rfl
  | sent call written => exact tacit_batchSent s call written
  | stopped call => exact tacit_channelStopped s call

theorem tacit_onChannel (s : Station) (id : ChannelId) (f : Channel → Channel) :
    Tacit s (s.onChannel id f) := by
  unfold onChannel
  split
  · exact .refl s
  · -- The channel is put back, does what it asks for, and wakes who waits for it.
    rename_i c hc
    have hput : Tacit s { s with channels := s.channels.put id { f c with acts := [] } } :=
      .of_same rfl rfl
    have hacts := hput.trans (tacit_fold (tacit_doChannelAct id) (f c).acts _)
    dsimp only
    split
    · exact hacts.trans (tacit_fold (fun s call => tacit_wake s (.call call)) _ _)
    · exact hacts

/-! ## Sessions in hand -/

theorem tacit_putHeld (s : Station) (held : Held) (session : Session) :
    Tacit s (s.putHeld held session) := by
  cases held with
  | lent pool loan => exact tacit_onPool s pool _
  | own call => exact .of_same rfl rfl

theorem tacit_changeHeld (s : Station) (held : Held) (f : Session → Session) :
    Tacit s (s.changeHeld held f) := by
  unfold changeHeld
  split
  · exact tacit_putHeld s held _
  · exact .refl s

/-- Who talks on a session of his own gets a response, which no execution has asked for. -/
theorem text_exchangeAnswer (purpose : Purpose) (outcome : Except Fault String) :
    (exchangeAnswer purpose outcome).text? = none := by
  unfold exchangeAnswer
  split
  · rfl
  · split <;> rfl

theorem tacit_talk (s : Station) (call : CallId) (held : Held) (purpose : Purpose)
    (begin : Session → Begun) : Tacit s (s.talk call held purpose begin) := by
  unfold talk
  split
  · exact .refl s
  · split
    · exact tacit_answer s call (text_exchangeAnswer purpose _)
    · exact (tacit_putHeld s held _).trans
        (tacit_startCall _ call rfl)

theorem tacit_talked (s : Station) (call : CallId) (stimulus : Stimulus) :
    Tacit s (s.talked call stimulus) := by
  unfold talked
  split
  · split
    · exact .refl s
    · dsimp only
      split
      · exact (tacit_putHeld s _ _).trans (tacit_finish _ call (text_exchangeAnswer _ _))
      · exact tacit_putHeld s _ _
  · exact .refl s

theorem tacit_connected (s : Station) (call : CallId) (outcome : Except IoFault LineId) :
    Tacit s (s.connected call outcome) := by
  unfold connected
  split
  · split
    · refine Tacit.trans ?_ (tacit_finish _ call rfl)
      exact .of_same rfl rfl
    · exact tacit_finish s call rfl
  · exact .refl s

theorem tacit_handOver (s : Station) (call : CallId) (pool : Option PoolId)
    (take : Pool → Session → Pool) : Tacit s (s.handOver call pool take) := by
  unfold handOver
  split
  · exact .refl s
  · have hgone : Tacit s { s with own := s.own.erase call } := .of_same rfl rfl
    dsimp only
    split
    · exact hgone.trans (tacit_onPool _ _ _)
    · exact .of_same rfl rfl

theorem tacit_release (s : Station) (held : Held) (pool : Option PoolId) :
    Tacit s (s.release held pool) := by
  cases held with
  | lent id loan => exact tacit_onPool s id _
  | own call => exact tacit_handOver s call pool _

theorem tacit_destroy (s : Station) (held : Held) (pool : Option PoolId) :
    Tacit s (s.destroy held pool) := by
  cases held with
  | lent id loan => exact tacit_onPool s id _
  | own call => exact tacit_handOver s call pool _

theorem tacit_lose (s : Station) (held : Held) : Tacit s (s.lose held) := by
  cases held with
  | lent id loan => exact tacit_onPool s id _
  | own call => exact tacit_handOver s call none Pool.destroy

/-! ## Calls on pools and channels -/

theorem tacit_acquire (s : Station) (call : CallId) (pool : PoolId) :
    Tacit s (s.acquire call pool) :=
  (tacit_startCall s call rfl).trans (tacit_onPool _ pool _)

theorem tacit_drainPool (s : Station) (call : CallId) (pool : PoolId) :
    Tacit s (s.drainPool call pool) :=
  (tacit_startCall s call rfl).trans (tacit_onPool _ pool _)

theorem tacit_stopChannel (s : Station) (call : CallId) (channel : ChannelId) :
    Tacit s (s.stopChannel call channel) :=
  (tacit_startCall s call rfl).trans (tacit_onChannel _ channel _)

theorem tacit_realtime (s : Station) (call : CallId) (channel : ChannelId)
    (commands : List String) (forExecution : Bool) :
    Tacit s (s.realtime call channel commands forExecution) := by
  have hstart : Tacit s (s.startCall call (.writing channel forExecution)) :=
    tacit_startCall s call rfl
  unfold realtime
  dsimp only
  split
  · exact hstart
  · split
    · exact hstart.trans (tacit_onChannel _ channel _)
    · exact hstart.trans (tacit_finish _ call rfl)

/-! ## Calls that change the set of links -/

theorem tacit_putJob (s : Station) (call : CallId) (job : Job) (stage : JobStage) :
    Tacit s (s.putJob call job stage) :=
  tacit_putCall s call rfl

theorem tacit_onRegistry (s : Station) (f : Registry → Registry) : Tacit s (s.onRegistry f) :=
  .of_same rfl rfl

theorem tacit_giveUpTurn (s : Station) (call : CallId) : Tacit s (s.giveUpTurn call) := by
  unfold giveUpTurn
  exact (tacit_onRegistry s _).trans (tacit_fold (fun s call => tacit_wake s (.call call)) _ _)

theorem tacit_finishJob (s : Station) (call : CallId) (hanswer : answer.text? = none) :
    Tacit s (s.finishJob call answer) :=
  (tacit_giveUpTurn s call).trans (tacit_finish _ call hanswer)

theorem tacit_startJob (s : Station) (call : CallId) (job : Job) :
    Tacit s (s.startJob call job) :=
  (tacit_onRegistry s _).trans (tacit_startCall _ call rfl)

theorem tacit_insertLink (s : Station) (studio : Studio) : Tacit s (s.insertLink studio) := by
  obtain ⟨ready, hinsert⟩ := exists_ready_insertLink s studio
  rw [hinsert]
  exact .of_same rfl rfl

theorem tacit_takeDown (s : Station) (call : CallId) (job : Job) (link : Link) :
    Tacit s (s.takeDown call job link) :=
  (tacit_putJob s call job _).trans (tacit_onPool _ link.pool _)

theorem tacit_stopLink (s : Station) (call : CallId) (job : Job) (link : Link) :
    Tacit s (s.stopLink call job link) :=
  (tacit_putJob s call job _).trans (tacit_onChannel _ link.channel _)

theorem tacit_configure (s : Station) (call : CallId) (desired : Fleet) :
    Tacit s (s.configure call desired) := by
  unfold configure
  split
  · -- It was refused, and that is no text.
    exact tacit_answer s call rfl
  · exact tacit_startJob s call _

theorem tacit_configureNext (s : Station) (call : CallId) (w : Reconfiguration) :
    Tacit s (s.configureNext call w) := by
  unfold configureNext
  split
  · exact (tacit_onRegistry s _).trans (tacit_takeDown _ call _ _)
  · exact (tacit_onRegistry s _).trans (tacit_finishJob _ call rfl)
  · dsimp only
    split
    · -- The link is there: it stays, is resized, or is taken down.
      split
      · exact tacit_putJob s call _ _
      · split
        · refine Tacit.trans ?_ (tacit_putJob _ call _ _)
          refine Tacit.trans ?_ (tacit_onRegistry _ _)
          exact (tacit_onRegistry s _).trans (tacit_onPool _ _ _)
        · exact (tacit_onRegistry s _).trans (tacit_takeDown _ call _ _)
    · -- There is no link: the studio is launched, or linked at once.
      split
      · exact (tacit_onRegistry s _).trans (tacit_putJob _ call _ _)
      · exact (tacit_insertLink s _).trans (tacit_putJob _ call _ _)

theorem tacit_configureStopped (s : Station) (call : CallId) (w : Reconfiguration) :
    Tacit s (s.configureStopped call w) := by
  unfold configureStopped
  split
  · exact (tacit_onRegistry s _).trans (tacit_putJob _ call _ _)
  · exact (tacit_insertLink s _).trans (tacit_putJob _ call _ _)
  · exact tacit_putJob s call _ _

theorem tacit_configureLaunched (s : Station) (call : CallId) (w : Reconfiguration)
    (studio : Studio) (fault : Option Fault) :
    Tacit s (s.configureLaunched call w studio fault) := by
  unfold configureLaunched
  dsimp only
  split
  · exact (tacit_insertLink s _).trans (tacit_putJob _ call _ _)
  · exact (tacit_onRegistry s _).trans (tacit_putJob _ call _ _)

theorem tacit_launchNext (s : Station) (call : CallId) (name : String) :
    Tacit s (s.launchNext call name) := by
  unfold launchNext
  split
  · exact tacit_finishJob s call rfl
  · split
    · exact tacit_finishJob s call rfl
    · split
      · exact (tacit_onRegistry s _).trans (tacit_takeDown _ call _ _)
      · exact (tacit_onRegistry s _).trans (tacit_putJob _ call _ _)

theorem tacit_launchStopped (s : Station) (call : CallId) (name : String) :
    Tacit s (s.launchStopped call name) := by
  unfold launchStopped
  split
  · exact tacit_finishJob s call rfl
  · exact (tacit_onRegistry s _).trans (tacit_putJob _ call _ _)

theorem tacit_launchLaunched (s : Station) (call : CallId) (name : String) (studio : Studio)
    (fault : Option Fault) : Tacit s (s.launchLaunched call name studio fault) := by
  unfold launchLaunched
  split
  · exact (tacit_insertLink s _).trans (tacit_finishJob _ call rfl)
  · exact (tacit_onRegistry s _).trans (tacit_finishJob _ call rfl)

theorem tacit_shutdownNext (s : Station) (call : CallId) (rest : List (String × Link)) :
    Tacit s (s.shutdownNext call rest) := by
  cases rest with
  | nil => exact (tacit_onRegistry s _).trans (tacit_finishJob _ call rfl)
  | cons first rest => exact (tacit_onRegistry s _).trans (tacit_takeDown _ call _ _)

theorem tacit_shutdownStopped (s : Station) (call : CallId) (rest : List (String × Link)) :
    Tacit s (s.shutdownStopped call rest) := by
  cases rest with
  | nil => exact tacit_putJob s call _ _
  | cons first rest => exact (tacit_onRegistry s _).trans (tacit_putJob _ call _ _)

theorem tacit_beginJob (s : Station) (call : CallId) (job : Job) :
    Tacit s (s.beginJob call job) := by
  cases job with
  | configure w => exact tacit_putJob s call _ _
  | launch name => exact tacit_putJob s call _ _
  | shutdown rest => exact (tacit_onRegistry s _).trans (tacit_putJob _ call _ _)

theorem tacit_resumeJob (s : Station) (call : CallId) (job : Job) (stage : JobStage) :
    Tacit s (s.resumeJob call job stage) := by
  cases stage with
  | queued =>
    unfold resumeJob
    dsimp only
    split
    · exact tacit_beginJob s call job
    · exact .refl s
  | next =>
    cases job with
    | configure w => exact tacit_configureNext s call w
    | launch name => exact tacit_launchNext s call name
    | shutdown rest => exact tacit_shutdownNext s call rest
  | draining link => exact tacit_onPool s link.pool _
  | drained link => exact tacit_stopLink s call job link
  | stopping link => exact tacit_onChannel s link.channel _
  | stopped link =>
    cases job with
    | configure w => exact tacit_configureStopped s call w
    | launch name => exact tacit_launchStopped s call name
    | shutdown rest => exact tacit_shutdownStopped s call rest
  | launching studio => exact .refl s
  | launched studio fault =>
    cases job with
    | configure w => exact tacit_configureLaunched s call w studio fault
    | launch name => exact tacit_launchLaunched s call name studio fault
    | shutdown rest => exact tacit_putJob s call _ _

/-! ## Tasks

An execution gives out its text when it begins to send, or when its exchange goes on. -/

/-- A call has its session, and is about to send its commands on it. -/
def IsLent (s : Station) (call : CallId) : Prop :=
  ∃ pool commands raw, s.calls.get? call = some (.executing pool commands raw .lent)

/-- A call has sent its commands, or is sending them. -/
def IsExchanging (s : Station) (call : CallId) : Prop :=
  ∃ pool commands raw, s.calls.get? call = some (.executing pool commands raw .exchanging)

theorem tacit_resumeCall (hlent : ¬ s.IsLent call) : Tacit s (s.resumeCall call) := by
  unfold resumeCall
  split
  · exact tacit_onPool s _ _
  · exact tacit_onPool s _ _
  · rename_i hcall
    exact absurd ⟨_, _, _, hcall⟩ hlent
  · exact tacit_onPool s _ _
  · exact tacit_onChannel s _ _
  · exact tacit_onChannel s _ _
  · exact tacit_resumeJob s call _ _
  · exact .refl s

theorem tacit_callHears {outcome : Outcome}
    (hexchanging : ∀ stimulus, outcome = .stimulus stimulus → ¬ s.IsExchanging call) :
    Tacit s (s.callHears call outcome) := by
  unfold callHears
  split
  · exact tacit_onPool s _ _
  · exact tacit_onPool s _ _
  · exact tacit_onPool s _ _
  · exact tacit_onPool s _ _
  · rename_i hcall
    exact absurd ⟨_, _, _, hcall⟩ (hexchanging _ rfl)
  · exact tacit_connected s call _
  · exact tacit_talked s call _
  · exact tacit_onChannel s _ _
  · exact tacit_putJob s call _ _
  · exact .refl s

/-! ## Time, and giving up -/

theorem tacit_borrowOverdue (s : Station) (pool : PoolId) (call : CallId) :
    Tacit s (s.borrowOverdue pool call) := by
  unfold borrowOverdue
  split
  · split <;> exact tacit_onPool s pool _
  · exact .refl s

theorem tacit_drainOverdue (s : Station) (pool : PoolId) : Tacit s (s.drainOverdue pool) := by
  unfold drainOverdue
  split
  · split <;> exact tacit_onPool s pool _
  · exact .refl s

theorem tacit_callExpired (hexchanging : ¬ s.IsExchanging call) :
    Tacit s (s.callExpired call) := by
  unfold callExpired
  split
  · exact tacit_borrowOverdue s _ call
  · exact tacit_borrowOverdue s _ call
  · rename_i hcall
    exact absurd ⟨_, _, _, hcall⟩ hexchanging
  · exact tacit_connected s call _
  · exact tacit_talked s call _
  · exact tacit_drainOverdue s _
  · exact tacit_drainOverdue s _
  · exact tacit_onChannel s _ _
  · exact .refl s

theorem tacit_cancelJob (s : Station) (call : CallId) (stage : JobStage) :
    Tacit s (s.cancelJob call stage) := by
  unfold cancelJob
  refine Tacit.trans ?_ (tacit_giveUpTurn _ call)
  split
  · exact tacit_onPool s _ _
  · exact tacit_onChannel s _ _
  · exact .refl s

theorem tacit_cancel (s : Station) (call : CallId) : Tacit s (s.cancel call) := by
  unfold cancel
  split
  · exact .refl s
  · -- First the call is taken out of what it waits for, then it is over.
    refine Tacit.trans ?_ (tacit_finish _ call rfl)
    split
    · exact tacit_onPool s _ _
    · exact tacit_onPool s _ _
    · exact tacit_onPool s _ _
    · exact .refl s
    · exact tacit_changeHeld s _ _
    · exact tacit_onPool s _ _
    · exact tacit_onChannel s _ _
    · exact tacit_onChannel s _ _
    · exact tacit_cancelJob s call _

theorem tacit_letGoUnheld (s : Station) (kept : List PoolId) : Tacit s (s.letGoUnheld kept) := by
  apply tacit_fold
  intro s id
  split
  · exact .refl s
  · exact tacit_onPool s id _

end Station

end BroadcastLink
