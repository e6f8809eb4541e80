import BroadcastLink.Proofs.Channel.Wholeness

/-!
# What an event does to the calls on a channel

A call to write begins, goes on and is over, and is told whether its commands were written. Whatever
happens on the channel, one event moves at most one call one step: nothing is told and no dropped
write is counted but in that step.
-/

namespace BroadcastLink

/-- The call that is told whether its commands were written, and what it is told, if one is. -/
def ChannelAct.answer? : ChannelAct → Option (CallId × Bool)
  | .sent call written => some (call, written)
  | _ => none

/-- Does a call at this stage write commands, or wait to? -/
def ChannelCall.isSending : ChannelCall → Bool
  | .queued _ | .writing _ _ => true
  | .closing | .joining => false

/-- A call to write some commands, none of which breaks a line, begins with the event. -/
def ChannelEvent.Starts : ChannelEvent → CallId → Prop
  | .sendRealtime call commands _, c => c = call ∧ Outflow.Clean commands ∧ commands ≠ []
  | _, _ => False

/-- The calls on a channel, what calls to write were told so far, and the writes counted as
dropped. -/
structure Docket where
  calls : Roster CallId ChannelCall
  answers : List (CallId × Bool)
  dropped : UInt64

namespace Docket

/-- A call is at a stage. -/
def put (k : Docket) (call : CallId) (stage : ChannelCall) : Docket :=
  { k with calls := k.calls.put call stage }

/-- A call is over. -/
def erase (k : Docket) (call : CallId) : Docket := { k with calls := k.calls.erase call }

/-- A call is told whether its commands were written. -/
def tell (k : Docket) (call : CallId) (written : Bool) : Docket :=
  { k with answers := k.answers ++ [(call, written)] }

/-- A call is over with its commands dropped. -/
def refuse (k : Docket) (call : CallId) : Docket :=
  { (k.erase call).tell call false with dropped := k.dropped + 1 }

/-- What an event may do to the calls on a channel. -/
inductive Turn (k : Docket) (event : ChannelEvent) : Docket → Prop
  | rests (hnone : ∀ call, ¬ event.Starts call) : Turn k event k
  | queues {call : CallId} {stage : ChannelCall} (hstarts : event.Starts call)
      (hstage : stage.isSending = true) : Turn k event (k.put call stage)
  /-- Without commands there is nothing to write. -/
  | declines {call : CallId} {now : Instant} (hevent : event = .sendRealtime call [] now) :
      Turn k event (k.tell call false)
  | goesOn {call : CallId} {before after : ChannelCall} (hnone : ∀ call, ¬ event.Starts call)
      (hcall : k.calls.get? call = some before) (hstage : after.isSending = before.isSending) :
      Turn k event (k.put call after)
  | refuses {call : CallId} (hstarts : event.Starts call) : Turn k event (k.refuse call)
  | drops {call : CallId} {stage : ChannelCall} (hnone : ∀ call, ¬ event.Starts call)
      (hcall : k.calls.get? call = some stage) (hstage : stage.isSending = true) :
      Turn k event (k.refuse call)
  /-- The last bytes of a payload were taken. -/
  | confirms {call : CallId} {rest : Bytes} {deadline : Instant} {n : Nat}
      (hevent : event = .hearWrite call (.accepted n))
      (hcall : k.calls.get? call = some (.writing rest deadline)) (hlast : rest.drop n = []) :
      Turn k event ((k.erase call).tell call true)
  | cancels {call : CallId} (hevent : event = .cancelCall call) : Turn k event (k.erase call)
  /-- A call that shuts the channel down begins. -/
  | shuts {call : CallId} {stage : ChannelCall} (hevent : event = .shutdown call)
      (hstage : stage.isSending = false) : Turn k event (k.put call stage)
  | stops {call : CallId} (hnone : ∀ call, ¬ event.Starts call) (hcall : event = .shutdown call ∨
      ∃ stage, k.calls.get? call = some stage ∧ stage.isSending = false) :
      Turn k event (k.erase call)

theorem refuse_put (k : Docket) (call : CallId) (stage : ChannelCall) :
    (k.put call stage).refuse call = k.refuse call := by
  simp only [refuse, erase, tell, put, Roster.erase_put]

theorem put_put (k : Docket) (call : CallId) (before after : ChannelCall) :
    (k.put call before).put call after = k.put call after := by
  simp only [put, Roster.put_put]

theorem erase_put (k : Docket) (call : CallId) (stage : ChannelCall) :
    (k.put call stage).erase call = k.erase call := by
  simp only [put, erase, Roster.erase_put]

end Docket

namespace Channel

open Docket (Turn)

variable {c d : Channel} {call : CallId} {commands : List String}

/-- What calls to write were told so far. -/
def answers (c : Channel) : List (CallId × Bool) := c.acts.filterMap ChannelAct.answer?

/-- What counts for the answers. -/
def docket (c : Channel) : Docket := ⟨c.calls, c.answers, c.counters.writesDropped⟩

/-! ## Small steps -/

theorem docket_acts (c : Channel) {acts : List ChannelAct} (h : ∀ act ∈ acts, act.answer? = none) :
    { c with acts := c.acts ++ acts }.docket = c.docket := by
  have hnone : acts.filterMap ChannelAct.answer? = [] := List.filterMap_eq_nil_iff.mpr h
  simp [docket, answers, hnone]

theorem docket_ask (c : Channel) {act : ChannelAct} (h : act.answer? = none) :
    (c.ask act).docket = c.docket :=
  docket_acts c fun _ hmem => List.mem_singleton.mp hmem ▸ h

theorem docket_sent (c : Channel) (call : CallId) (written : Bool) :
    (c.ask (.sent call written)).docket = c.docket.tell call written := by
  simp [docket, answers, ask, Docket.tell, ChannelAct.answer?]

theorem docket_giveUp (c : Channel) (user : WriterUser) : (c.giveUp user).docket = c.docket := by
  refine docket_acts { c with lock := _ } fun act hmem => ?_
  obtain ⟨next, -, rfl⟩ := List.mem_map.mp hmem
  rfl

theorem docket_takeWriter (c : Channel) : c.takeWriter.docket = c.docket := by
  unfold takeWriter
  split
  · exact docket_ask { c with writer := none } rfl
  · rfl

/-! ## Calls -/

theorem docket_dropWrite (c : Channel) (call : CallId) :
    (c.dropWrite call).docket = c.docket.refuse call := by
  have hgiven := docket_giveUp { c with counters := c.counters.writeDropped } (.call call)
  rw [dropWrite, docket_sent]
  exact congrArg (fun k : Docket => (k.erase call).tell call false) hgiven

/-- With the lock a call begins to write, or its commands are dropped. -/
theorem docket_beginWrite (c : Channel) (call : CallId) (payload : Bytes) (now : Instant) :
    (c.beginWrite call payload now).docket = c.docket.refuse call ∨
      ∃ deadline, (c.beginWrite call payload now).docket =
        c.docket.put call (.writing payload deadline) := by
  unfold beginWrite
  split
  · exact .inr ⟨_, rfl⟩
  · exact .inl (docket_dropWrite c call)

theorem docket_breakWriter (c : Channel) (call : CallId) :
    (c.breakWriter call).docket = c.docket.refuse call := by
  rw [breakWriter, docket_dropWrite, docket_ask _ rfl]
  exact congrArg (fun k : Docket => k.refuse call) (docket_takeWriter c)

theorem docket_closeWriter (c : Channel) (call : CallId) :
    (c.closeWriter call).docket = c.docket.erase call ∨
      (c.closeWriter call).docket = c.docket.put call .joining := by
  have htaken : (c.takeWriter.giveUp (.call call)).docket = c.docket :=
    (docket_giveUp _ _).trans (docket_takeWriter c)
  unfold closeWriter
  dsimp only
  split
  · left
    rw [docket_ask _ rfl]
    exact congrArg (fun k : Docket => k.erase call) htaken
  · exact .inr (congrArg (fun k : Docket => k.put call .joining) htaken)

/-- Only where there are no commands there is nothing to write. -/
theorem lineBytes_eq_nil (h : lineBytes commands = []) : commands = [] := by
  cases commands with
  | nil => rfl
  | cons command commands =>
    rw [lineBytes, List.flatMap_cons] at h
    simp at h

theorem realtimePayload_of_clean (h : Outflow.Clean commands) :
    realtimePayload commands = .ok (lineBytes commands) := by
  rw [realtimePayload, List.find?_eq_none.mpr fun command hmem => by simp [h command hmem]]

theorem docketTurn_sendRealtime (c : Channel) (call : CallId) (commands : List String)
    (now : Instant) :
    Turn c.docket (.sendRealtime call commands now)
      (c.perform (.sendRealtime call commands now)).docket := by
  rw [perform]
  split
  · rename_i d hsent
    unfold sendRealtime at hsent
    split at hsent
    · contradiction
    · rename_i hempty
      obtain rfl := Except.ok.inj hsent
      obtain rfl := lineBytes_eq_nil (Outflow.clean_of_realtimePayload hempty).1.symm
      rw [docket_sent]
      exact .declines rfl
    · rename_i payload hne hpayload
      obtain rfl := Except.ok.inj hsent
      obtain ⟨hlines, hclean⟩ := Outflow.clean_of_realtimePayload hpayload
      have hsome : commands ≠ [] := by
        rintro rfl
        exact hne hlines
      unfold queueWrite
      dsimp only
      split
      · -- The lock is free, so the call does not even wait.
        rcases docket_beginWrite ((c.request (.call call)).putCall call (.queued payload)) call
            payload now with hdropped | ⟨deadline, hwrites⟩
        · rw [hdropped]
          show Turn c.docket _ ((c.docket.put call (.queued payload)).refuse call)
          rw [Docket.refuse_put]
          exact .refuses ⟨rfl, hclean, hsome⟩
        · rw [hwrites]
          show Turn c.docket _ ((c.docket.put call (.queued payload)).put call _)
          rw [Docket.put_put]
          exact .queues ⟨rfl, hclean, hsome⟩ rfl
      · exact .queues ⟨rfl, hclean, hsome⟩ rfl
  · rename_i fault hrejected
    refine .rests fun c hstarts => ?_
    obtain ⟨-, hclean, -⟩ := hstarts
    rw [sendRealtime, realtimePayload_of_clean hclean] at hrejected
    split at hrejected <;> contradiction

theorem docketTurn_hearWrite (c : Channel) (call : CallId) (stimulus : Stimulus) :
    Turn c.docket (.hearWrite call stimulus) (c.hearWrite call stimulus).docket := by
  unfold hearWrite
  split
  · rename_i rest deadline n hcall
    split
    · rw [docket_breakWriter]
      exact .drops (fun _ hstarts => hstarts) hcall rfl
    · split
      · rename_i hlast
        rw [docket_sent]
        show Turn c.docket _ (((c.giveUp (.call call)).docket.erase call).tell call true)
        rw [docket_giveUp]
        exact .confirms rfl hcall hlast
      · exact .goesOn (fun _ hstarts => hstarts) hcall rfl
  · rename_i hcall
    rw [docket_breakWriter]
    exact .drops (fun _ hstarts => hstarts) hcall rfl
  · exact .rests fun _ hstarts => hstarts

theorem docketTurn_writeExpired (c : Channel) (call : CallId) (now : Instant) :
    Turn c.docket (.writeExpired call now) (c.writeExpired call now).docket := by
  unfold writeExpired
  split
  · rename_i hcall
    split
    · rw [docket_breakWriter]
      exact .drops (fun _ hstarts => hstarts) hcall rfl
    · exact .rests fun _ hstarts => hstarts
  · exact .rests fun _ hstarts => hstarts

theorem docketTurn_resumeCall (c : Channel) (call : CallId) (now : Instant) :
    Turn c.docket (.resumeCall call now) (c.resumeCall call now).docket := by
  unfold resumeCall
  split
  · split
    · rename_i payload hcall
      rcases docket_beginWrite c call payload now with hdropped | ⟨deadline, hwrites⟩
      · rw [hdropped]
        exact .drops (fun _ hstarts => hstarts) hcall rfl
      · rw [hwrites]
        exact .goesOn (fun _ hstarts => hstarts) hcall rfl
    · rename_i hcall
      rcases docket_closeWriter c call with hover | hjoins
      · rw [hover]
        exact .stops (fun _ hstarts => hstarts) (.inr ⟨_, hcall, rfl⟩)
      · rw [hjoins]
        exact .goesOn (fun _ hstarts => hstarts) hcall rfl
    · rename_i hcall
      rw [docket_ask _ rfl]
      exact .stops (fun _ hstarts => hstarts) (.inr ⟨_, hcall, rfl⟩)
    · exact .rests fun _ hstarts => hstarts
  · exact .rests fun _ hstarts => hstarts

theorem docketTurn_shutdown (c : Channel) (call : CallId) :
    Turn c.docket (.shutdown call) (c.shutdown call).docket := by
  unfold shutdown
  split
  · rw [docket_ask c rfl]
    exact .rests fun _ hstarts => hstarts
  · have hclosing : ((({ c with isCancelled := true }.ask (.wake .listener)).request
        (.call call)).putCall call .closing).docket = c.docket.put call .closing :=
      congrArg (fun k : Docket => k.put call .closing)
        (@docket_ask { c with isCancelled := true } (.wake .listener) rfl)
    dsimp only
    split
    · rcases docket_closeWriter ((({ c with isCancelled := true }.ask (.wake .listener)).request
          (.call call)).putCall call .closing) call with hover | hjoins
      · rw [hover, hclosing, Docket.erase_put]
        exact .stops (fun _ hstarts => hstarts) (.inl rfl)
      · rw [hjoins, hclosing, Docket.put_put]
        exact .shuts rfl rfl
    · rw [hclosing]
      exact .shuts rfl rfl

/-! ## The listener -/

theorem docket_afterRemoval (c : Channel) (now : Instant) :
    (c.afterRemoval now).docket = c.docket := by
  have hgone : ({ c.takeWriter with counters := c.counters.setConnected false }.giveUp
      .listener).docket = c.docket := by
    rw [docket_giveUp]
    show ({ c.takeWriter.docket with dropped := c.docket.dropped } : Docket) = c.docket
    rw [docket_takeWriter]
  unfold afterRemoval
  dsimp only
  split
  · exact hgone
  · exact hgone

theorem docket_remove (c : Channel) (now : Instant) : (c.remove now).docket = c.docket := by
  unfold remove
  dsimp only
  split
  · exact docket_afterRemoval { c.request .listener with listener := .removing } now
  · rfl

theorem docket_lose (c : Channel) (line : LineId) (now : Instant) :
    (c.lose line now).docket = c.docket := by
  unfold lose
  split
  · exact docket_remove c now
  · exact (docket_remove _ now).trans (docket_ask c rfl)

theorem docket_install (c : Channel) (line : LineId) : (c.install line).docket = c.docket :=
  docket_giveUp { c with writer := _, isBroken := _, counters := _, listener := _ } .listener

theorem docket_greeted (c : Channel) (line : LineId) : (c.greeted line).docket = c.docket := by
  unfold greeted
  dsimp only
  split
  · exact docket_install { c.request .listener with
      framer := c.framer.reset, listener := .installing line } line
  · rfl

theorem docket_dialled (c : Channel) (now : Instant) (outcome : Except IoFault LineId) :
    (c.dialled now outcome).docket = c.docket := by
  unfold dialled
  split
  · split
    · rfl
    · exact docket_remove c now
  · rfl

theorem docket_listen (c : Channel) (bytes : Bytes) : (c.listen bytes).docket = c.docket := by
  unfold listen
  dsimp only
  rw [foldl_countPacket]
  refine docket_acts { c with framer := _, counters := _ } fun act hmem => ?_
  obtain ⟨publication, -, rfl⟩ := List.mem_map.mp hmem
  rfl

theorem docket_hearListener (c : Channel) (now : Instant) (stimulus : Stimulus) :
    (c.hearListener now stimulus).docket = c.docket := by
  unfold hearListener
  split
  · split
    · exact docket_lose c _ now
    · split
      · exact docket_greeted c _
      · rfl
  · exact docket_lose c _ now
  · exact docket_listen c _
  · exact docket_lose c _ now
  · exact docket_lose c _ now
  · rfl

theorem docket_resumeListener (c : Channel) (now : Instant) :
    (c.resumeListener now).docket = c.docket := by
  unfold resumeListener
  split
  · split
    · exact docket_remove c now
    · rfl
    · exact docket_lose c _ now
    · exact docket_install c _
    · exact docket_afterRemoval c now
    · rfl
  · rfl

theorem docket_listenerExpired (c : Channel) (now : Instant) :
    (c.listenerExpired now).docket = c.docket := by
  have hended : (c.dialExpired now).docket = c.docket := by
    unfold dialExpired
    split
    · split
      · exact docket_dialled c now _
      · rfl
    · rfl
  unfold listenerExpired listenerRested
  split
  · split
    · exact hended
    · exact hended
  · exact hended

/-- Whatever happens to a channel is one turn of its calls. -/
theorem docketTurn_perform (c : Channel) (event : ChannelEvent) :
    Turn c.docket event (c.perform event).docket := by
  cases event with
  | dialled now outcome => exact docket_dialled c now outcome ▸ .rests fun _ hstarts => hstarts
  | hearListener now stimulus =>
    exact docket_hearListener c now stimulus ▸ .rests fun _ hstarts => hstarts
  | listenerExpired now => exact docket_listenerExpired c now ▸ .rests fun _ hstarts => hstarts
  | resumeListener now => exact docket_resumeListener c now ▸ .rests fun _ hstarts => hstarts
  | sendRealtime call commands now => exact docketTurn_sendRealtime c call commands now
  | hearWrite call stimulus => exact docketTurn_hearWrite c call stimulus
  | writeExpired call now => exact docketTurn_writeExpired c call now
  | resumeCall call now => exact docketTurn_resumeCall c call now
  | cancelCall call =>
    have hgiven := congrArg (fun k : Docket => k.erase call) (docket_giveUp c (.call call))
    show Turn c.docket _ ((c.giveUp (.call call)).docket.erase call)
    exact hgiven ▸ .cancels rfl
  | shutdown call => exact docketTurn_shutdown c call

end Channel

end BroadcastLink
