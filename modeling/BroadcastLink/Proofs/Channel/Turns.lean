import BroadcastLink.Proofs.Channel.Pipeline

/-!
# The turns of a channel's connection

A channel connects, greets, reports its connection, and gives it up again. Of everything that
happens to it, this part is a few turns: the listener goes from one stage to the next, the writer is
put there or taken away, and what is given up is hung up. Whatever else happens leaves it alone.
-/

namespace BroadcastLink

namespace ListenerStage

/-- The connection that the listener is on. -/
def line? : ListenerStage → Option LineId
  | .greeting line _ | .installing line | .reading line => some line
  | _ => none

/-- Does the listener connect, or has it a connection that it did not give up? -/
def isTrying : ListenerStage → Bool
  | .dialling _ | .greeting _ _ | .installing _ | .reading _ => true
  | _ => false

/-- Does the listener connect? -/
def isDialling : ListenerStage → Bool
  | .dialling _ => true
  | _ => false

end ListenerStage

/-- The connection that is to be hung up, if one is. -/
def ChannelAct.hungUp? : ChannelAct → Option LineId
  | .hangUp line => some line
  | _ => none

/-- Can the event be one of this moment? What calls do to the writer without looking at the clock
can happen at any. -/
def ChannelEvent.occursAt (now : Instant) : ChannelEvent → Bool
  | .dialled instant _ | .hearListener instant _ | .listenerExpired instant
  | .resumeListener instant | .sendRealtime _ _ instant | .writeExpired _ instant
  | .resumeCall _ instant => instant == now
  | .hearWrite _ _ | .cancelCall _ | .shutdown _ => true

/-- Where a channel stands with its connection: the listener, the writer, what is reported, the
connections hung up so far, and how long the listener rests between connections. -/
structure Stance where
  listener : ListenerStage
  writer : Option LineId
  connected : Bool
  connections : UInt64
  hungUp : List LineId
  delay : Duration

namespace Stance

/-- The writer is taken away, and its side hung up. -/
def severed (s : Stance) : Stance :=
  { s with writer := none, hungUp := s.hungUp ++ s.writer.toList }

/-- The connection that the listener is on is hung up, unless its writer is still there. -/
def Covers (s : Stance) (dropped : List LineId) : Prop :=
  ∀ line, s.listener.line? = some line → s.writer = some line ∨ line ∈ dropped

/-- What may happen to a channel's connection at a moment. -/
inductive Turn (now : Instant) (s : Stance) : Stance → Prop
  | same : Turn now s s
  | severs : Turn now s s.severed
  | opens {deadline : Instant} (line : LineId) (hlistener : s.listener = .dialling deadline) :
      Turn now s { s with listener := .greeting line Channel.greetingBytes }
  | greets {line : LineId} {rest : Bytes} (left : Bytes)
      (hlistener : s.listener = .greeting line rest) :
      Turn now s { s with listener := .greeting line left }
  /-- The greeting is out, and somebody else has the lock. -/
  | waits {line : LineId} {rest : Bytes} (hlistener : s.listener = .greeting line rest) :
      Turn now s { s with listener := .installing line }
  | reports {line : LineId}
      (hlistener : (∃ rest, s.listener = .greeting line rest) ∨ s.listener = .installing line) :
      Turn now s { s with
        listener := .reading line
        writer := some line
        connected := true
        connections := s.connections + 1 }
  /-- The listener is done with its connection, and somebody else has the lock. -/
  | leaves {dropped : List LineId} (htrying : s.listener.isTrying = true)
      (hdropped : s.Covers dropped) :
      Turn now s { s with listener := .removing, hungUp := s.hungUp ++ dropped }
  /-- Nothing is left of the connection. -/
  | clears {dropped : List LineId} {stage : ListenerStage}
      (hbefore : s.listener.isTrying = true ∨ s.listener = .removing) (hdropped : s.Covers dropped)
      (hstage : stage = .over ∨ stage = .resting (s.delay.after now)) :
      Turn now s { { s with hungUp := s.hungUp ++ dropped }.severed with
        connected := false, listener := stage }
  | ends {wakeAt : Instant} (hlistener : s.listener = .resting wakeAt) :
      Turn now s { s with listener := .over }
  | dials {wakeAt : Instant} (deadline : Instant) (hlistener : s.listener = .resting wakeAt)
      (hdue : wakeAt ≤ now) : Turn now s { s with listener := .dialling deadline }

theorem Turn.delay {now : Instant} {s s' : Stance} (h : Turn now s s') : s'.delay = s.delay := by
  cases h <;> rfl

end Stance

namespace Channel

open Stance (Turn)

variable {c d : Channel} {call : CallId} {line : LineId} {now : Instant} {s : Stance}

/-- The connections that were hung up. -/
def hungUp (c : Channel) : List LineId := c.acts.filterMap ChannelAct.hungUp?

/-- Where a channel stands with its connection. -/
def stance (c : Channel) : Stance where
  listener := c.listener
  writer := c.writer
  connected := c.counters.connected
  connections := c.counters.connections
  hungUp := c.hungUp
  delay := c.settings.reconnectDelay

/-! ## Small steps -/

theorem stance_acts (c : Channel) {acts : List ChannelAct} (h : ∀ act ∈ acts, act.hungUp? = none) :
    { c with acts := c.acts ++ acts }.stance = c.stance := by
  have hnone : acts.filterMap ChannelAct.hungUp? = [] := List.filterMap_eq_nil_iff.mpr h
  simp [stance, hungUp, hnone]

theorem stance_ask (c : Channel) {act : ChannelAct} (h : act.hungUp? = none) :
    (c.ask act).stance = c.stance :=
  stance_acts c fun _ hmem => List.mem_singleton.mp hmem ▸ h

theorem stance_hangUp (c : Channel) (line : LineId) :
    (c.ask (.hangUp line)).stance = { c.stance with hungUp := c.stance.hungUp ++ [line] } := by
  simp [stance, hungUp, ask, ChannelAct.hungUp?]

theorem stance_giveUp (c : Channel) (user : WriterUser) : (c.giveUp user).stance = c.stance := by
  refine stance_acts { c with lock := _ } fun act hmem => ?_
  obtain ⟨next, -, rfl⟩ := List.mem_map.mp hmem
  rfl

theorem stance_takeWriter (c : Channel) : c.takeWriter.stance = c.stance.severed := by
  unfold takeWriter
  split
  · rename_i line hwriter
    rw [stance_hangUp]
    simp [stance, Stance.severed, hungUp, hwriter]
  · rename_i hwriter
    simp [stance, Stance.severed, hwriter]

/-! ## Calls -/

theorem stance_dropWrite (c : Channel) (call : CallId) : (c.dropWrite call).stance = c.stance :=
  (stance_ask _ rfl).trans (stance_giveUp { c with counters := _ } (.call call))

theorem stance_beginWrite (c : Channel) (call : CallId) (payload : Bytes) (now : Instant) :
    (c.beginWrite call payload now).stance = c.stance := by
  unfold beginWrite
  split
  · rfl
  · exact stance_dropWrite c call

theorem stance_sendRealtime {commands : List String}
    (h : c.sendRealtime call commands now = .ok d) : d.stance = c.stance := by
  unfold sendRealtime at h
  split at h
  · contradiction
  · obtain rfl := Except.ok.inj h
    exact stance_ask c rfl
  · obtain rfl := Except.ok.inj h
    unfold queueWrite
    dsimp only
    split
    · exact stance_beginWrite _ call _ now
    · rfl

theorem stance_breakWriter (c : Channel) (call : CallId) :
    (c.breakWriter call).stance = c.stance.severed := by
  have hbroken : ({ c.takeWriter with isBroken := true }.ask (.wake .listener)).stance =
      c.stance.severed :=
    (stance_ask { c.takeWriter with isBroken := true } rfl).trans (stance_takeWriter c)
  exact (stance_dropWrite _ call).trans hbroken

theorem turn_hearWrite (c : Channel) (call : CallId) (stimulus : Stimulus) (now : Instant) :
    Turn now c.stance (c.hearWrite call stimulus).stance := by
  unfold hearWrite
  split
  · split
    · exact stance_breakWriter c call ▸ .severs
    · split
      · rw [stance_ask _ rfl]
        exact stance_giveUp c (.call call) ▸ .same
      · exact .same
  · exact stance_breakWriter c call ▸ .severs
  · exact .same

theorem turn_writeExpired (c : Channel) (call : CallId) (now : Instant) :
    Turn now c.stance (c.writeExpired call now).stance := by
  unfold writeExpired
  split
  · split
    · exact stance_breakWriter c call ▸ .severs
    · exact .same
  · exact .same

theorem stance_closeWriter (c : Channel) (call : CallId) :
    (c.closeWriter call).stance = c.stance.severed := by
  have hclosed : (c.takeWriter.giveUp (.call call)).stance = c.stance.severed :=
    (stance_giveUp _ _).trans (stance_takeWriter c)
  unfold closeWriter
  dsimp only
  split
  · exact (stance_ask _ rfl).trans hclosed
  · exact hclosed

theorem turn_shutdown (c : Channel) (call : CallId) (now : Instant) :
    Turn now c.stance (c.shutdown call).stance := by
  have hasked : ({ c with isCancelled := true }.ask (.wake .listener)).stance = c.stance :=
    stance_ask { c with isCancelled := true } rfl
  unfold shutdown
  split
  · rw [stance_ask c rfl]
    exact .same
  · dsimp only
    split
    · rw [stance_closeWriter]
      exact hasked ▸ .severs
    · exact hasked ▸ .same

theorem turn_resumeCall (c : Channel) (call : CallId) (now : Instant) :
    Turn now c.stance (c.resumeCall call now).stance := by
  unfold resumeCall
  split
  · split
    · exact stance_beginWrite c call _ now ▸ .same
    · exact stance_closeWriter c call ▸ .severs
    · rw [stance_ask (c.endCall call) rfl]
      exact .same
    · exact .same
  · exact .same

theorem stance_cancelCall (c : Channel) (call : CallId) : (c.cancelCall call).stance = c.stance :=
  stance_giveUp c (.call call)

theorem turn_sendRealtime (c : Channel) (call : CallId) (commands : List String) (now : Instant) :
    Turn now c.stance (c.perform (.sendRealtime call commands now)).stance := by
  rw [perform]
  split
  · rename_i d hsent
    exact stance_sendRealtime hsent ▸ .same
  · exact .same

/-! ## The listener -/

theorem stance_afterRemoval (c : Channel) (now : Instant) :
    ∃ stage, (stage = .over ∨ stage = .resting (c.stance.delay.after now)) ∧
      (c.afterRemoval now).stance =
        { c.stance.severed with connected := false, listener := stage } := by
  have htaken := stance_takeWriter c
  have hgone : ({ c.takeWriter with counters := c.counters.setConnected false }.giveUp
      .listener).stance = { c.stance.severed with connected := false } := by
    rw [stance_giveUp, ← htaken]
    show ({ c.takeWriter.stance with
      connected := false, connections := c.stance.severed.connections } : Stance) = _
    rw [← htaken]
  have hdelay : ({ c.takeWriter with counters := c.counters.setConnected false }.giveUp
      .listener).settings.reconnectDelay = c.stance.delay := congrArg Stance.delay hgone
  have hput : ∀ stage, (({ c.takeWriter with counters := c.counters.setConnected false }.giveUp
      .listener).putListener stage).stance =
        { c.stance.severed with connected := false, listener := stage } := fun stage =>
    congrArg (fun t => { t with listener := stage }) hgone
  unfold afterRemoval
  dsimp only
  split
  · exact ⟨.over, .inl rfl, hput _⟩
  · rw [hdelay]
    exact ⟨_, .inr rfl, hput _⟩

/-- The listener is done with its connection, of which it hung up what was its own. -/
theorem turn_remove (dropped : List LineId)
    (hc : c.stance = { s with hungUp := s.hungUp ++ dropped })
    (htrying : s.listener.isTrying = true) (hdropped : s.Covers dropped) (now : Instant) :
    Turn now s (c.remove now).stance := by
  have hasked : Channel.stance { c.request .listener with listener := .removing } =
      { s with listener := .removing, hungUp := s.hungUp ++ dropped } :=
    congrArg (fun t => { t with listener := .removing }) hc
  unfold remove
  dsimp only
  split
  · obtain ⟨stage, hstage, heq⟩ :=
      stance_afterRemoval { c.request .listener with listener := .removing } now
    rw [hasked] at heq hstage
    rw [heq]
    exact .clears (.inl htrying) hdropped hstage
  · rw [hasked]
    exact .leaves htrying hdropped

theorem turn_lose (hlistener : c.listener.isTrying = true) (hline : c.listener.line? = some line)
    (now : Instant) : Turn now c.stance (c.lose line now).stance := by
  have hmine : ∀ {other}, c.stance.listener.line? = some other → other = line := fun h =>
    Option.some.inj (h.symm.trans hline)
  unfold lose
  split
  · rename_i hwriter
    refine turn_remove [] (by rw [List.append_nil]) hlistener (fun other h => ?_) now
    exact .inl (hmine h ▸ hwriter)
  · refine turn_remove [line] (stance_hangUp c line) hlistener (fun other h => ?_) now
    exact .inr (List.mem_singleton.mpr (hmine h))

theorem turn_fail {deadline : Instant} (hlistener : c.listener = .dialling deadline)
    (now : Instant) : Turn now c.stance (c.remove now).stance := by
  have hdialling : c.stance.listener = .dialling deadline := hlistener
  refine turn_remove [] (by rw [List.append_nil]) (by rw [hdialling]; rfl) (fun other h => ?_) now
  rw [hdialling] at h
  contradiction

theorem stance_install (c : Channel) (line : LineId) :
    (c.install line).stance = { c.stance with
      listener := .reading line
      writer := some line
      connected := true
      connections := c.stance.connections + 1 } :=
  stance_giveUp { c with writer := _, isBroken := _, counters := _, listener := _ } .listener

theorem turn_greeted {rest : Bytes} (hlistener : c.listener = .greeting line rest)
    (now : Instant) : Turn now c.stance (c.greeted line).stance := by
  unfold greeted
  dsimp only
  split
  · rw [stance_install]
    exact .reports (.inl ⟨rest, hlistener⟩)
  · exact .waits hlistener

theorem turn_dialled (c : Channel) (now : Instant) (outcome : Except IoFault LineId) :
    Turn now c.stance (c.dialled now outcome).stance := by
  unfold dialled
  split
  · rename_i hlistener
    split
    · exact .opens _ hlistener
    · exact turn_fail hlistener now
  · exact .same

theorem stance_listen (c : Channel) (bytes : Bytes) : (c.listen bytes).stance = c.stance := by
  unfold listen
  dsimp only
  rw [foldl_countPacket]
  refine stance_acts { c with framer := _, counters := _ } fun act hmem => ?_
  obtain ⟨publication, -, rfl⟩ := List.mem_map.mp hmem
  rfl

theorem turn_hearListener (c : Channel) (now : Instant) (stimulus : Stimulus) :
    Turn now c.stance (c.hearListener now stimulus).stance := by
  unfold hearListener
  split
  · rename_i hlistener
    split
    · exact turn_lose (by rw [hlistener]; rfl) (by rw [hlistener]; rfl) now
    · split
      · exact turn_greeted hlistener now
      · exact .greets _ hlistener
  · rename_i hlistener
    exact turn_lose (by rw [hlistener]; rfl) (by rw [hlistener]; rfl) now
  · exact stance_listen c _ ▸ .same
  · rename_i hlistener
    exact turn_lose (by rw [hlistener]; rfl) (by rw [hlistener]; rfl) now
  · rename_i hlistener
    exact turn_lose (by rw [hlistener]; rfl) (by rw [hlistener]; rfl) now
  · exact .same

theorem turn_resumeListener (c : Channel) (now : Instant) :
    Turn now c.stance (c.resumeListener now).stance := by
  unfold resumeListener
  split
  · split
    · rename_i hlistener
      exact turn_fail hlistener now
    · rename_i hlistener
      exact .ends hlistener
    · rename_i hlistener
      exact turn_lose (by rw [hlistener]; rfl) (by rw [hlistener]; rfl) now
    · rename_i hlistener
      rw [stance_install]
      exact .reports (.inr hlistener)
    · rename_i hlistener
      obtain ⟨stage, hstage, heq⟩ := stance_afterRemoval c now
      have hnone : c.stance.Covers [] := fun other h => by
        rw [show c.stance.listener = .removing from hlistener] at h
        contradiction
      have hclears : Turn now c.stance _ := .clears (.inr hlistener) hnone hstage
      rw [List.append_nil] at hclears
      exact heq ▸ hclears
    · exact .same
  · exact .same

theorem turn_dialExpired (c : Channel) (now : Instant) :
    Turn now c.stance (c.dialExpired now).stance := by
  unfold dialExpired
  split
  · split
    · exact turn_dialled c now _
    · exact .same
  · exact .same

/-- Whatever happens to a channel is a turn, unless the listener's stage runs out of time: that may
be two, the end of an attempt and the beginning of the next. -/
theorem turn_perform (c : Channel) {event : ChannelEvent} (hnow : event.occursAt now = true)
    (hevent : ∀ instant, event ≠ .listenerExpired instant) :
    Turn now c.stance (c.perform event).stance := by
  cases event with
  | dialled instant outcome => exact beq_iff_eq.mp hnow ▸ turn_dialled c instant outcome
  | hearListener instant stimulus => exact beq_iff_eq.mp hnow ▸ turn_hearListener c instant stimulus
  | listenerExpired instant => exact absurd rfl (hevent instant)
  | resumeListener instant => exact beq_iff_eq.mp hnow ▸ turn_resumeListener c instant
  | sendRealtime call commands instant =>
    exact beq_iff_eq.mp hnow ▸ turn_sendRealtime c call commands instant
  | hearWrite call stimulus => exact turn_hearWrite c call stimulus now
  | writeExpired call instant => exact beq_iff_eq.mp hnow ▸ turn_writeExpired c call instant
  | resumeCall call instant => exact beq_iff_eq.mp hnow ▸ turn_resumeCall c call instant
  | cancelCall call => exact stance_cancelCall c call ▸ .same
  | shutdown call => exact turn_shutdown c call now

theorem turn_listenerRested (c : Channel) (now : Instant) :
    Turn now c.stance (c.listenerRested now).stance := by
  unfold listenerRested
  split
  · rename_i hlistener
    split
    · rename_i hdue
      exact .dials _ hlistener hdue
    · exact .same
  · exact .same

end Channel

end BroadcastLink
