import BroadcastLink.Proofs.Channel.Attempts
import BroadcastLink.Proofs.Channel.Stopped

/-!
# The connected flag tells the truth

The listener sets the flag when it puts the writer there and clears it when it takes the writer
away. A call may take the writer away before that: when a write of its own failed, or because it
shuts the channel down. Either leaves a mark for the listener, which therefore has something to do
as long as the flag says more than there is.
-/

namespace BroadcastLink

/-! ## The flag and the writer -/

/-- A writer is there only in a connected channel, and a channel is connected only while its
listener reads or wants to take the writer away. -/
structure Stance.Reports (s : Stance) : Prop where
  writer : ∀ line, s.writer = some line → s.connected = true
  connected : s.connected = true → (∃ line, s.listener = .reading line) ∨ s.listener = .removing

namespace Stance.Reports

variable {now : Instant} {s s' : Stance}

/-- A channel is not connected while its listener is elsewhere. -/
theorem quiet (h : s.Reports) (hreading : ∀ line, s.listener ≠ .reading line)
    (hremoving : s.listener ≠ .removing) : s.connected = false ∧ s.writer = none := by
  have hconnected : s.connected = false := by
    cases hflag : s.connected with
    | false => rfl
    | true =>
      rcases h.connected hflag with ⟨line, hline⟩ | hline
      · exact absurd hline (hreading line)
      · exact absurd hline hremoving
  refine ⟨hconnected, ?_⟩
  cases hwriter : s.writer with
  | none => rfl
  | some line => exact absurd ((h.writer line hwriter).symm.trans hconnected) (by decide)

/-- Where the channel is not connected, any stage will do. -/
theorem of_quiet (hconnected : s.connected = false) (hwriter : s.writer = none) : s.Reports where
  writer := fun line hline => by
    rw [hwriter] at hline
    contradiction
  connected := fun hflag => by
    rw [hconnected] at hflag
    contradiction

theorem turn (h : s.Reports) (hturn : Turn now s s') : s'.Reports := by
  cases hturn with
  | same => exact h
  | severs => exact ⟨fun line hline => by contradiction, h.connected⟩
  | opens line hlistener =>
    obtain ⟨hconnected, hwriter⟩ := h.quiet (by simp [hlistener]) (by simp [hlistener])
    exact of_quiet hconnected hwriter
  | greets left hlistener =>
    obtain ⟨hconnected, hwriter⟩ := h.quiet (by simp [hlistener]) (by simp [hlistener])
    exact of_quiet hconnected hwriter
  | waits hlistener =>
    obtain ⟨hconnected, hwriter⟩ := h.quiet (by simp [hlistener]) (by simp [hlistener])
    exact of_quiet hconnected hwriter
  | reports hlistener => exact ⟨fun _ _ => rfl, fun _ => .inl ⟨_, rfl⟩⟩
  | leaves htrying hdropped => exact ⟨h.writer, fun _ => .inr rfl⟩
  | clears hbefore hdropped hstage => exact of_quiet rfl rfl
  | ends hlistener =>
    obtain ⟨hconnected, hwriter⟩ := h.quiet (by simp [hlistener]) (by simp [hlistener])
    exact of_quiet hconnected hwriter
  | dials deadline hlistener hdue =>
    obtain ⟨hconnected, hwriter⟩ := h.quiet (by simp [hlistener]) (by simp [hlistener])
    exact of_quiet hconnected hwriter

end Stance.Reports

namespace Channel

variable {c d : Channel} {call : CallId} {line : LineId} {now : Instant}

/-! ## Marks for the listener -/

/-- A listener that reads while the writer is gone has something to notice: the writer was given up,
or the channel was cancelled. A call that takes the writer away to shut the channel down has
cancelled it. -/
structure Marked (c : Channel) : Prop where
  reading : ∀ line, c.listener = .reading line → c.writer = none →
    c.isBroken = true ∨ c.isCancelled = true
  closing : ∀ call, c.calls.get? call = some .closing → c.isCancelled = true

/-- The listener goes to another stage than reading. -/
theorem Marked.leaves (h : c.Marked) (hstage : ∀ line, d.listener ≠ .reading line)
    (hcalls : d.calls = c.calls) (hcancelled : d.isCancelled = c.isCancelled) : d.Marked where
  reading := fun line hline => absurd hline (hstage line)
  closing := fun call hcall => hcancelled ▸ h.closing call (hcalls ▸ hcall)

theorem isCancelled_takeWriter (c : Channel) : c.takeWriter.isCancelled = c.isCancelled := by
  unfold takeWriter
  split <;> rfl

theorem Marked.ask (h : c.Marked) (act : ChannelAct) : (c.ask act).Marked := ⟨h.reading, h.closing⟩

theorem Marked.giveUp (h : c.Marked) (user : WriterUser) : (c.giveUp user).Marked :=
  ⟨h.reading, h.closing⟩

/-- A call that is over is not closing. -/
theorem Marked.endCall (h : c.Marked) (call : CallId) : (c.endCall call).Marked where
  reading := h.reading
  closing := fun other hother => h.closing other (Outflow.get?_of_erase hother)

/-- A call goes on to something else than closing. -/
theorem Marked.putCall (h : c.Marked) (call : CallId) {stage : ChannelCall}
    (hstage : stage ≠ .closing) : (c.putCall call stage).Marked where
  reading := h.reading
  closing := fun other hother => by
    rw [Channel.putCall, Roster.get?_put] at hother
    split at hother
    · exact absurd (Option.some.inj hother) hstage
    · exact h.closing other hother

/-! ### Calls -/

theorem marked_dropWrite (h : c.Marked) (call : CallId) : (c.dropWrite call).Marked := by
  have hdropped : Marked { c with counters := c.counters.writeDropped } := ⟨h.reading, h.closing⟩
  exact ((hdropped.giveUp (.call call)).endCall call).ask (.sent call false)

theorem marked_beginWrite (h : c.Marked) (call : CallId) (payload : Bytes) (now : Instant) :
    (c.beginWrite call payload now).Marked := by
  unfold beginWrite
  split
  · exact h.putCall call (by simp)
  · exact marked_dropWrite h call

theorem marked_sendRealtime {commands : List String} (h : c.Marked)
    (hsent : c.sendRealtime call commands now = .ok d) : d.Marked := by
  unfold sendRealtime at hsent
  split at hsent
  · contradiction
  · obtain rfl := Except.ok.inj hsent
    exact h.ask (.sent call false)
  · rename_i payload _ _
    obtain rfl := Except.ok.inj hsent
    have hasked : (c.request (.call call)).Marked := ⟨h.reading, h.closing⟩
    have hqueued : ((c.request (.call call)).putCall call (.queued payload)).Marked :=
      hasked.putCall call (by simp)
    unfold queueWrite
    dsimp only
    split
    · exact marked_beginWrite hqueued call payload now
    · exact hqueued

/-- A writer that is given up leaves its mark. -/
theorem marked_breakWriter (h : c.Marked) (call : CallId) : (c.breakWriter call).Marked := by
  refine marked_dropWrite
    (c := { c.takeWriter with isBroken := true }.ask (.wake .listener)) ?_ call
  refine ⟨fun _ _ _ => .inl rfl, fun other hother => ?_⟩
  show c.takeWriter.isCancelled = true
  rw [isCancelled_takeWriter]
  exact h.closing other (calls_takeWriter c ▸ hother)

theorem marked_hearWrite (h : c.Marked) (call : CallId) (stimulus : Stimulus) :
    (c.hearWrite call stimulus).Marked := by
  unfold hearWrite
  split
  · split
    · exact marked_breakWriter h call
    · split
      · exact ((h.giveUp (.call call)).endCall call).ask (.sent call true)
      · exact h.putCall call (by simp)
  · exact marked_breakWriter h call
  · exact h

theorem marked_writeExpired (h : c.Marked) (call : CallId) (now : Instant) :
    (c.writeExpired call now).Marked := by
  unfold writeExpired
  split
  · split
    · exact marked_breakWriter h call
    · exact h
  · exact h

/-- Whoever takes the writer away to shut the channel down has cancelled it. -/
theorem marked_closeWriter (hcancelled : c.isCancelled = true) (call : CallId) :
    (c.closeWriter call).Marked := by
  have htaken : (c.takeWriter.giveUp (.call call)).Marked :=
    ⟨fun _ _ _ => .inr ((isCancelled_takeWriter c).trans hcancelled),
      fun _ _ => (isCancelled_takeWriter c).trans hcancelled⟩
  unfold closeWriter
  dsimp only
  split
  · exact (htaken.endCall call).ask (.stopped call)
  · exact htaken.putCall call (by simp)

theorem marked_shutdown (h : c.Marked) (call : CallId) : (c.shutdown call).Marked := by
  unfold shutdown
  split
  · exact h.ask (.stopped call)
  · have hclosing : ((({ c with isCancelled := true }.ask (.wake .listener)).request
        (.call call)).putCall call .closing).Marked :=
      ⟨fun _ _ _ => .inr rfl, fun _ _ => rfl⟩
    dsimp only
    split
    · exact marked_closeWriter rfl call
    · exact hclosing

theorem marked_resumeCall (h : c.Marked) (call : CallId) (now : Instant) :
    (c.resumeCall call now).Marked := by
  unfold resumeCall
  split
  · split
    · exact marked_beginWrite h call _ now
    · rename_i hcall
      exact marked_closeWriter (h.closing call hcall) call
    · exact (h.endCall call).ask (.stopped call)
    · exact h
  · exact h

/-! ### The listener -/

theorem marked_afterRemoval (h : c.Marked) (now : Instant) : (c.afterRemoval now).Marked := by
  unfold afterRemoval
  dsimp only
  split
  · exact h.leaves (by simp [putListener]) (calls_takeWriter c) (isCancelled_takeWriter c)
  · exact h.leaves (by simp [putListener]) (calls_takeWriter c) (isCancelled_takeWriter c)

theorem marked_remove (h : c.Marked) (now : Instant) : (c.remove now).Marked := by
  have hremoving : Marked { c.request .listener with listener := .removing } :=
    h.leaves (by simp) rfl rfl
  unfold remove
  dsimp only
  split
  · exact marked_afterRemoval hremoving now
  · exact hremoving

theorem marked_lose (h : c.Marked) (line : LineId) (now : Instant) : (c.lose line now).Marked := by
  unfold lose
  split
  · exact marked_remove h now
  · exact marked_remove (h.ask (.hangUp line)) now

theorem marked_install (h : c.Marked) (line : LineId) : (c.install line).Marked where
  reading := fun _ _ hwriter => by contradiction
  closing := h.closing

theorem marked_greeted (h : c.Marked) (line : LineId) : (c.greeted line).Marked := by
  have hinstalling : Marked { c.request .listener with
      framer := c.framer.reset, listener := .installing line } :=
    h.leaves (by simp) rfl rfl
  unfold greeted
  dsimp only
  split
  · exact marked_install hinstalling line
  · exact hinstalling

theorem marked_dialled (h : c.Marked) (now : Instant) (outcome : Except IoFault LineId) :
    (c.dialled now outcome).Marked := by
  unfold dialled
  split
  · split
    · exact h.leaves (by simp [putListener]) rfl rfl
    · exact marked_remove h now
  · exact h

theorem marked_hearListener (h : c.Marked) (now : Instant) (stimulus : Stimulus) :
    (c.hearListener now stimulus).Marked := by
  unfold hearListener
  split
  · split
    · exact marked_lose h _ now
    · split
      · exact marked_greeted h _
      · exact h.leaves (by simp [putListener]) rfl rfl
  · exact marked_lose h _ now
  · exact ⟨h.reading, h.closing⟩
  · exact marked_lose h _ now
  · exact marked_lose h _ now
  · exact h

theorem marked_resumeListener (h : c.Marked) (now : Instant) : (c.resumeListener now).Marked := by
  unfold resumeListener
  split
  · split
    · exact marked_remove h now
    · exact h.leaves (by simp [putListener]) rfl rfl
    · exact marked_lose h _ now
    · exact marked_install h _
    · exact marked_afterRemoval h now
    · exact h
  · exact h

theorem marked_listenerExpired (h : c.Marked) (now : Instant) : (c.listenerExpired now).Marked := by
  have hended : (c.dialExpired now).Marked := by
    unfold dialExpired
    split
    · split
      · exact marked_dialled h now _
      · exact h
    · exact h
  unfold listenerExpired listenerRested
  split
  · split
    · exact hended.leaves (by simp [putListener]) rfl rfl
    · exact hended
  · exact hended

/-- Whatever happens to a channel leaves the marks that it has to leave. -/
theorem marked_perform (h : c.Marked) (event : ChannelEvent) : (c.perform event).Marked := by
  cases event with
  | dialled now outcome => exact marked_dialled h now outcome
  | hearListener now stimulus => exact marked_hearListener h now stimulus
  | listenerExpired now => exact marked_listenerExpired h now
  | resumeListener now => exact marked_resumeListener h now
  | sendRealtime call commands now =>
    rw [perform]
    split
    · rename_i d hsent
      exact marked_sendRealtime h hsent
    · exact h
  | hearWrite call stimulus => exact marked_hearWrite h call stimulus
  | writeExpired call now => exact marked_writeExpired h call now
  | resumeCall call now => exact marked_resumeCall h call now
  | cancelCall call =>
    exact (h.giveUp (.call call)).endCall call
  | shutdown call => exact marked_shutdown h call

end Channel

namespace Outlet

variable {o : Outlet}

/-! ## What the flag depends on -/

/-- Everything that the connected flag depends on. -/
structure Truthful (o : Outlet) : Prop where
  outflow : o.outflow.Sound
  prompt : o.channel.lock.Prompt
  reports : o.channel.stance.Reports
  marked : o.channel.Marked

theorem truthful_toStudio (id : ChannelId) (studio : Studio) (settings : ChannelSettings)
    (now : Instant) : (toStudio id studio settings now).Truthful where
  outflow := sound_toStudio id studio settings now
  prompt := fun _ => rfl
  reports := .of_quiet rfl rfl
  marked := ⟨fun _ hline => by contradiction, fun _ hcall => by contradiction⟩

/-- Whatever happens is a turn or two, at the moment of its own. -/
theorem reports_perform (h : o.channel.stance.Reports) (event : ChannelEvent) :
    (o.channel.perform event).stance.Reports := by
  by_cases hexpired : ∃ instant, event = .listenerExpired instant
  · obtain ⟨instant, rfl⟩ := hexpired
    exact (h.turn (Channel.turn_dialExpired o.channel instant)).turn
      (Channel.turn_listenerRested (o.channel.dialExpired instant) instant)
  · obtain ⟨now, hnow⟩ : ∃ now, event.occursAt now = true := by
      cases event with
      | dialled instant | hearListener instant | listenerExpired instant | resumeListener instant
      | sendRealtime _ _ instant | writeExpired _ instant | resumeCall _ instant =>
        exact ⟨instant, beq_self_eq_true instant⟩
      | hearWrite | cancelCall | shutdown => exact ⟨0, rfl⟩
    exact h.turn (Channel.turn_perform o.channel hnow fun instant heq => hexpired ⟨instant, heq⟩)

theorem Truthful.step (h : o.Truthful) (event : ChannelEvent) : (o.step event).Truthful := by
  have hmoves := moves_step (connected_of_guarded h.outflow.guarded) event
  have houtflow := sound_step h.outflow event
  by_cases hadmits : o.Admits event = true
  · rw [Outlet.step, if_pos hadmits] at hmoves houtflow ⊢
    exact ⟨houtflow, Outflow.prompt_moves h.prompt hmoves, reports_perform h.reports event,
      Channel.marked_perform h.marked event⟩
  · rw [Outlet.step, if_neg hadmits]
    exact h

/-- As long as nobody can go on, the channel is connected exactly if a writer is there. -/
theorem Truthful.connected_iff (h : o.Truthful) (hidle : o.channel.isReady = false) :
    o.channel.counters.connected = true ↔ ∃ line, o.channel.writer = some line := by
  refine ⟨fun hconnected => ?_, fun ⟨line, hline⟩ => h.reports.writer line hline⟩
  cases hwriter : o.channel.writer with
  | some line => exact ⟨line, rfl⟩
  | none =>
    exfalso
    have hready : o.channel.isReady = true := by
      rcases h.reports.connected hconnected with ⟨line, hline⟩ | hremoving
      · -- The listener has a mark to notice.
        have hmark := h.marked.reading line hline hwriter
        have hlistener : o.channel.listener = .reading line := hline
        rw [Channel.isReady, Channel.listenerReady, hlistener]
        rcases hmark with hbroken | hcancelled
        · simp [hbroken]
        · simp [hcancelled]
      · -- The listener wants the lock, and there is nothing to write on.
        have huses : .listener ∈ o.channel.lock.users := by
          refine h.outflow.guarded.listener.mpr ?_
          rw [show o.outflow.listener = .removing from hremoving]
          rfl
        exact isReady_of_user h.outflow.guarded h.prompt hwriter huses
    exact Bool.false_ne_true (hidle.symm.trans hready)

end Outlet

end BroadcastLink
