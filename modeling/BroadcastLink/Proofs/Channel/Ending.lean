import BroadcastLink.Proofs.Channel.Intake

/-!
# How a channel ends

A channel is cancelled by being shut down and by nothing else, and a listener that is over stays so.
Whoever shuts a channel down is told that it has stopped once the listener is over; only a channel
that was cancelled before tells so at once.
-/

namespace BroadcastLink

/-- The call that is told that the channel has stopped, if one is. -/
def ChannelAct.stopped? : ChannelAct → Option CallId
  | .stopped call => some call
  | _ => none

namespace Channel

variable {c d : Channel} {call : CallId} {now : Instant}

/-- The calls that are to be told that the channel has stopped. -/
def stops (c : Channel) : List CallId := c.acts.filterMap ChannelAct.stopped?

theorem stops_ask (h : c.stops = []) : (c.ask (.stopped call)).stops = [call] := by
  rw [stops, ask, List.filterMap_append, show c.acts.filterMap _ = c.stops from rfl, h]
  rfl

/-- Whom the channel listens to, whether it was cancelled, and who is to be told that it has
stopped. -/
def course (c : Channel) : String × Bool × List CallId := (c.studio, c.isCancelled, c.stops)

theorem course_acts (c : Channel) {acts : List ChannelAct}
    (h : ∀ act ∈ acts, act.stopped? = none) :
    { c with acts := c.acts ++ acts }.course = c.course := by
  have hnone : acts.filterMap ChannelAct.stopped? = [] := List.filterMap_eq_nil_iff.mpr h
  simp [course, stops, hnone]

theorem course_ask (c : Channel) {act : ChannelAct} (h : act.stopped? = none) :
    (c.ask act).course = c.course :=
  course_acts c fun _ hmem => List.mem_singleton.mp hmem ▸ h

theorem course_giveUp (c : Channel) (user : WriterUser) : (c.giveUp user).course = c.course := by
  refine course_acts { c with lock := _ } fun act hmem => ?_
  obtain ⟨next, -, rfl⟩ := List.mem_map.mp hmem
  rfl

theorem course_takeWriter (c : Channel) : c.takeWriter.course = c.course := by
  unfold takeWriter
  split
  · exact course_ask { c with writer := none } rfl
  · rfl

/-! ## Calls -/

theorem course_dropWrite (c : Channel) (call : CallId) : (c.dropWrite call).course = c.course :=
  (course_ask _ rfl).trans (course_giveUp { c with counters := _ } (.call call))

theorem course_beginWrite (c : Channel) (call : CallId) (payload : Bytes) (now : Instant) :
    (c.beginWrite call payload now).course = c.course := by
  unfold beginWrite
  split
  · rfl
  · exact course_dropWrite c call

theorem course_sendRealtime {commands : List String}
    (h : c.sendRealtime call commands now = .ok d) : d.course = c.course := by
  unfold sendRealtime at h
  split at h
  · contradiction
  · obtain rfl := Except.ok.inj h
    exact course_ask c rfl
  · obtain rfl := Except.ok.inj h
    unfold queueWrite
    dsimp only
    split
    · exact course_beginWrite _ call _ now
    · rfl

theorem course_breakWriter (c : Channel) (call : CallId) :
    (c.breakWriter call).course = c.course := by
  have hbroken : ({ c.takeWriter with isBroken := true }.ask (.wake .listener)).course = c.course :=
    (course_ask { c.takeWriter with isBroken := true } rfl).trans (course_takeWriter c)
  exact (course_dropWrite _ call).trans hbroken

theorem course_hearWrite (c : Channel) (call : CallId) (stimulus : Stimulus) :
    (c.hearWrite call stimulus).course = c.course := by
  unfold hearWrite
  split
  · split
    · exact course_breakWriter c call
    · split
      · exact (course_ask _ rfl).trans (course_giveUp c (.call call))
      · rfl
  · exact course_breakWriter c call
  · rfl

theorem course_writeExpired (c : Channel) (call : CallId) (now : Instant) :
    (c.writeExpired call now).course = c.course := by
  unfold writeExpired
  split
  · split
    · exact course_breakWriter c call
    · rfl
  · rfl

theorem course_cancelCall (c : Channel) (call : CallId) : (c.cancelCall call).course = c.course :=
  course_giveUp c (.call call)

/-! ## The listener -/

theorem course_afterRemoval (c : Channel) (now : Instant) :
    (c.afterRemoval now).course = c.course := by
  have hgone : ({ c.takeWriter with counters := c.counters.setConnected false }.giveUp
      .listener).course = c.course :=
    (course_giveUp { c.takeWriter with counters := _ } .listener).trans (course_takeWriter c)
  unfold afterRemoval
  dsimp only
  split <;> exact hgone

theorem course_remove (c : Channel) (now : Instant) : (c.remove now).course = c.course := by
  unfold remove
  dsimp only
  split
  · exact course_afterRemoval _ now
  · rfl

theorem course_lose (c : Channel) (line : LineId) (now : Instant) :
    (c.lose line now).course = c.course := by
  unfold lose
  split
  · exact course_remove c now
  · exact (course_remove _ now).trans (course_ask c rfl)

theorem course_install (c : Channel) (line : LineId) : (c.install line).course = c.course :=
  course_giveUp { c with writer := _, isBroken := _, counters := _, listener := _ } .listener

theorem course_greeted (c : Channel) (line : LineId) : (c.greeted line).course = c.course := by
  unfold greeted
  dsimp only
  split
  · exact course_install _ line
  · rfl

theorem course_dialled (c : Channel) (now : Instant) (outcome : Except IoFault LineId) :
    (c.dialled now outcome).course = c.course := by
  unfold dialled
  split
  · split
    · rfl
    · exact course_remove c now
  · rfl

theorem course_listen (c : Channel) (bytes : Bytes) : (c.listen bytes).course = c.course := by
  refine course_acts { c with framer := _, counters := _ } fun act hmem => ?_
  obtain ⟨publication, -, rfl⟩ := List.mem_map.mp hmem
  rfl

theorem course_hearListener (c : Channel) (now : Instant) (stimulus : Stimulus) :
    (c.hearListener now stimulus).course = c.course := by
  unfold hearListener
  split
  · split
    · exact course_lose c _ now
    · split
      · exact course_greeted c _
      · rfl
  · exact course_lose c _ now
  · exact course_listen c _
  · exact course_lose c _ now
  · exact course_lose c _ now
  · rfl

theorem course_resumeListener (c : Channel) (now : Instant) :
    (c.resumeListener now).course = c.course := by
  unfold resumeListener
  split
  · split
    · exact course_remove c now
    · rfl
    · exact course_lose c _ now
    · exact course_install c _
    · exact course_afterRemoval c now
    · rfl
  · rfl

theorem course_listenerExpired (c : Channel) (now : Instant) :
    (c.listenerExpired now).course = c.course := by
  have hdial : (c.dialExpired now).course = c.course := by
    unfold dialExpired
    split
    · split
      · exact course_dialled c now _
      · rfl
    · rfl
  unfold listenerExpired listenerRested
  split
  · split <;> exact hdial
  · exact hdial

/-! ### Its end -/

/-- A listener comes to its end only in a channel that was cancelled. -/
def Due (c d : Channel) : Prop := d.listener = .over → c.listener = .over ∨ c.isCancelled = true

theorem due_of_same (h : d.listener = c.listener) : c.Due d := fun hover => .inl (h ▸ hover)

theorem due_of_stage (h : d.listener ≠ .over) : c.Due d := fun hover => absurd hover h

theorem due_afterRemoval (c : Channel) (now : Instant) : c.Due (c.afterRemoval now) := by
  intro hover
  have hcourse := (course_giveUp { c.takeWriter with counters := c.counters.setConnected false }
    .listener).trans (course_takeWriter c)
  have hcancelled : ({ c.takeWriter with counters := c.counters.setConnected false }.giveUp
      .listener).isCancelled = c.isCancelled := congrArg (·.2.1) hcourse
  unfold afterRemoval at hover
  dsimp only at hover
  rw [hcancelled] at hover
  split at hover
  · rename_i h
    exact .inr h
  · contradiction

theorem due_remove (c : Channel) (now : Instant) : c.Due (c.remove now) := by
  unfold remove
  dsimp only
  split
  · intro hover
    rcases due_afterRemoval _ now hover with hremoving | hcancelled
    · contradiction
    · exact .inr hcancelled
  · exact due_of_stage fun h => by contradiction

theorem due_lose (c : Channel) (line : LineId) (now : Instant) : c.Due (c.lose line now) := by
  unfold lose
  split
  · exact due_remove c now
  · exact due_remove (c.ask (.hangUp line)) now

theorem due_greeted (c : Channel) (line : LineId) : c.Due (c.greeted line) := by
  refine due_of_stage ?_
  unfold greeted
  dsimp only
  split <;> exact fun h => by contradiction

theorem due_dialled (c : Channel) (now : Instant) (outcome : Except IoFault LineId) :
    c.Due (c.dialled now outcome) := by
  unfold dialled
  split
  · split
    · exact due_of_stage fun h => by contradiction
    · exact due_remove c now
  · exact due_of_same rfl

theorem due_hearListener (c : Channel) (now : Instant) (stimulus : Stimulus) :
    c.Due (c.hearListener now stimulus) := by
  unfold hearListener
  split
  · split
    · exact due_lose c _ now
    · split
      · exact due_greeted c _
      · exact due_of_stage fun h => by contradiction
  · exact due_lose c _ now
  · exact due_of_same rfl
  · exact due_lose c _ now
  · exact due_lose c _ now
  · exact due_of_same rfl

theorem due_resumeListener (c : Channel) (now : Instant) : c.Due (c.resumeListener now) := by
  unfold resumeListener
  split
  · rename_i hready
    split
    · exact due_remove c now
    · -- A listener that rests has something to do only once it was cancelled.
      rename_i hresting
      intro _
      rw [listenerReady, hresting] at hready
      exact .inr hready
    · exact due_lose c _ now
    · exact due_of_stage fun h => by contradiction
    · exact due_afterRemoval c now
    · exact due_of_same rfl
  · exact due_of_same rfl

theorem due_listenerExpired (c : Channel) (now : Instant) : c.Due (c.listenerExpired now) := by
  have hdial : c.Due (c.dialExpired now) := by
    unfold dialExpired
    split
    · split
      · exact due_dialled c now _
      · exact due_of_same rfl
    · exact due_of_same rfl
  unfold listenerExpired listenerRested
  split
  · split
    · exact due_of_stage fun h => by contradiction
    · exact hdial
  · exact hdial

/-! ## Going on -/

/-- A channel goes on. It may have been cancelled only where that was asked for, and its listener
comes to its end only if it was cancelled. -/
structure Onward (asked : Prop) (c d : Channel) : Prop where
  studio : d.studio = c.studio
  ended : c.listener = .over → d.listener = .over
  due : d.listener = .over → c.listener = .over ∨ d.isCancelled = true
  cancelled : c.isCancelled = true → d.isCancelled = true
  cause : d.isCancelled = true → c.isCancelled = true ∨ asked

theorem Onward.refl (asked : Prop) (c : Channel) : c.Onward asked c :=
  ⟨rfl, fun h => h, .inl, fun h => h, .inl⟩

theorem Onward.trans {e : Channel} {asked : Prop} (h : c.Onward asked d) (h' : d.Onward asked e) :
    c.Onward asked e := by
  refine ⟨h'.studio.trans h.studio, fun hover => h'.ended (h.ended hover), fun hover => ?_,
    fun hcancelled => h'.cancelled (h.cancelled hcancelled), fun hcancelled => ?_⟩
  · rcases h'.due hover with hbefore | hcancelled
    · exact (h.due hbefore).imp_right h'.cancelled
    · exact .inr hcancelled
  · rcases h'.cause hcancelled with hbefore | hasked
    · exact h.cause hbefore
    · exact .inr hasked

/-- A channel keeps its course, and a listener that is over stays so. -/
structure Keeps (c d : Channel) : Prop where
  course : d.course = c.course
  ended : c.listener = .over → d.listener = .over
  due : c.Due d

theorem Keeps.onward (h : c.Keeps d) (asked : Prop) : c.Onward asked d := by
  obtain ⟨hstudio, hrest⟩ := Prod.mk.inj h.course
  obtain ⟨hcancelled, -⟩ := Prod.mk.inj hrest
  exact ⟨hstudio, h.ended, fun hover => (h.due hover).imp_right hcancelled.trans,
    fun hwas => hcancelled.trans hwas, fun his => .inl (hcancelled ▸ his)⟩

theorem Keeps.stops (h : c.Keeps d) : d.stops = c.stops := congrArg (·.2.2) h.course

/-- What calls do leaves the listener where it is. -/
theorem keeps_of_intake (hcourse : d.course = c.course) (hintake : d.intake = c.intake) :
    c.Keeps d :=
  ⟨hcourse, fun hover => (congrArg Intake.listener hintake).trans hover,
    due_of_same (congrArg Intake.listener hintake)⟩

/-- A listener that is over does nothing any more. -/
theorem keeps_of_over (hcourse : d.course = c.course) (hdue : c.Due d)
    (hover : c.listener = .over → d = c) : c.Keeps d :=
  ⟨hcourse, fun h => (congrArg Channel.listener (hover h)).trans h, hdue⟩

theorem keeps_sendRealtime {commands : List String}
    (h : c.sendRealtime call commands now = .ok d) : c.Keeps d :=
  keeps_of_intake (course_sendRealtime h) (intake_sendRealtime h)

theorem keeps_hearWrite (c : Channel) (call : CallId) (stimulus : Stimulus) :
    c.Keeps (c.hearWrite call stimulus) :=
  keeps_of_intake (course_hearWrite c call stimulus) (intake_hearWrite c call stimulus)

theorem keeps_writeExpired (c : Channel) (call : CallId) (now : Instant) :
    c.Keeps (c.writeExpired call now) :=
  keeps_of_intake (course_writeExpired c call now) (intake_writeExpired c call now)

theorem keeps_cancelCall (c : Channel) (call : CallId) : c.Keeps (c.cancelCall call) :=
  keeps_of_intake (course_cancelCall c call) (intake_cancelCall c call)

theorem keeps_dialled (c : Channel) (now : Instant) (outcome : Except IoFault LineId) :
    c.Keeps (c.dialled now outcome) :=
  keeps_of_over (course_dialled c now outcome) (due_dialled c now outcome) fun hover => by
    unfold dialled
    rw [hover]

theorem keeps_hearListener (c : Channel) (now : Instant) (stimulus : Stimulus) :
    c.Keeps (c.hearListener now stimulus) :=
  keeps_of_over (course_hearListener c now stimulus) (due_hearListener c now stimulus)
    fun hover => by
    unfold hearListener
    rw [hover]

theorem keeps_resumeListener (c : Channel) (now : Instant) : c.Keeps (c.resumeListener now) :=
  keeps_of_over (course_resumeListener c now) (due_resumeListener c now) fun hover => by
    have hready : c.listenerReady = false := by rw [listenerReady, hover]
    rw [resumeListener, hready]
    rfl

theorem keeps_listenerExpired (c : Channel) (now : Instant) : c.Keeps (c.listenerExpired now) :=
  keeps_of_over (course_listenerExpired c now) (due_listenerExpired c now) fun hover => by
    have hdial : c.dialExpired now = c := by
      unfold dialExpired
      rw [hover]
    unfold listenerExpired listenerRested
    rw [hdial, hover]

/-! ## Shutting down -/

/-- A channel keeps its course, or its listener is over and the call is told so. -/
def StopsFor (call : CallId) (c d : Channel) : Prop :=
  c.Keeps d ∨ d.listener = .over ∧ ∃ e, c.Keeps e ∧ d = e.ask (.stopped call)

theorem StopsFor.onward (h : StopsFor call c d) (asked : Prop) : c.Onward asked d := by
  rcases h with hkeeps | ⟨-, e, hkeeps, rfl⟩
  · exact hkeeps.onward asked
  · have honward := hkeeps.onward asked
    exact ⟨honward.studio, honward.ended, honward.due, honward.cancelled, honward.cause⟩

/-- Nobody else is told, and nobody too early. -/
theorem StopsFor.tells (h : StopsFor call c d) (hstops : c.stops = []) {other : CallId}
    (hother : other ∈ d.stops) : other = call ∧ d.listener = .over := by
  rcases h with hkeeps | ⟨hover, e, hkeeps, rfl⟩
  · rw [hkeeps.stops, hstops] at hother
    contradiction
  · have hasked : (e.ask (.stopped call)).stops = [call] := by
      rw [stops, ask, List.filterMap_append, show e.acts.filterMap _ = e.stops from rfl,
        hkeeps.stops, hstops]
      rfl
    rw [hasked] at hother
    exact ⟨List.mem_singleton.mp hother, hover⟩

theorem stopsFor_closeWriter (c : Channel) (call : CallId) :
    StopsFor call c (c.closeWriter call) := by
  have hkeeps : ∀ {d : Channel}, d.course = (c.takeWriter.giveUp (.call call)).course →
      d.listener = c.takeWriter.listener → c.Keeps d := by
    intro d hcourse hlistener
    have htaken : c.takeWriter.listener = c.listener :=
      congrArg Intake.listener (intake_takeWriter c)
    exact ⟨hcourse.trans ((course_giveUp _ _).trans (course_takeWriter c)),
      fun hover => (hlistener.trans htaken).trans hover, due_of_same (hlistener.trans htaken)⟩
  unfold closeWriter
  dsimp only
  split
  · rename_i hover
    exact .inr ⟨hover, (c.takeWriter.giveUp (.call call)).endCall call, hkeeps rfl rfl, rfl⟩
  · exact .inl (hkeeps rfl rfl)

theorem stopsFor_resumeCall (c : Channel) (call : CallId) (now : Instant) :
    StopsFor call c (c.resumeCall call now) := by
  unfold resumeCall
  split
  · rename_i hready
    split
    · exact .inl (keeps_of_intake (course_beginWrite c call _ now) (intake_beginWrite c call _ now))
    · exact stopsFor_closeWriter c call
    · rename_i hcall
      have hover : c.listener = .over := by simpa [callReady, hcall] using hready
      exact .inr ⟨hover, c.endCall call, ⟨rfl, fun h => h, .inl⟩, rfl⟩
    · exact .inl ⟨rfl, fun h => h, .inl⟩
  · exact .inl ⟨rfl, fun h => h, .inl⟩

/-- Shutting a channel down cancels it. -/
theorem stopsFor_shutdown (c : Channel) (call : CallId) (h : c.isCancelled = false) :
    StopsFor call { c with isCancelled := true } (c.shutdown call) := by
  have hasked : Keeps { c with isCancelled := true }
      (({ c with isCancelled := true }.ask (.wake .listener)).request (.call call) |>.putCall call
        .closing) :=
    ⟨course_ask { c with isCancelled := true } rfl, fun h => h, .inl⟩
  unfold shutdown
  rw [h]
  dsimp only
  rw [if_neg Bool.false_ne_true]
  split
  · rcases stopsFor_closeWriter _ call with hclosed | ⟨hover, e, hclosed, heq⟩
    · exact .inl ⟨hclosed.course.trans hasked.course, fun h => hclosed.ended (hasked.ended h),
        fun _ => .inr rfl⟩
    · refine .inr ⟨hover, e, ⟨hclosed.course.trans hasked.course, ?_, fun _ => .inr rfl⟩, heq⟩
      exact fun h => hclosed.ended (hasked.ended h)
  · exact .inl hasked

/-- Whoever shuts a channel down cancels it. -/
theorem onward_shutdown (c : Channel) (call : CallId) {asked : Prop} (hasked : asked) :
    c.Onward asked (c.shutdown call) := by
  cases hcancelled : c.isCancelled with
  | true =>
    rw [shutdown, if_pos hcancelled]
    exact ⟨rfl, fun h => h, .inl, fun h => h, fun _ => .inr hasked⟩
  | false =>
    have honward := (stopsFor_shutdown c call hcancelled).onward asked
    exact ⟨honward.studio, honward.ended, honward.due, fun _ => honward.cancelled rfl,
      fun _ => .inr hasked⟩

theorem isCancelled_shutdown (c : Channel) (call : CallId) :
    (c.shutdown call).isCancelled = true := by
  cases hcancelled : c.isCancelled with
  | true =>
    rw [shutdown, if_pos hcancelled]
    exact hcancelled
  | false => exact ((stopsFor_shutdown c call hcancelled).onward True).cancelled rfl

/-- Whoever shuts a channel down is told once its listener is over, or at once if the channel was
cancelled before. -/
theorem tells_shutdown (hstops : c.stops = []) {other : CallId}
    (hother : other ∈ (c.shutdown call).stops) :
    other = call ∧ ((c.shutdown call).listener = .over ∨ c.isCancelled = true) := by
  cases hcancelled : c.isCancelled with
  | true =>
    rw [shutdown, if_pos hcancelled, stops_ask hstops] at hother
    exact ⟨List.mem_singleton.mp hother, .inr rfl⟩
  | false =>
    obtain ⟨hcall, hover⟩ := (stopsFor_shutdown c call hcancelled).tells hstops hother
    exact ⟨hcall, .inl hover⟩

end Channel

end BroadcastLink
