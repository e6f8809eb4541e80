import BroadcastLink.Proofs.Channel.Received

/-!
# A channel that has stopped

When the listener is over, no writer is there and no call writes. Whatever happens then, the channel
only tells those who wait that they need not wait any longer: it publishes nothing, hangs up
nothing, and writes nothing. A call to write is told so as soon as its turn for the lock comes, and
somebody's turn always comes.
-/

namespace BroadcastLink

/-- A word to somebody who waits, and not that anything was written. -/
def ChannelAct.isIdle : ChannelAct → Bool
  | .wake _ | .sent _ false | .stopped _ => true
  | _ => false

namespace Channel

variable {c d e : Channel} {call other : CallId} {now : Instant} {commands : List String}

/-- Can somebody go on without waiting for anything? -/
def isReady (c : Channel) : Bool := c.listenerReady || c.calls.keys.any c.callReady

/-- The listener is over, there is nothing to write on, and nobody writes. -/
structure Stopped (c : Channel) : Prop where
  ended : c.listener = .over
  writer : c.writer = none
  calls : ∀ call rest deadline, c.calls.get? call ≠ some (.writing rest deadline)

/-! ## What it still asks for -/

/-- What was asked for since is idle. -/
def Idles (c d : Channel) : Prop :=
  ∃ acts, d.acts = c.acts ++ acts ∧ ∀ act ∈ acts, act.isIdle = true

/-- Moreover, a call was told that nothing of its commands was written. -/
def Refuses (call : CallId) (c d : Channel) : Prop :=
  ∃ acts, d.acts = c.acts ++ acts ∧ (∀ act ∈ acts, act.isIdle = true) ∧ .sent call false ∈ acts

theorem idles_of_acts (h : d.acts = c.acts) : c.Idles d :=
  ⟨[], by rw [h, List.append_nil], fun act hmem => by contradiction⟩

theorem Idles.trans (h : c.Idles d) (h' : d.Idles e) : c.Idles e := by
  obtain ⟨front, hd, hfront⟩ := h
  obtain ⟨back, he, hback⟩ := h'
  exact ⟨front ++ back, by rw [he, hd, List.append_assoc],
    List.forall_mem_append.mpr ⟨hfront, hback⟩⟩

theorem Refuses.idles (h : Refuses call c d) : c.Idles d := by
  obtain ⟨acts, hd, hacts, -⟩ := h
  exact ⟨acts, hd, hacts⟩

theorem Refuses.trans (h : Refuses call c d) (h' : d.Idles e) : Refuses call c e := by
  obtain ⟨front, hd, hfront, hmem⟩ := h
  obtain ⟨back, he, hback⟩ := h'
  exact ⟨front ++ back, by rw [he, hd, List.append_assoc],
    List.forall_mem_append.mpr ⟨hfront, hback⟩, List.mem_append_left back hmem⟩

theorem Idles.refuses (h : c.Idles d) (h' : Refuses call d e) : Refuses call c e := by
  obtain ⟨front, hd, hfront⟩ := h
  obtain ⟨back, he, hback, hmem⟩ := h'
  exact ⟨front ++ back, by rw [he, hd, List.append_assoc],
    List.forall_mem_append.mpr ⟨hfront, hback⟩, List.mem_append_right front hmem⟩

theorem idles_ask (c : Channel) {act : ChannelAct} (h : act.isIdle = true) : c.Idles (c.ask act) :=
  ⟨[act], rfl, fun _ hmem => List.mem_singleton.mp hmem ▸ h⟩

theorem refuses_ask (c : Channel) (call : CallId) : Refuses call c (c.ask (.sent call false)) :=
  ⟨[.sent call false], rfl, fun _ hmem => List.mem_singleton.mp hmem ▸ rfl,
    List.mem_singleton_self _⟩

theorem idles_giveUp (c : Channel) (user : WriterUser) : c.Idles (c.giveUp user) := by
  refine ⟨_, rfl, fun act hmem => ?_⟩
  obtain ⟨next, -, rfl⟩ := List.mem_map.mp hmem
  rfl

theorem refuses_dropWrite (c : Channel) (call : CallId) : Refuses call c (c.dropWrite call) :=
  (idles_giveUp { c with counters := c.counters.writeDropped } (.call call)).refuses
    (refuses_ask _ call)

theorem refuses_beginWrite (h : c.writer = none) (call : CallId) (payload : Bytes) (now : Instant) :
    Refuses call c (c.beginWrite call payload now) := by
  rw [beginWrite, h]
  exact refuses_dropWrite c call

theorem idles_closeWriter (h : c.writer = none) (call : CallId) : c.Idles (c.closeWriter call) := by
  have hnone : c.takeWriter = c := by rw [takeWriter, h]
  have hgiven := idles_giveUp c (.call call)
  rw [closeWriter, hnone]
  split
  · exact hgiven.trans (idles_ask ((c.giveUp (.call call)).endCall call) rfl)
  · exact hgiven

/-- The listener does nothing any more. -/
theorem Stopped.listener (h : c.Stopped) {event : ChannelEvent}
    (hevent : event matches .dialled _ _ | .hearListener _ _ | .listenerExpired _
      | .resumeListener _) : c.perform event = c := by
  cases event with
  | dialled now outcome =>
    unfold perform dialled
    dsimp only
    rw [h.ended]
  | hearListener now stimulus =>
    unfold perform hearListener
    dsimp only
    rw [h.ended]
  | listenerExpired now =>
    have hdial : c.dialExpired now = c := by rw [dialExpired, h.ended]
    rw [perform, listenerExpired, hdial, listenerRested, h.ended]
  | resumeListener now =>
    have hready : c.listenerReady = false := by rw [listenerReady, h.ended]
    rw [perform, resumeListener, hready]
    rfl
  | sendRealtime | hearWrite | writeExpired | resumeCall | cancelCall | shutdown => contradiction

/-- Nothing that is written is taken or takes too long. -/
theorem Stopped.writes (h : c.Stopped) {event : ChannelEvent}
    (hevent : event matches .hearWrite _ _ | .writeExpired _ _) : c.perform event = c := by
  cases event with
  | hearWrite call stimulus =>
    unfold perform hearWrite
    dsimp only
    split
    · exact absurd ‹_› (h.calls _ _ _)
    · exact absurd ‹_› (h.calls _ _ _)
    · rfl
  | writeExpired call now =>
    unfold perform writeExpired
    dsimp only
    split
    · exact absurd ‹_› (h.calls _ _ _)
    · rfl
  | dialled | hearListener | listenerExpired | resumeListener | sendRealtime | resumeCall
  | cancelCall | shutdown => contradiction

/-- A call to write waits for the lock, or is told at once that nothing is written. -/
theorem Stopped.queueWrite (h : c.Stopped) (call : CallId) (payload : Bytes) (now : Instant) :
    Refuses call c (c.queueWrite call payload now) ∨
      (c.queueWrite call payload now).acts = c.acts ∧
        (c.queueWrite call payload now).calls = c.calls.put call (.queued payload) := by
  rw [Channel.queueWrite]
  split
  · exact .inl (refuses_beginWrite (c := (c.request (.call call)).putCall call (.queued payload))
      h.writer call payload now)
  · exact .inr ⟨rfl, rfl⟩

theorem Stopped.idles_sendRealtime (h : c.Stopped) (call : CallId) (commands : List String)
    (now : Instant) : c.Idles (c.perform (.sendRealtime call commands now)) := by
  rw [perform]
  split
  · rename_i d hsent
    unfold sendRealtime at hsent
    split at hsent
    · contradiction
    · obtain rfl := Except.ok.inj hsent
      exact idles_ask c rfl
    · obtain rfl := Except.ok.inj hsent
      exact (h.queueWrite call _ now).elim Refuses.idles fun hqueued => idles_of_acts hqueued.1
  · exact idles_of_acts rfl

theorem Stopped.idles_resumeCall (h : c.Stopped) (call : CallId) (now : Instant) :
    c.Idles (c.resumeCall call now) := by
  unfold resumeCall
  split
  · split
    · exact (refuses_beginWrite h.writer call _ now).idles
    · exact idles_closeWriter h.writer call
    · exact idles_ask (c.endCall call) rfl
    · exact idles_of_acts rfl
  · exact idles_of_acts rfl

theorem Stopped.idles_shutdown (h : c.Stopped) (call : CallId) : c.Idles (c.shutdown call) := by
  have hasked : c.Idles ({ c with isCancelled := true }.ask (.wake .listener)) :=
    idles_ask { c with isCancelled := true } rfl
  unfold shutdown
  split
  · exact idles_ask c rfl
  · dsimp only
    split
    · exact hasked.trans (idles_closeWriter (c := (({ c with isCancelled := true }.ask
        (.wake .listener)).request (.call call)).putCall call .closing) h.writer call)
    · exact hasked

/-- Whatever happens to a channel that has stopped, all it asks for is idle. -/
theorem Stopped.idles (h : c.Stopped) (event : ChannelEvent) : c.Idles (c.perform event) := by
  cases event with
  | dialled | hearListener | listenerExpired | resumeListener =>
    rw [h.listener rfl]
    exact idles_of_acts rfl
  | hearWrite | writeExpired =>
    rw [h.writes rfl]
    exact idles_of_acts rfl
  | sendRealtime call commands now => exact h.idles_sendRealtime call commands now
  | resumeCall call now => exact h.idles_resumeCall call now
  | cancelCall call => exact idles_giveUp c (.call call)
  | shutdown call => exact h.idles_shutdown call

/-! ## Who still waits -/

/-- A call that waits for the lock to write. -/
def IsQueued (call : CallId) (c : Channel) : Prop :=
  ∃ payload, c.calls.get? call = some (.queued payload)

theorem get?_endCall_of_ne (c : Channel) (h : call ≠ other) :
    (c.endCall other).calls.get? call = c.calls.get? call :=
  (Roster.get?_erase c.calls call other).trans (if_neg h)

theorem get?_putCall_of_ne (c : Channel) (h : call ≠ other) (stage : ChannelCall) :
    (c.putCall other stage).calls.get? call = c.calls.get? call :=
  (Roster.get?_put c.calls call other stage).trans (if_neg h)

theorem calls_takeWriter (c : Channel) : c.takeWriter.calls = c.calls := by
  unfold takeWriter
  split <;> rfl

theorem get?_beginWrite_of_ne (c : Channel) (h : call ≠ other) (payload : Bytes) (now : Instant) :
    (c.beginWrite other payload now).calls.get? call = c.calls.get? call := by
  unfold beginWrite
  split
  · exact get?_putCall_of_ne c h _
  · exact get?_endCall_of_ne c h

theorem get?_closeWriter_of_ne (c : Channel) (h : call ≠ other) :
    (c.closeWriter other).calls.get? call = c.calls.get? call := by
  unfold closeWriter
  dsimp only
  split
  · exact (get?_endCall_of_ne _ h).trans (congrArg (·.get? call) (calls_takeWriter c))
  · exact (get?_putCall_of_ne _ h _).trans (congrArg (·.get? call) (calls_takeWriter c))

theorem get?_sendRealtime_of_ne (c : Channel) (h : call ≠ other) (commands : List String)
    (now : Instant) :
    (c.perform (.sendRealtime other commands now)).calls.get? call = c.calls.get? call := by
  rw [perform]
  split
  · rename_i d hsent
    unfold sendRealtime at hsent
    split at hsent
    · contradiction
    · obtain rfl := Except.ok.inj hsent
      rfl
    · obtain rfl := Except.ok.inj hsent
      unfold Channel.queueWrite
      dsimp only
      split
      · exact (get?_beginWrite_of_ne _ h _ now).trans (get?_putCall_of_ne _ h _)
      · exact get?_putCall_of_ne _ h _
  · rfl

theorem get?_resumeCall_of_ne (c : Channel) (h : call ≠ other) (now : Instant) :
    (c.resumeCall other now).calls.get? call = c.calls.get? call := by
  unfold resumeCall
  split
  · split
    · exact get?_beginWrite_of_ne c h _ now
    · exact get?_closeWriter_of_ne c h
    · exact get?_endCall_of_ne c h
    · rfl
  · rfl

theorem get?_shutdown_of_ne (c : Channel) (h : call ≠ other) :
    (c.shutdown other).calls.get? call = c.calls.get? call := by
  unfold shutdown
  split
  · rfl
  · dsimp only
    split
    · exact (get?_closeWriter_of_ne _ h).trans (get?_putCall_of_ne _ h .closing)
    · exact get?_putCall_of_ne _ h .closing

/-- A call that waits to write goes on waiting or is told that nothing is written, unless it is
given up. -/
theorem Stopped.queued (h : c.Stopped) (hqueued : IsQueued call c) {event : ChannelEvent}
    (hevent : event ≠ .cancelCall call)
    (hnew : ∀ commands now, event ≠ .sendRealtime call commands now)
    (hshutdown : event ≠ .shutdown call) :
    Refuses call c (c.perform event) ∨ IsQueued call (c.perform event) := by
  have hkept : (c.perform event).calls.get? call = c.calls.get? call →
      IsQueued call (c.perform event) := fun hsame => by
    rw [IsQueued, hsame]
    exact hqueued
  cases event with
  | dialled | hearListener | listenerExpired | resumeListener =>
    exact .inr (hkept (by rw [h.listener rfl]))
  | hearWrite | writeExpired => exact .inr (hkept (by rw [h.writes rfl]))
  | sendRealtime other commands now =>
    have hne : call ≠ other := fun heq => hnew commands now (heq ▸ rfl)
    exact .inr (hkept (get?_sendRealtime_of_ne c hne commands now))
  | cancelCall other =>
    have hne : call ≠ other := fun heq => hevent (heq ▸ rfl)
    exact .inr (hkept (get?_endCall_of_ne _ hne))
  | shutdown other =>
    have hne : call ≠ other := fun heq => hshutdown (heq ▸ rfl)
    exact .inr (hkept (get?_shutdown_of_ne c hne))
  | resumeCall other now =>
    by_cases hne : call = other
    · subst hne
      -- If it is the call's turn, there is nothing to write on.
      obtain ⟨payload, hcall⟩ := hqueued
      by_cases hready : c.callReady call = true
      · left
        rw [perform, resumeCall, if_pos hready, hcall]
        exact refuses_beginWrite h.writer call payload now
      · right
        refine hkept ?_
        rw [perform, resumeCall, if_neg hready]
    · exact .inr (hkept (get?_resumeCall_of_ne c hne now))

/-- Whoever can go on in a channel that has stopped is done when he has. -/
theorem Stopped.resumes (h : c.Stopped) (hready : c.callReady call = true) (now : Instant) :
    (c.resumeCall call now).calls = c.calls.erase call := by
  rw [resumeCall, if_pos hready]
  rw [callReady] at hready
  cases hcall : c.calls.get? call with
  | none =>
    rw [hcall] at hready
    contradiction
  | some stage =>
    cases stage with
    | queued payload =>
      show (c.beginWrite call payload now).calls = _
      rw [beginWrite, h.writer]
      rfl
    | writing rest deadline => exact absurd hcall (h.calls call rest deadline)
    | closing =>
      have hnone : c.takeWriter = c := by rw [takeWriter, h.writer]
      show (c.closeWriter call).calls = _
      rw [closeWriter, hnone, if_pos (show (c.giveUp (.call call)).listener = .over from h.ended)]
      rfl
    | joining => rfl

/-- A call to write commands without line breaks waits for the lock, or is told at once that nothing
is written. -/
theorem Stopped.sends (h : c.Stopped) (call : CallId)
    (hclean : ∀ command ∈ commands, breaksLine command = false) (now : Instant) :
    Refuses call c (c.perform (.sendRealtime call commands now)) ∨
      (c.perform (.sendRealtime call commands now)).acts = c.acts ∧
        IsQueued call (c.perform (.sendRealtime call commands now)) := by
  have hpayload : realtimePayload commands = .ok (lineBytes commands) := by
    rw [realtimePayload, List.find?_eq_none.mpr fun command hmem => by simp [hclean command hmem]]
  rw [perform, sendRealtime, hpayload]
  cases lineBytes commands with
  | nil => exact .inl (refuses_ask c call)
  | cons b rest =>
    refine (h.queueWrite call (b :: rest) now).imp_right fun hqueued => ⟨hqueued.1, b :: rest, ?_⟩
    show (c.queueWrite call (b :: rest) now).calls.get? call = _
    rw [hqueued.2, Roster.get?_put, if_pos rfl]

end Channel

/-- Nobody stands in line for the lock while nobody has it. -/
theorem Outflow.prompt_move {t t' : Outflow} (h : t.lock.Prompt) (hmove : Move t t') :
    t'.lock.Prompt := by
  cases hmove with
  | ask | enter | take | joined | connect | greet | rest => exact h
  | queue | beginClosing | greeted | remove => exact Lock.prompt_request _ _
  | finish | drop | abandon | breakOff | close | install | removed => exact Lock.prompt_giveUp h _

theorem Outflow.prompt_moves {t t' : Outflow} (h : t.lock.Prompt) (hmoves : Moves t t') :
    t'.lock.Prompt := by
  induction hmoves with
  | refl => exact h
  | tail _ hmove ih => exact Outflow.prompt_move ih hmove

namespace Outlet

variable {o : Outlet} {user : WriterUser} {call : CallId}

theorem stopped_of_over (h : o.outflow.Guarded) (hover : o.channel.listener = .over) :
    o.channel.Stopped := by
  have hwriter : o.channel.writer = none :=
    h.noWriter_of_isApart (show o.channel.listener.isApart = true by rw [hover]; rfl)
  refine ⟨hover, hwriter, fun call rest deadline hcall => ?_⟩
  obtain ⟨-, line, hline⟩ := h.writing call rest deadline hcall
  rw [show o.outflow.writer = none from hwriter] at hline
  contradiction

/-- Nothing is written any more, and no connection made. -/
theorem wiresAfter_of_stopped (h : o.channel.Stopped) (event : ChannelEvent) :
    o.wiresAfter event = o.wires := by
  have hentered : ∀ call, o.enteredAfter event call = o.wires := fun call => by
    rw [enteredAfter, h.writer]
    split <;> first | rfl | contradiction
  unfold wiresAfter
  split
  · rw [h.ended]
  · rw [h.ended]
  · rw [h.writer]
  · rw [h.writer]
  · exact hentered _
  · exact hentered _
  · rfl

/-! ## Somebody's turn -/

/-- Where there is nothing to write on, whoever holds the lock can go on. -/
theorem isReady_of_user (h : o.outflow.Guarded) (hprompt : o.channel.lock.Prompt)
    (hwriter : o.channel.writer = none) (huser : user ∈ o.channel.lock.users) :
    o.channel.isReady = true := by
  obtain ⟨holder, hholder⟩ := hprompt.holder huser
  have hheld := Lock.heldBy_of_holder hholder
  have hmem : holder ∈ o.outflow.lock.users := Lock.mem_users_of_holder hholder
  rw [Channel.isReady, Bool.or_eq_true]
  cases holder with
  | listener =>
    have huses : o.channel.listener.usesLock = true := h.listener.mp hmem
    left
    unfold Channel.listenerReady
    cases hlistener : o.channel.listener with
    | installing | removing => exact hheld
    | dialling | greeting | reading | resting | «over» =>
      rw [hlistener] at huses
      contradiction
  | call c =>
    -- A call that holds the lock can go on, unless it writes, and then there is a writer.
    obtain ⟨stage, hstage, huses⟩ := (h.calls c).mp hmem
    have hready : o.channel.callReady c = true := by
      rw [Channel.callReady, show o.channel.calls.get? c = some stage from hstage]
      cases stage with
      | queued | closing => exact hheld
      | joining => contradiction
      | writing rest deadline =>
        obtain ⟨-, line, hline⟩ := h.writing c rest deadline hstage
        rw [show o.outflow.writer = none from hwriter] at hline
        contradiction
    exact .inr (List.any_eq_true.mpr ⟨c, Roster.mem_keys_of_get? hstage, hready⟩)

end Outlet

end BroadcastLink
