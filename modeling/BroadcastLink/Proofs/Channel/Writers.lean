import BroadcastLink.Proofs.Channel.Moves

/-!
# One writer at a time

Whoever writes on a channel's connection holds the lock, and so does the listener when it puts the
writer there or takes it away. While a call writes, the connection therefore stays where it is.
-/

namespace BroadcastLink

namespace Outflow

/-- The lock is used by the calls and the listener that say so, each once; a call that writes holds
it and has a connection; and the listener is on the connection that is there to write on. -/
structure Guarded (t : Outflow) : Prop where
  once : t.lock.users.Nodup
  calls : ∀ call, .call call ∈ t.lock.users ↔
    ∃ stage, t.calls.get? call = some stage ∧ stage.usesLock = true
  listener : .listener ∈ t.lock.users ↔ t.listener.usesLock = true
  writing : ∀ call rest deadline, t.calls.get? call = some (.writing rest deadline) →
    t.lock.holder = some (.call call) ∧ ∃ line, t.writer = some line
  writer : ∀ line, t.writer = some line → t.listener = .reading line ∨ t.listener = .removing

namespace Guarded

variable {t t' : Outflow} {call : CallId}

/-- Nobody but the holder of the lock writes. -/
theorem alone (h : t.Guarded) {user : WriterUser} (hheld : t.lock.holder = some user) {c : CallId}
    {rest : Bytes} {deadline : Instant} (hc : t.calls.get? c = some (.writing rest deadline)) :
    user = .call c :=
  Option.some.inj (hheld.symm.trans (h.writing c rest deadline hc).1)

/-- No connection is there to write on unless the listener is on one. -/
theorem noWriter (h : t.Guarded) (hreading : ∀ line, t.listener ≠ .reading line)
    (hremoving : t.listener ≠ .removing) : t.writer = none := by
  cases hwriter : t.writer with
  | none => rfl
  | some line => exact ((h.writer line hwriter).elim (hreading line) hremoving).elim

/-- A connection that is there to write on has its greeting behind it. -/
theorem not_greeting (h : t.Guarded) {line : LineId} (hwriter : t.writer = some line)
    (other : LineId) (rest : Bytes) : t.listener ≠ .greeting other rest := by
  intro hgreeting
  have hreading := h.writer line hwriter
  rw [hgreeting] at hreading
  rcases hreading with heq | heq <;> contradiction

theorem not_installing (h : t.Guarded) {line : LineId} (hwriter : t.writer = some line)
    (other : LineId) : t.listener ≠ .installing other := by
  intro hinstalling
  have hreading := h.writer line hwriter
  rw [hinstalling] at hreading
  rcases hreading with heq | heq <;> contradiction

/-! ## Calls -/

/-- A new call asks for the lock. -/
theorem callAsks (h : t.Guarded) {stage : ChannelCall} (hnew : t.calls.get? call = none)
    (huses : stage.usesLock = true) (hstage : ∀ rest deadline, stage ≠ .writing rest deadline)
    (hlock : t'.lock = t.lock.request (.call call)) (hcalls : t'.calls = t.calls.put call stage)
    (hlistener : t'.listener = t.listener) (hwriter : t'.writer = t.writer) : t'.Guarded := by
  refine ⟨?_, ?_, ?_, ?_, ?_⟩
  · rw [hlock]
    refine Lock.nodup_users_request h.once fun hmem => ?_
    obtain ⟨_, hthere, -⟩ := (h.calls call).mp hmem
    rw [hnew] at hthere
    contradiction
  · intro c
    rw [hlock, Lock.mem_users_request, hcalls, Roster.get?_put]
    by_cases hc : c = call
    · subst hc
      rw [if_pos rfl]
      exact iff_of_true (.inl rfl) ⟨stage, rfl, huses⟩
    · rw [if_neg hc, ← h.calls c]
      exact or_iff_right fun heq => hc (WriterUser.call.inj heq)
  · rw [hlock, Lock.mem_users_request, hlistener, ← h.listener]
    exact or_iff_right fun heq => by contradiction
  · intro c rest deadline hc
    rw [hcalls, Roster.get?_put] at hc
    split at hc
    · exact absurd (Option.some.inj hc) (hstage rest deadline)
    · obtain ⟨hheld, hline⟩ := h.writing c rest deadline hc
      rw [hlock, hwriter]
      exact ⟨Lock.holder_request hheld, hline⟩
  · rw [hwriter, hlistener]
    exact h.writer

/-- A call goes on without giving up the lock. -/
theorem callGoesOn (h : t.Guarded) {before after : ChannelCall}
    (hcall : t.calls.get? call = some before) (hcalls : t'.calls = t.calls.put call after)
    (huses : after.usesLock = before.usesLock)
    (hwrites : ∀ rest deadline, after = .writing rest deadline →
      t.lock.holder = some (.call call) ∧ ∃ line, t.writer = some line)
    (hlock : t'.lock = t.lock)
    (hlistener : t'.listener = t.listener) (hwriter : t'.writer = t.writer) : t'.Guarded := by
  refine ⟨hlock ▸ h.once, ?_, hlock ▸ hlistener ▸ h.listener, ?_, hwriter ▸ hlistener ▸ h.writer⟩
  · intro c
    rw [hlock, h.calls c, hcalls, Roster.get?_put]
    by_cases hc : c = call
    · subst hc
      rw [if_pos rfl, hcall]
      simp [huses]
    · rw [if_neg hc]
  · intro c rest deadline hc
    rw [hlock, hwriter]
    rw [hcalls, Roster.get?_put] at hc
    split at hc
    · rename_i heq
      exact heq ▸ hwrites rest deadline (Option.some.inj hc)
    · exact h.writing c rest deadline hc

/-- A call no longer uses the lock. It may take the writer away if it held the lock. -/
theorem callLeaves (h : t.Guarded) (hlock : t'.lock = (t.lock.giveUp (.call call)).1)
    (hcall : ∀ stage, t'.calls.get? call = some stage → stage.usesLock = false)
    (hothers : ∀ c, c ≠ call → t'.calls.get? c = t.calls.get? c)
    (hlistener : t'.listener = t.listener)
    (hwriter : t'.writer = t.writer ∨ t'.writer = none ∧ t.lock.holder = some (.call call)) :
    t'.Guarded := by
  refine ⟨?_, ?_, ?_, ?_, ?_⟩
  · rw [hlock]
    exact Lock.nodup_users_giveUp h.once
  · intro c
    rw [hlock, Lock.mem_users_giveUp h.once]
    by_cases hc : c = call
    · subst hc
      refine iff_of_false (fun hmem => hmem.2 rfl) ?_
      rintro ⟨stage, hstage, huses⟩
      rw [hcall stage hstage] at huses
      contradiction
    · rw [hothers c hc, ← h.calls c]
      exact and_iff_left fun heq => hc (WriterUser.call.inj heq)
  · rw [hlock, Lock.mem_users_giveUp h.once, hlistener, ← h.listener]
    exact and_iff_left fun heq => by contradiction
  · intro c rest deadline hc
    have hne : c ≠ call := fun heq => by
      have := hcall _ (heq ▸ hc)
      contradiction
    rw [hothers c hne] at hc
    obtain ⟨hheld, hline⟩ := h.writing c rest deadline hc
    refine ⟨?_, ?_⟩
    · rw [hlock]
      exact Lock.holder_giveUp_of_ne hheld fun heq => hne (WriterUser.call.inj heq)
    · rcases hwriter with hsame | ⟨-, hmine⟩
      · rw [hsame]
        exact hline
      · exact absurd (WriterUser.call.inj (h.alone hmine hc)).symm hne
  · intro line hline
    rw [hlistener]
    rcases hwriter with hsame | ⟨hnone, -⟩
    · exact h.writer line (hsame ▸ hline)
    · rw [hnone] at hline
      contradiction

/-- A call that does not use the lock is over. -/
theorem callEnds (h : t.Guarded) {stage : ChannelCall} (hcall : t.calls.get? call = some stage)
    (hfree : stage.usesLock = false) : { t with calls := t.calls.erase call }.Guarded := by
  refine ⟨h.once, ?_, h.listener, ?_, h.writer⟩
  · intro c
    refine (h.calls c).trans ?_
    show _ ↔ ∃ stage, (t.calls.erase call).get? c = some stage ∧ _
    rw [Roster.get?_erase]
    by_cases hc : c = call
    · subst hc
      rw [if_pos rfl, hcall]
      simp [hfree]
    · rw [if_neg hc]
  · intro c rest deadline hc
    rw [show ({ t with calls := t.calls.erase call } : Outflow).calls = t.calls.erase call from rfl,
      Roster.get?_erase] at hc
    split at hc
    · contradiction
    · exact h.writing c rest deadline hc

/-! ## The listener -/

/-- The listener asks for the lock, to put the writer there or to take it away. -/
theorem listenerAsks (h : t.Guarded) {stage : ListenerStage} (hfree : t.listener.usesLock = false)
    (huses : stage.usesLock = true) (hstage : t.writer = none ∨ stage = .removing) :
    (t.listenerAsks stage).Guarded := by
  have hnew : .listener ∉ t.lock.users := fun hmem => by
    rw [h.listener.mp hmem] at hfree
    contradiction
  refine ⟨Lock.nodup_users_request h.once hnew, ?_, ?_, ?_, ?_⟩
  · intro c
    refine Iff.trans ?_ (h.calls c)
    show _ ∈ (t.lock.request .listener).users ↔ _
    rw [Lock.mem_users_request]
    exact or_iff_right fun heq => by contradiction
  · exact iff_of_true (Lock.mem_users_request.mpr (.inl rfl)) huses
  · intro c rest deadline hc
    obtain ⟨hheld, hline⟩ := h.writing c rest deadline hc
    exact ⟨Lock.holder_request hheld, hline⟩
  · intro line hline
    rcases hstage with hnone | rfl
    · exact absurd (hnone.symm.trans hline) (Option.some_ne_none line).symm
    · exact .inr rfl

/-- The listener has used the lock, and is on the connection that it put the writer on. -/
theorem listenerLeaves (h : t.Guarded) {writer : Option LineId} {stage : ListenerStage}
    (hheld : t.lock.holder = some .listener) (hstage : stage.usesLock = false)
    (hwriter : ∀ line, writer = some line → stage = .reading line) :
    (t.listenerLeaves writer stage).Guarded := by
  refine ⟨Lock.nodup_users_giveUp h.once, ?_, ?_, ?_, fun line hline => .inl (hwriter line hline)⟩
  · intro c
    refine Iff.trans ?_ (h.calls c)
    show _ ∈ (t.lock.giveUp .listener).1.users ↔ _
    rw [Lock.mem_users_giveUp h.once]
    exact and_iff_left fun heq => by contradiction
  · refine iff_of_false (fun hmem => ((Lock.mem_users_giveUp h.once).mp hmem).2 rfl) ?_
    rw [show (t.listenerLeaves writer stage).listener = stage from rfl, hstage]
    exact Bool.false_ne_true
  · intro c rest deadline hc
    have := h.alone hheld hc
    contradiction

/-- The listener goes on without the lock, while no connection is there to write on. -/
theorem listenerGoesOn (h : t.Guarded) (hwriter : t.writer = none)
    (hfree : t.listener.usesLock = false) {stage : ListenerStage} (hstage : stage.usesLock = false)
    (hlock : t'.lock = t.lock) (hcalls : t'.calls = t.calls) (hlistener : t'.listener = stage)
    (hsame : t'.writer = t.writer) : t'.Guarded := by
  refine ⟨hlock ▸ h.once, ?_, ?_, ?_, ?_⟩
  · rw [hlock, hcalls]
    exact h.calls
  · rw [hlock, h.listener, hlistener, hfree, hstage]
  · rw [hlock, hcalls, hsame]
    exact h.writing
  · intro line hline
    rw [hsame, hwriter] at hline
    contradiction

/-! ## Moves -/

theorem usesLock_of_isApart {stage : ListenerStage} (h : stage.isApart = true) :
    stage.usesLock = false := by
  cases stage <;> first | rfl | contradiction

theorem noWriter_of_isApart (h : t.Guarded) (hapart : t.listener.isApart = true) :
    t.writer = none :=
  h.noWriter (fun line heq => by rw [heq] at hapart; contradiction)
    fun heq => by rw [heq] at hapart; contradiction

theorem noWriter_of_greeting (h : t.Guarded) {line : LineId} {rest : Bytes}
    (hgreeting : t.listener = .greeting line rest) : t.writer = none :=
  h.noWriter (fun line heq => by rw [hgreeting] at heq; contradiction)
    fun heq => by rw [hgreeting] at heq; contradiction

/-- A call is over, and may have taken the writer away if it held the lock. -/
theorem leave (h : t.Guarded) (hlock : t'.lock = (t.lock.giveUp (.call call)).1)
    (hcalls : t'.calls = t.calls.erase call) (hlistener : t'.listener = t.listener)
    (hwriter : t'.writer = t.writer ∨ t'.writer = none ∧ t.lock.holder = some (.call call)) :
    t'.Guarded := by
  refine h.callLeaves hlock (fun stage hstage => ?_) (fun c hc => ?_) hlistener hwriter
  · rw [hcalls, Roster.get?_erase, if_pos rfl] at hstage
    contradiction
  · rw [hcalls, Roster.get?_erase, if_neg hc]

theorem move (h : t.Guarded) (hmove : Move t t') : t'.Guarded := by
  cases hmove with
  | ask hcall hasked => exact ⟨h.once, h.calls, h.listener, h.writing, h.writer⟩
  | queue hcall hasked hpayload =>
    exact h.callAsks hcall rfl (fun _ _ heq => by contradiction) rfl rfl rfl rfl
  | enter deadline hcall hheld hwriter =>
    exact h.callGoesOn hcall rfl rfl (fun _ _ _ => ⟨hheld, _, hwriter⟩) rfl rfl rfl
  | take n hcall hwriter =>
    exact h.callGoesOn hcall rfl rfl (fun _ _ _ => h.writing _ _ _ hcall) rfl rfl rfl
  | finish hcall => exact h.leave rfl rfl rfl (.inl rfl)
  | drop hcall => exact h.leave rfl rfl rfl (.inl rfl)
  | abandon hcall hwriter => exact h.leave rfl rfl rfl (.inl rfl)
  | breakOff hcall => exact h.leave rfl rfl rfl (.inr ⟨rfl, (h.writing _ _ _ hcall).1⟩)
  | beginClosing hcall =>
    exact h.callAsks hcall rfl (fun _ _ heq => by contradiction) rfl rfl rfl rfl
  | close hcall hheld =>
    refine h.callLeaves rfl (fun stage hstage => ?_) (fun c hc => ?_) rfl (.inr ⟨rfl, hheld⟩)
    · rw [Roster.get?_put, if_pos rfl] at hstage
      rw [← Option.some.inj hstage]
      rfl
    · rw [Roster.get?_put, if_neg hc]
  | joined hcall => exact h.callEnds hcall rfl
  | connect hlistener hline =>
    exact h.listenerGoesOn (h.noWriter_of_isApart (by rw [hlistener]; rfl))
      (by rw [hlistener]; rfl) rfl rfl rfl rfl rfl
  | greet n hlistener =>
    exact h.listenerGoesOn (h.noWriter_of_greeting hlistener) (by rw [hlistener]; rfl) rfl rfl rfl
      rfl rfl
  | greeted hlistener =>
    exact h.listenerAsks (by rw [hlistener]; rfl) rfl (.inl (h.noWriter_of_greeting hlistener))
  | install hlistener hheld =>
    exact h.listenerLeaves hheld rfl fun line hline => congrArg _ (Option.some.inj hline)
  | remove hlistener => exact h.listenerAsks hlistener rfl (.inr rfl)
  | removed hlistener hheld hstage =>
    exact h.listenerLeaves hheld (usesLock_of_isApart hstage) fun line hline => by contradiction
  | rest hlistener hstage =>
    exact h.listenerGoesOn (h.noWriter_of_isApart hlistener) (usesLock_of_isApart hlistener)
      (usesLock_of_isApart hstage) rfl rfl rfl rfl

end Guarded

end Outflow

end BroadcastLink
