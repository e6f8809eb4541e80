import BroadcastLink.Proofs.Pool.Capacity
import BroadcastLink.Proofs.Pool.Frame

/-!
# How a pool comes to be closed

Only what a drain does has to do with closing. A pool that is closed stays closed; it is drained to
the end in the moment when its idle sessions are closed.
-/

namespace BroadcastLink

/-- Is it something that a drain does? -/
def PoolEvent.isDrains : PoolEvent → Bool
  | .startDrain _ _ | .resumeDrain _ | .drainExpired _ | .cancelDrain _ => true
  | _ => false

namespace Pool

variable {p q : Pool}

theorem isClosed_of_closing (h : q.closing = p.closing) : q.isClosed = p.isClosed :=
  congrArg Closing.isClosed h

theorem isFinished_of_closing (h : q.closing = p.closing) : q.isFinished = p.isFinished :=
  congrArg Closing.isFinished h

theorem drain_of_closing (h : q.closing = p.closing) : q.drain = p.drain :=
  congrArg Closing.drain h

/-- What an event does to the frame of a pool: it leaves it alone, answers the caller that it is
about, goes on with a drain, or changes the bounds; and what is done is asked for no more. -/
inductive Framed (p q : Pool) (event : PoolEvent) : Prop where
  | same (hframe : q.frame = p.frame)
  | answers {call : CallId} (hcaller : event.caller? = some call) (h : Answers p q call)
  | drains (hdrains : event.isDrains = true) (h : OnlyCloses p q)
  | resized {min max : Nat} {now : Instant} (hevent : event = .resize min max now)
    (hq : q = p.resize min max now)
  | settled (hq : q = { p with acts := [] })

theorem framed_perform (p : Pool) (event : PoolEvent) : Framed p (p.perform event) event := by
  cases event with
  | acquire call now =>
    rw [perform]
    split
    · exact .answers rfl (answers_acquire p call now)
    · exact .same rfl
  | hearCheck call now stimulus => exact .answers rfl (answers_hearCheck p call now stimulus)
  | rested call now => exact .same (frame_rested p call now)
  | dialled call now outcome => exact .answers rfl (answers_dialled p call now outcome)
  | resume call now => exact .answers rfl (answers_resume p call now)
  | stageExpired call now => exact .answers rfl (answers_stageExpired p call now)
  | borrowExpired call now => exact .answers rfl (answers_borrowExpired p call now)
  | cancelBorrow call => exact .same (frame_cancelBorrow p call)
  | sendOn call | checkOn call => exact .same (frame_beginOn p call _)
  | hearLoan call now stimulus => exact .same (frame_hearLoan p call now stimulus)
  | abandonLoan call => exact .same (frame_abandonLoan p call)
  | invalidateLoan call => exact .same (frame_invalidateLoan p call)
  | release call => exact .same (frame_release p call)
  | destroyLoan call => exact .same (frame_destroyLoan p call)
  | loseLoan call => exact .same (frame_loseLoan p call)
  | takeGuest guest =>
    rw [perform]
    split
    · exact .same rfl
    · exact .same (frame_takeBack p guest)
  | destroyGuest guest =>
    rw [perform]
    split
    · exact .same rfl
    · exact .same (frame_destroy p guest)
  | resize min max now => exact .resized rfl rfl
  | clear => exact .same (frame_clear p)
  | tend now => exact .same (frame_tend p now)
  | upkeepDialled now outcome => exact .same (frame_upkeepDialled p now outcome)
  | upkeepExpired now => exact .same (frame_upkeepExpired p now)
  | startDrain call now => exact .drains rfl (onlyCloses_startDrain p call now)
  | resumeDrain now => exact .drains rfl (onlyCloses_resumeDrain p now)
  | drainExpired now => exact .drains rfl (onlyCloses_drainExpired p now)
  | cancelDrain call => exact .drains rfl (onlyCloses_cancelDrain p call)
  | abandon => exact .same (frame_abandon p)
  | settled => exact .settled rfl

/-- Whatever else happens, a pool is closed as far as it was before. -/
theorem closing_perform {event : PoolEvent} (h : event.isDrains = false) :
    (p.perform event).closing = p.closing := by
  cases framed_perform p event with
  | same hframe => exact closing_of_frame hframe
  | answers _ hanswers => exact hanswers.closing
  | drains hdrains => exact absurd hdrains (by rw [h]; exact Bool.false_ne_true)
  | resized hevent hq =>
    rw [hq]
    exact congrArg Frame.closing (frame_resize p _ _ _)
  | settled hq => rw [hq]; rfl

/-! ## What a drain does -/

/-- What a drain may come to: it goes on waiting or is given up, or it has ended, and then what was
idle is closed. -/
inductive DrainStep (p q : Pool) : Prop where
  | waits (closed : q.isClosed = p.isClosed) (finished : q.isFinished = p.isFinished)
  | ends (closed : q.isClosed = p.isClosed) (idle : q.idle = []) (drain : q.drain = none)

theorem idle_foldl {close : Pool → Session → Pool} (hclose : ∀ p s, (close p s).idle = p.idle)
    (gone : List Session) (p : Pool) : (gone.foldl close p).idle = p.idle := by
  induction gone generalizing p with
  | nil => rfl
  | cons s rest ih => rw [List.foldl_cons, ih, hclose]

theorem idle_discard (p : Pool) (s : Session) : (p.discard s).idle = p.idle :=
  (congrArg Ledger.idle (ledger_discard p s)).trans (Ledger.closed_idle p.ledger s)

theorem idle_destroy (p : Pool) (s : Session) : (p.destroy s).idle = p.idle :=
  (congrArg Ledger.idle (ledger_destroy p s)).trans (Ledger.closed_idle p.ledger s)

theorem idle_clear (p : Pool) : p.clear.idle = [] :=
  idle_foldl (fun p s => idle_discard { p with destroyed := p.destroyed + 1 } s) p.idle
    { p with idle := [] }

theorem drainStep_finishDrain (p : Pool) (call : CallId) : DrainStep p (p.finishDrain call) := by
  have hclear := closing_of_frame (frame_clear { p with drain := none })
  exact .ends (congrArg Closing.isClosed hclear) (idle_clear { p with drain := none })
    (congrArg Closing.drain hclear)

/-- Leaving the line first makes no difference to a drain. -/
theorem DrainStep.after_leaving (h : DrainStep (p.leave .drainer) q) : DrainStep p q := by
  have hleft := closing_of_frame (frame_leave p .drainer)
  cases h with
  | waits closed finished =>
    exact .waits (closed.trans (isClosed_of_closing hleft))
      (finished.trans (isFinished_of_closing hleft))
  | ends closed idle drain => exact .ends (closed.trans (isClosed_of_closing hleft)) idle drain

theorem drainStep_lookForLent (p : Pool) (d : Drain) (now : Instant) :
    DrainStep p (p.lookForLent d now) := by
  unfold lookForLent
  dsimp only
  split
  · have hends := (drainStep_finishDrain ((p.enter .drainer).leave .drainer) d.call).after_leaving
    cases hends with
    | waits closed finished => exact .waits closed finished
    | ends closed idle drain => exact .ends closed idle drain
  · exact .waits rfl rfl

theorem drainStep_resumeDrain (p : Pool) (now : Instant) : DrainStep p (p.resumeDrain now) := by
  unfold resumeDrain
  split
  · rename_i d _
    split
    · have hlook := drainStep_lookForLent { p with available := p.available.hear .drainer } d now
      cases hlook with
      | waits closed finished => exact .waits closed finished
      | ends closed idle drain => exact .ends closed idle drain
    · split
      · exact (drainStep_lookForLent (p.leave .drainer) d now).after_leaving
      · exact .waits rfl rfl
  · exact .waits rfl rfl

theorem drainStep_drainExpired (p : Pool) (now : Instant) : DrainStep p (p.drainExpired now) := by
  unfold drainExpired
  split
  · rename_i d _
    split
    · exact (drainStep_finishDrain (p.leave .drainer) d.call).after_leaving
    · exact .waits rfl rfl
  · exact .waits rfl rfl

theorem drainStep_cancelDrain (p : Pool) (call : CallId) : DrainStep p (p.cancelDrain call) := by
  have hleft := closing_of_frame (frame_leave p .drainer)
  unfold cancelDrain
  split
  · split
    · exact .waits (congrArg Closing.isClosed hleft) (congrArg Closing.isFinished hleft)
    · exact .waits rfl rfl
  · exact .waits rfl rfl

theorem DrainStep.isClosed_eq (h : DrainStep p q) : q.isClosed = p.isClosed := by
  cases h with
  | waits closed _ => exact closed
  | ends closed _ _ => exact closed

/-- A drain that starts in an open pool closes it. -/
theorem startDrain_of_open (h : p.isClosed = false) (call : CallId) (now : Instant) :
    (p.startDrain call now).isClosed = true ∧
      ((p.startDrain call now).isFinished = p.isFinished ∨
        (p.startDrain call now).idle = [] ∧ (p.startDrain call now).drain = none) := by
  have htold := closing_of_frame (frame_tellAll ({ p with isClosed := true }.ask .wakeUpkeep))
  rw [startDrain, if_neg (by rw [h]; exact Bool.false_ne_true)]
  have hlook := drainStep_lookForLent ({ p with isClosed := true }.ask .wakeUpkeep).tellAll
    ⟨call, p.settings.drainTimeout.after now, now, 0⟩ now
  refine ⟨hlook.isClosed_eq.trans (congrArg Closing.isClosed htold), ?_⟩
  cases hlook with
  | waits _ finished => exact .inl (finished.trans (congrArg Closing.isFinished htold))
  | ends _ idle drain => exact .inr ⟨idle, drain⟩

/-! ## Every event -/

/-- A closed pool stays closed. -/
theorem isClosed_perform (h : p.isClosed = true) (event : PoolEvent) :
    (p.perform event).isClosed = true := by
  cases hdrains : event.isDrains with
  | false => rw [isClosed_of_closing (closing_perform hdrains), h]
  | true =>
    cases event with
    | startDrain call now =>
      rw [perform, startDrain, if_pos h]
      exact h
    | resumeDrain now => exact (drainStep_resumeDrain p now).isClosed_eq.trans h
    | drainExpired now => exact (drainStep_drainExpired p now).isClosed_eq.trans h
    | cancelDrain call => exact (drainStep_cancelDrain p call).isClosed_eq.trans h
    | _ => contradiction

theorem isClosed_run (h : p.isClosed = true) (events : List PoolEvent) :
    (p.run events).isClosed = true := by
  induction events generalizing p with
  | nil => exact h
  | cons event rest ih => exact ih (isClosed_perform h event)

/-- In an open pool without a drain there is nothing for a drain to go on with: it starts, and that
closes the pool, or nothing happens. -/
theorem perform_of_open {event : PoolEvent} (h : p.closing = ⟨false, false, none⟩)
    (hdrains : event.isDrains = true) :
    (p.perform event).isClosed = true ∨ p.perform event = p := by
  have hopen : p.isClosed = false := congrArg Closing.isClosed h
  have hdrain : p.drain = none := congrArg Closing.drain h
  cases event with
  | startDrain call now => exact .inl (startDrain_of_open hopen call now).1
  | resumeDrain now => exact .inr (by rw [perform, resumeDrain, hdrain])
  | drainExpired now => exact .inr (by rw [perform, drainExpired, hdrain])
  | cancelDrain call => exact .inr (by rw [perform, cancelDrain, hdrain])
  | _ => contradiction

/-- A new pool is open, and it stays so until a drain starts. -/
theorem isClosed_or_open_run (h : p.isClosed = true ∨ p.closing = ⟨false, false, none⟩)
    (events : List PoolEvent) :
    (p.run events).isClosed = true ∨ (p.run events).closing = ⟨false, false, none⟩ := by
  induction events generalizing p with
  | nil => exact h
  | cons event rest ih =>
    apply ih
    rcases h with hclosed | hopen
    · exact .inl (isClosed_perform hclosed event)
    · cases hdrains : event.isDrains with
      | false => exact .inr ((closing_perform hdrains).trans hopen)
      | true =>
        rcases perform_of_open hopen hdrains with hclosed | hsame
        · exact .inl hclosed
        · exact .inr ((congrArg closing hsame).trans hopen)

/-- What was not drained to the end and is so now has nothing idle and no drain in progress. -/
theorem ended_of_finished {event : PoolEvent} (hbefore : p.isFinished = false)
    (hafter : (p.perform event).isFinished = true) :
    event.isDrains = true ∧ (p.perform event).idle = [] ∧ (p.perform event).drain = none := by
  have hchanged : (p.perform event).isFinished ≠ p.isFinished := by
    rw [hbefore, hafter]
    exact Bool.true_eq_false_eq_False
  have hstep : ∀ {q : Pool}, DrainStep p q → q.isFinished ≠ p.isFinished →
      q.idle = [] ∧ q.drain = none := by
    intro q hstep hne
    cases hstep with
    | waits _ finished => exact absurd finished hne
    | ends _ idle drain => exact ⟨idle, drain⟩
  cases hdrains : event.isDrains with
  | false => exact absurd (isFinished_of_closing (closing_perform hdrains)) hchanged
  | true =>
    refine ⟨rfl, ?_⟩
    cases event with
    | startDrain call now =>
      cases hopen : p.isClosed with
      | false =>
        obtain ⟨-, hsame | hended⟩ := startDrain_of_open hopen call now
        · exact absurd hsame hchanged
        · exact hended
      | true =>
        -- In a closed pool a drain is over before it starts.
        rw [perform, startDrain, if_pos hopen] at hchanged
        exact absurd rfl hchanged
    | resumeDrain now => exact hstep (drainStep_resumeDrain p now) hchanged
    | drainExpired now => exact hstep (drainStep_drainExpired p now) hchanged
    | cancelDrain call => exact hstep (drainStep_cancelDrain p call) hchanged
    | _ => contradiction

end Pool

end BroadcastLink
