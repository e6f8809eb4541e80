import BroadcastLink.Proofs.Pool.Closing

/-!
# How a session comes to be idle

Most of what happens to a pool takes sessions from the idle ones or leaves them alone. The
exceptions are a session that comes back and one that the upkeep opened, and both are fit to be lent
when they join: idle, and taking up a place. The settings never change.
-/

namespace BroadcastLink.Pool

variable {p q r : Pool} {call : CallId}

/-- The settings are the same, and a session that is idle now was idle before or is fit to be
lent. -/
structure Restocks (p q : Pool) : Prop where
  settings : q.settings = p.settings
  idle : ∀ s ∈ q.idle, s ∈ p.idle ∨ s.state = .idle ∧ s.pool ≠ none

theorem Restocks.trans (h : Restocks p q) (h' : Restocks q r) : Restocks p r :=
  ⟨h'.settings.trans h.settings, fun s hs => (h'.idle s hs).elim (h.idle s) .inr⟩

theorem restocks_of_fewer (hsettings : q.settings = p.settings)
    (hidle : ∀ s ∈ q.idle, s ∈ p.idle) : Restocks p q :=
  ⟨hsettings, fun s hs => .inl (hidle s hs)⟩

theorem restocks_of_same (hsettings : q.settings = p.settings) (hidle : q.idle = p.idle) :
    Restocks p q :=
  restocks_of_fewer hsettings fun _ hs => hidle ▸ hs

theorem Restocks.refl (p : Pool) : Restocks p p := restocks_of_same rfl rfl

/-! ## Closing sessions -/

theorem restocks_freePlace (p : Pool) (isOpen : Bool) : Restocks p (p.freePlace isOpen) := by
  obtain ⟨places, owed, heq⟩ := freePlace_eq p isOpen
  rw [heq]
  exact restocks_of_same rfl rfl

theorem restocks_discard (p : Pool) (s : Session) : Restocks p (p.discard s) := by
  have hasked : Restocks p (p.ask (.hangUp s.line)) := restocks_of_same rfl rfl
  unfold discard
  dsimp only
  split
  · exact hasked
  · split
    · exact hasked.trans (restocks_freePlace _ true)
    · exact restocks_of_same rfl rfl

theorem restocks_destroy (p : Pool) (s : Session) : Restocks p (p.destroy s) := by
  have hgone := restocks_discard p s
  unfold destroy
  dsimp only
  split
  · exact ⟨hgone.settings, hgone.idle⟩
  · exact ⟨hgone.settings, hgone.idle⟩

theorem restocks_foldl {close : Pool → Session → Pool} (hclose : ∀ p s, Restocks p (close p s))
    (gone : List Session) (p : Pool) : Restocks p (gone.foldl close p) := by
  induction gone generalizing p with
  | nil => exact .refl p
  | cons s rest ih => exact (hclose p s).trans (ih (close p s))

theorem restocks_clear (p : Pool) : Restocks p p.clear := by
  have hnone : Restocks p { p with idle := [] } :=
    restocks_of_fewer rfl fun _ hs => by contradiction
  refine hnone.trans (restocks_foldl (fun p s => ?_) p.idle { p with idle := [] })
  have hgone := restocks_discard { p with destroyed := p.destroyed + 1 } s
  exact ⟨hgone.settings, hgone.idle⟩

theorem restocks_abandon (p : Pool) : Restocks p p.abandon := by
  have hnone : Restocks p { p with idle := [] } :=
    restocks_of_fewer rfl fun _ hs => by contradiction
  exact hnone.trans (restocks_foldl restocks_discard p.idle { p with idle := [] })

/-! ## Looking for a session -/

theorem restocks_connectOrPark (p : Pool) (call : CallId) (b : Borrow) (now : Instant) :
    Restocks p (p.connectOrPark call b now) := by
  unfold connectOrPark
  split
  · dsimp only
    split <;> exact restocks_of_same rfl rfl
  · split <;> exact restocks_of_same rfl rfl

/-- The search takes sessions from the front. -/
theorem restocks_seekAmong {idle : List Session} (hidle : ∀ s ∈ idle, s ∈ p.idle) (b : Borrow)
    (now : Instant) : Restocks p (p.seekAmong call b now idle) := by
  -- By induction on the idle sessions, as the search goes through them.
  induction idle generalizing p with
  | nil =>
    have hnone : Restocks p ({ p with idle := [] }.enter (.caller call)) :=
      restocks_of_fewer rfl fun _ hs => absurd hs List.not_mem_nil
    exact hnone.trans (restocks_connectOrPark _ call b now)
  | cons s rest ih =>
    have hrest : Restocks p ({ p with idle := rest }.enter (.caller call)) :=
      restocks_of_fewer rfl fun t ht => hidle t (List.mem_cons_of_mem s ht)
    rw [seekAmong]
    split
    · exact ⟨hrest.settings, hrest.idle⟩
    · have hgone := hrest.trans (restocks_destroy _ s)
      have hleft : Restocks p
          ((({ p with idle := rest }.enter (.caller call)).destroy s).leave (.caller call)) :=
        ⟨hgone.settings, hgone.idle⟩
      refine hleft.trans (ih fun t ht => ?_)
      show t ∈ (({ p with idle := rest }.enter (.caller call)).destroy s).idle
      rw [idle_destroy]
      exact ht

theorem restocks_seek (p : Pool) (call : CallId) (b : Borrow) (now : Instant) :
    Restocks p (p.seek call b now) := by
  rw [seek]
  split
  · exact restocks_of_same rfl rfl
  · exact restocks_seekAmong (fun _ hs => hs) b now

theorem restocks_acquire (p : Pool) (call : CallId) (now : Instant) :
    Restocks p (p.acquire call now) := by
  rw [acquire]
  split
  · exact restocks_of_same rfl rfl
  · have hseek := restocks_seek (p.putBorrow call
      ⟨.parked, p.settings.acquireTimeout.after now, false⟩) call
      ⟨.parked, p.settings.acquireTimeout.after now, false⟩ now
    exact ⟨hseek.settings, hseek.idle⟩

theorem restocks_hearCheck (p : Pool) (call : CallId) (now : Instant) (stimulus : Stimulus) :
    Restocks p (p.hearCheck call now stimulus) := by
  unfold hearCheck
  split
  · dsimp only
    split
    · exact restocks_of_same rfl rfl
    · exact restocks_of_same rfl rfl
    · rename_i s _ _
      have hgone := restocks_destroy p s
      have hleft : Restocks p ((p.destroy s).leave (.caller call)) :=
        ⟨hgone.settings, hgone.idle⟩
      exact hleft.trans (restocks_seek _ call _ now)
  · exact .refl p

theorem restocks_rested (p : Pool) (call : CallId) (now : Instant) :
    Restocks p (p.rested call now) := by
  unfold rested
  split
  · split <;> exact restocks_of_same rfl rfl
  · exact .refl p

theorem restocks_dialled (p : Pool) (call : CallId) (now : Instant)
    (outcome : Except IoFault LineId) : Restocks p (p.dialled call now outcome) := by
  unfold dialled
  split
  · split
    · exact restocks_of_same rfl rfl
    · have hfreed := restocks_freePlace (p.noteFailure now) false
      have hleft : Restocks p (((p.noteFailure now).freePlace false).leave (.caller call)) :=
        ⟨hfreed.settings, hfreed.idle⟩
      exact hleft.trans (restocks_seek _ call _ now)
  · exact .refl p

theorem restocks_resume (p : Pool) (call : CallId) (now : Instant) :
    Restocks p (p.resume call now) := by
  unfold resume
  split
  · split
    · have hseek := restocks_seek { p with available := p.available.hear (.caller call) } call
      exact ⟨(hseek _ now).settings, (hseek _ now).idle⟩
    · exact .refl p
  · exact .refl p

theorem restocks_stageExpired (p : Pool) (call : CallId) (now : Instant) :
    Restocks p (p.stageExpired call now) := by
  unfold stageExpired
  split
  · exact restocks_hearCheck p call now .expired
  · exact restocks_rested p call now
  · split
    · exact restocks_dialled p call now _
    · exact .refl p
  · exact .refl p

theorem restocks_cancelBorrow (p : Pool) (call : CallId) : Restocks p (p.cancelBorrow call) := by
  unfold cancelBorrow
  split
  · rename_i b _
    have hletGo : Restocks p (p.letGo b.stage) := by
      cases b.stage with
      | checking s => exact restocks_discard p s
      | resting | dialling => exact restocks_freePlace p false
      | parked => exact .refl p
    exact ⟨hletGo.settings, hletGo.idle⟩
  · exact .refl p

theorem restocks_borrowExpired (p : Pool) (call : CallId) (now : Instant) :
    Restocks p (p.borrowExpired call now) := by
  have hcancel := restocks_cancelBorrow p call
  unfold borrowExpired
  split
  · split
    · exact ⟨hcancel.settings, hcancel.idle⟩
    · exact .refl p
  · exact .refl p

/-! ## Lent sessions -/

theorem restocks_keep (p : Pool) {s : Session} (hstate : s.state = .idle) (hpool : s.pool ≠ none) :
    Restocks p { p with idle := p.idle ++ [s] } := by
  refine ⟨rfl, fun t ht => ?_⟩
  rcases List.mem_append.mp ht with ht | ht
  · exact .inl ht
  · obtain rfl := List.mem_singleton.mp ht
    exact .inr ⟨hstate, hpool⟩

/-- Only an idle session that takes up a place is kept. -/
theorem restocks_takeBack (p : Pool) (s : Session) : Restocks p (p.takeBack s) := by
  unfold takeBack
  split
  · exact restocks_destroy p s
  · rename_i hpool
    split
    · exact restocks_destroy p s
    · rename_i hfit
      have hstate : s.state = .idle := by
        cases hs : s.state with
        | idle => rfl
        | awaitingResponse | invalid =>
          simp [hs, SessionState.isReusable, SessionState.canSend] at hfit
      have hkept := restocks_keep p hstate (by simpa using hpool)
      exact ⟨hkept.settings, hkept.idle⟩

theorem restocks_release (p : Pool) (call : CallId) : Restocks p (p.release call) := by
  unfold release
  split
  · have hback := restocks_takeBack (p.endLoan call)
    exact ⟨(hback _).settings, (hback _).idle⟩
  · exact .refl p

theorem restocks_destroyLoan (p : Pool) (call : CallId) : Restocks p (p.destroyLoan call) := by
  unfold destroyLoan
  split
  · have hgone := restocks_destroy (p.endLoan call)
    exact ⟨(hgone _).settings, (hgone _).idle⟩
  · exact .refl p

theorem restocks_loseLoan (p : Pool) (call : CallId) : Restocks p (p.loseLoan call) := by
  unfold loseLoan
  split
  · have hgone := restocks_discard (p.endLoan call)
    exact ⟨(hgone _).settings, (hgone _).idle⟩
  · exact .refl p

theorem restocks_beginOn (p : Pool) (call : CallId) (begin : Session → Begun) :
    Restocks p (p.beginOn call begin).1 := by
  unfold beginOn
  split
  · split <;> exact restocks_of_same rfl rfl
  · exact .refl p

theorem restocks_hearLoan (p : Pool) (call : CallId) (now : Instant) (stimulus : Stimulus) :
    Restocks p (p.hearLoan call now stimulus).1 := by
  unfold hearLoan
  split <;> exact restocks_of_same rfl rfl

theorem restocks_abandonLoan (p : Pool) (call : CallId) : Restocks p (p.abandonLoan call) := by
  unfold abandonLoan
  split <;> exact restocks_of_same rfl rfl

theorem restocks_invalidateLoan (p : Pool) (call : CallId) :
    Restocks p (p.invalidateLoan call) := by
  unfold invalidateLoan
  split <;> exact restocks_of_same rfl rfl

/-! ## Upkeep -/

theorem restocks_evict (p : Pool) (now : Instant) : Restocks p (p.evict now) := by
  have hsifted : Restocks p { p with idle := (p.sift now p.live p.idle).1 } :=
    restocks_of_fewer rfl fun s hs =>
      (perm_sift p now p.live p.idle).mem_iff.mp (List.mem_append_left _ hs)
  exact hsifted.trans (restocks_foldl restocks_destroy _ _)

theorem restocks_fill (p : Pool) (now : Instant) : Restocks p (p.fill now) := by
  unfold fill
  split <;> exact restocks_of_same rfl rfl

theorem restocks_round (p : Pool) (u : Upkeep) (now : Instant) :
    Restocks p (({ p with upkeep := u }.evict now).fill now) := by
  have hevicted := restocks_evict { p with upkeep := u } now
  exact Restocks.trans ⟨hevicted.settings, hevicted.idle⟩ (restocks_fill _ now)

theorem restocks_tend (p : Pool) (now : Instant) : Restocks p (p.tend now) := by
  unfold tend
  split
  · split
    · exact restocks_of_same rfl rfl
    · split
      · exact restocks_round p _ now
      · split
        · exact restocks_round p _ now
        · exact .refl p
  · exact .refl p

/-- What the upkeep opened is new. -/
theorem restocks_upkeepDialled (p : Pool) (now : Instant) (outcome : Except IoFault LineId) :
    Restocks p (p.upkeepDialled now outcome) := by
  unfold upkeepDialled
  split
  · split
    · rename_i id _ _ _ line
      have hkept := restocks_keep p.noteOpened (s := p.openedSession id line now) rfl
        (Option.some_ne_none p.id)
      have hjoined : Restocks p
          { p.noteOpened with idle := p.idle ++ [p.openedSession id line now] }.tellOne :=
        ⟨hkept.settings, hkept.idle⟩
      exact hjoined.trans (restocks_fill _ now)
    · have hfreed := restocks_freePlace (p.noteFailure now) false
      exact ⟨hfreed.settings, hfreed.idle⟩
  · exact .refl p

theorem restocks_upkeepExpired (p : Pool) (now : Instant) : Restocks p (p.upkeepExpired now) := by
  unfold upkeepExpired
  split
  · split
    · exact restocks_upkeepDialled p now _
    · exact .refl p
  · exact .refl p

theorem restocks_resize (p : Pool) (min max : Nat) (now : Instant) :
    Restocks p (p.resize min max now) := by
  have hevicted := restocks_evict
  unfold resize
  dsimp only
  split
  · exact restocks_of_same rfl rfl
  · split
    · exact ⟨(hevicted _ now).settings, (hevicted _ now).idle⟩
    · exact restocks_of_same rfl rfl

/-! ## Drains -/

theorem restocks_finishDrain (p : Pool) (call : CallId) : Restocks p (p.finishDrain call) := by
  have hclear := restocks_clear { p with drain := none }
  exact ⟨hclear.settings, hclear.idle⟩

theorem restocks_lookForLent (p : Pool) (d : Drain) (now : Instant) :
    Restocks p (p.lookForLent d now) := by
  unfold lookForLent
  dsimp only
  split
  · have hfinished := restocks_finishDrain ((p.enter .drainer).leave .drainer) d.call
    exact ⟨hfinished.settings, hfinished.idle⟩
  · exact restocks_of_same rfl rfl

theorem restocks_startDrain (p : Pool) (call : CallId) (now : Instant) :
    Restocks p (p.startDrain call now) := by
  unfold startDrain
  split
  · exact restocks_of_same rfl rfl
  · have hlook := restocks_lookForLent ({ p with isClosed := true }.ask .wakeUpkeep).tellAll
      ⟨call, p.settings.drainTimeout.after now, now, 0⟩ now
    exact ⟨hlook.settings, hlook.idle⟩

theorem restocks_resumeDrain (p : Pool) (now : Instant) : Restocks p (p.resumeDrain now) := by
  have hlook := restocks_lookForLent
  unfold resumeDrain
  split
  · split
    · exact ⟨(hlook _ _ now).settings, (hlook _ _ now).idle⟩
    · split
      · exact ⟨(hlook _ _ now).settings, (hlook _ _ now).idle⟩
      · exact .refl p
  · exact .refl p

theorem restocks_drainExpired (p : Pool) (now : Instant) : Restocks p (p.drainExpired now) := by
  unfold drainExpired
  split
  · split
    · have hfinished := restocks_finishDrain (p.leave .drainer)
      exact ⟨(hfinished _).settings, (hfinished _).idle⟩
    · exact .refl p
  · exact .refl p

theorem restocks_cancelDrain (p : Pool) (call : CallId) : Restocks p (p.cancelDrain call) := by
  unfold cancelDrain
  split
  · split
    · exact restocks_of_same rfl rfl
    · exact .refl p
  · exact .refl p

/-! ## Every event -/

theorem restocks_perform (p : Pool) (event : PoolEvent) : Restocks p (p.perform event) := by
  cases event with
  | acquire call now =>
    rw [perform]
    split
    · exact restocks_acquire p call now
    · exact .refl p
  | hearCheck call now stimulus => exact restocks_hearCheck p call now stimulus
  | rested call now => exact restocks_rested p call now
  | dialled call now outcome => exact restocks_dialled p call now outcome
  | resume call now => exact restocks_resume p call now
  | stageExpired call now => exact restocks_stageExpired p call now
  | borrowExpired call now => exact restocks_borrowExpired p call now
  | cancelBorrow call => exact restocks_cancelBorrow p call
  | sendOn call | checkOn call => exact restocks_beginOn p call _
  | hearLoan call now stimulus => exact restocks_hearLoan p call now stimulus
  | abandonLoan call => exact restocks_abandonLoan p call
  | invalidateLoan call => exact restocks_invalidateLoan p call
  | release call => exact restocks_release p call
  | destroyLoan call => exact restocks_destroyLoan p call
  | loseLoan call => exact restocks_loseLoan p call
  | takeGuest guest =>
    rw [perform]
    split
    · exact .refl p
    · exact restocks_takeBack p guest
  | destroyGuest guest =>
    rw [perform]
    split
    · exact .refl p
    · exact restocks_destroy p guest
  | resize min max now => exact restocks_resize p min max now
  | clear => exact restocks_clear p
  | tend now => exact restocks_tend p now
  | upkeepDialled now outcome => exact restocks_upkeepDialled p now outcome
  | upkeepExpired now => exact restocks_upkeepExpired p now
  | startDrain call now => exact restocks_startDrain p call now
  | resumeDrain now => exact restocks_resumeDrain p now
  | drainExpired now => exact restocks_drainExpired p now
  | cancelDrain call => exact restocks_cancelDrain p call
  | abandon => exact restocks_abandon p
  | settled => exact restocks_of_same rfl rfl

theorem restocks_run (p : Pool) (events : List PoolEvent) : Restocks p (p.run events) := by
  induction events generalizing p with
  | nil => exact .refl p
  | cons event rest ih => exact (restocks_perform p event).trans (ih (p.perform event))

/-- Whatever is idle in a pool that began with nothing idle is fit to be lent. -/
theorem fit_of_idle_run (hnone : p.idle = []) (events : List PoolEvent) {s : Session}
    (hs : s ∈ (p.run events).idle) : s.state = .idle ∧ s.pool ≠ none := by
  rcases (restocks_run p events).idle s hs with hs | hfit
  · rw [hnone] at hs
    contradiction
  · exact hfit

end BroadcastLink.Pool
