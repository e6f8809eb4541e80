import BroadcastLink.Proofs.Pool.Operations

/-!
# Callers and lent sessions

What becomes of the session or place that a caller holds when it goes on, fails or is given up, and
of a lent session when it comes back. A caller who is still looking has no loan yet.
-/

namespace BroadcastLink.Pool

variable {p : Pool} {call : CallId}

/-- No call both looks for a session and has one. -/
def Apart (p : Pool) : Prop := ∀ call, p.borrows.get? call ≠ none → p.loans.get? call = none

theorem Apart.loan_of_borrow (h : p.Apart) {b : Borrow} (hb : p.borrows.get? call = some b) :
    p.loans.get? call = none :=
  h call (by rw [hb]; exact Option.some_ne_none b)

/-- A call that is made for the first time. -/
def IsFresh (p : Pool) (call : CallId) : Prop :=
  p.borrows.get? call = none ∧ p.loans.get? call = none

/-! ## Callers -/

theorem moves_acquire (h : p.borrows.get? call = none) (now : Instant) :
    Account.Moves (p.ledger.account 0 0) ((p.acquire call now).ledger.account 0 0) := by
  rw [acquire]
  split
  · exact .refl
  · have hseek := moves_seek (p.putBorrow call
      ⟨.parked, p.settings.acquireTimeout.after now, false⟩) call
      ⟨.parked, p.settings.acquireTimeout.after now, false⟩ now
    rw [ledger_putBorrow, Ledger.without, Roster.erase_put] at hseek
    -- A new call has no entry, so leaving it out changes nothing.
    rw [show p.ledger.account 0 0 = (p.ledger.without call).account 0 0 by
      rw [Ledger.without_of_fresh h]]
    exact hseek

theorem resought_acquire (p : Pool) (call : CallId) (now : Instant) :
    (p.acquire call now).ledger = p.ledger ∨ Resought p (p.acquire call now) call := by
  rw [acquire]
  split
  · exact .inl rfl
  · right
    obtain ⟨hloans, hborrows⟩ := resought_seek (p.putBorrow call
      ⟨.parked, p.settings.acquireTimeout.after now, false⟩) call
      ⟨.parked, p.settings.acquireTimeout.after now, false⟩ now
    refine ⟨hloans, hborrows.imp (fun h => ?_) fun ⟨b, h⟩ => ⟨b, ?_⟩⟩
    · rw [h]
      exact Roster.erase_put p.borrows call _
    · rw [h]
      exact Roster.put_put p.borrows call _ b

/-- A caller gets a session that was in hand. -/
theorem account_lend (h : p.loans.get? call = none) (s : Session) :
    (p.lend call s).ledger.account 0 0 = (p.ledger.without call).account (s ::ₘ 0) 0 := by
  have hput : _ = ((p.ledger.without call).unlent call).account (s ::ₘ 0) 0 :=
    Ledger.account_putLoan (p.ledger.without call) call s
  rw [Ledger.unlent_of_none (l := p.ledger.without call) h] at hput
  exact hput

/-- The session under check is lent, replaced or still checked. -/
theorem moves_hearCheck {s : Session} {deadline : Instant} {counts : Bool}
    (hb : p.borrows.get? call = some ⟨.checking s, deadline, counts⟩)
    (hloan : p.loans.get? call = none) (now : Instant) (stimulus : Stimulus) :
    Account.Moves ((p.ledger.without call).account ((s.react now stimulus).1 ::ₘ 0) 0)
      ((p.hearCheck call now stimulus).ledger.account 0 0) := by
  unfold hearCheck
  rw [hb]
  dsimp only
  split
  · rename_i s' hreact
    rw [hreact, ledger_putBorrow, Ledger.account_putBorrow]
    exact .refl
  · rename_i s' text hreact
    rw [hreact, account_lend hloan]
  · rename_i s' fault hreact
    rw [hreact]
    refine (Ledger.moves_closed (p.ledger.without call) s' 0 0).trans ?_
    rw [← Ledger.without_closed, ← ledger_replace p call s']
    exact moves_seek _ call _ now

/-- A caller that has paused connects on the place it holds. -/
theorem account_rested (p : Pool) (call : CallId) (now : Instant) :
    (p.rested call now).ledger.account 0 0 = p.ledger.account 0 0 := by
  unfold rested
  split
  · rename_i wakeAt deadline counts hb
    split
    · rw [dial, ledger_putBorrow, Ledger.account_putBorrow,
        Ledger.account_borrow (l := p.ledger) hb]
      rfl
    · rfl
  · rfl

/-- A caller's connection failed: its place comes free, and it looks again. -/
theorem moves_dialled_error (p : Pool) (call : CallId) (now : Instant) (fault : IoFault) :
    Account.Moves (p.ledger.account 0 0)
      ((p.dialled call now (.error fault)).ledger.account 0 0) := by
  unfold dialled
  split
  · rename_i id until_ deadline counts hb
    rw [Ledger.account_borrow (l := p.ledger) hb]
    refine (Ledger.moves_freed (p.ledger.without call) 0 0).trans ?_
    have hseek := moves_seek ((((p.noteFailure now).freePlace false).leave (.caller call))) call
      ⟨.parked, deadline, counts⟩ now
    rw [ledger_leave, ledger_freePlace_opening, ledger_noteFailure, Ledger.without_freed] at hseek
    exact hseek
  · exact .refl

/-- A caller's connection is there: the session takes up the place that the caller held. -/
theorem account_dialled_ok {id : Nat} {until_ deadline : Instant} {counts : Bool}
    (hb : p.borrows.get? call = some ⟨.dialling id until_, deadline, counts⟩)
    (hloan : p.loans.get? call = none) (now : Instant) (line : LineId) :
    (p.dialled call now (.ok line)).ledger.account 0 0 =
      (p.ledger.account 0 0).opened (p.openedSession id line now) := by
  unfold dialled
  rw [hb, Ledger.account_borrow (l := p.ledger) hb]
  exact (account_lend (p := p.noteOpened) hloan _).trans
    (Ledger.account_opened (p.ledger.without call) _)

/-- A parked caller that was told looks again. -/
theorem moves_resume (p : Pool) (call : CallId) (now : Instant) :
    Account.Moves (p.ledger.account 0 0) ((p.resume call now).ledger.account 0 0) := by
  unfold resume
  split
  · rename_i deadline counts hb
    split
    · rw [Ledger.account_borrow (l := p.ledger) hb]
      exact moves_seek { p with available := p.available.hear (.caller call) } call
        ⟨.parked, deadline, counts⟩ now
    · exact .refl
  · exact .refl

/-- What a caller held is let go, and then the caller is gone. -/
theorem moves_cancelBorrow (p : Pool) (call : CallId) :
    Account.Moves (p.ledger.account 0 0) ((p.cancelBorrow call).ledger.account 0 0) := by
  unfold cancelBorrow
  split
  · rename_i b hb
    rw [ledger_endBorrow, Ledger.account_borrow (l := p.ledger) hb]
    cases hstage : b.stage with
    | checking s =>
      rw [letGo, ledger_discard, Ledger.without_closed]
      exact Ledger.moves_closed (p.ledger.without call) s 0 0
    | resting | dialling =>
      rw [letGo, ledger_freePlace_opening, Ledger.without_freed]
      exact Ledger.moves_freed (p.ledger.without call) 0 0
    | parked => exact .refl
  · exact .refl

theorem moves_borrowExpired (p : Pool) (call : CallId) (now : Instant) :
    Account.Moves (p.ledger.account 0 0) ((p.borrowExpired call now).ledger.account 0 0) := by
  unfold borrowExpired
  split
  · split
    · exact moves_cancelBorrow p call
    · exact .refl
  · exact .refl

/-! ## Loans -/

theorem account_putLoan (p : Pool) (call : CallId) (s : Session) :
    (p.putLoan call s).ledger.account 0 0 = (p.ledger.unlent call).account (s ::ₘ 0) 0 :=
  Ledger.account_putLoan p.ledger call s

/-- A session that comes back is idle again or closed. -/
theorem moves_takeBack (p : Pool) (s : Session) :
    Account.Moves (p.ledger.account (s ::ₘ 0) 0) ((p.takeBack s).ledger.account 0 0) := by
  have hdestroyed : Account.Moves (p.ledger.account (s ::ₘ 0) 0)
      ((p.destroy s).ledger.account 0 0) := by
    rw [ledger_destroy]
    exact Ledger.moves_closed p.ledger s 0 0
  unfold takeBack
  split
  · exact hdestroyed
  · split
    · exact hdestroyed
    · rw [ledger_tellOne]
      exact Account.moves_of_eq (Ledger.account_keep p.ledger s).symm

theorem moves_release {s : Session} (h : p.loans.get? call = some s) :
    Account.Moves (p.ledger.account 0 0) ((p.release call).ledger.account 0 0) := by
  unfold release
  rw [h, Ledger.account_loan (l := p.ledger) h]
  exact moves_takeBack (p.endLoan call) s

theorem moves_destroyLoan {s : Session} (h : p.loans.get? call = some s) :
    Account.Moves (p.ledger.account 0 0) ((p.destroyLoan call).ledger.account 0 0) := by
  unfold destroyLoan
  rw [h, Ledger.account_loan (l := p.ledger) h]
  dsimp only
  rw [ledger_destroy]
  exact Ledger.moves_closed (p.ledger.unlent call) s 0 0

theorem moves_loseLoan {s : Session} (h : p.loans.get? call = some s) :
    Account.Moves (p.ledger.account 0 0) ((p.loseLoan call).ledger.account 0 0) := by
  unfold loseLoan
  rw [h, Ledger.account_loan (l := p.ledger) h]
  dsimp only
  rw [ledger_discard]
  exact Ledger.moves_closed (p.ledger.unlent call) s 0 0

end BroadcastLink.Pool
