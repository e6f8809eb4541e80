import BroadcastLink.Proofs.Pool.Borrowing
import BroadcastLink.Proofs.Pool.Maintenance

/-!
# Who holds what

An operation made for one call touches that call's entries only. A caller ends with a session at
rest or with none; a loan is changed or ended by the call that has it. No call ever looks for a
session while it has one.
-/

namespace BroadcastLink.Pool

variable {p q : Pool} {call : CallId}

/-- What a step of a caller did: the other callers and loans stayed as they were, and a session that
the caller got has no exchange in flight. -/
structure Sought (p q : Pool) (call : CallId) : Prop where
  others : ∀ c, c ≠ call → q.borrows.get? c = p.borrows.get? c
  apart : q.borrows.get? call ≠ none → q.loans.get? call = none
  loans : q.loans = p.loans ∨ ∃ s : Session, s.exchange = none ∧ q.loans = p.loans.put call s

/-- What a step made with a lent session did: no caller and no other loan was touched. -/
structure OnLoan (p q : Pool) (call : CallId) : Prop where
  borrows : q.borrows = p.borrows
  others : ∀ c, c ≠ call → q.loans.get? c = p.loans.get? c
  still : q.loans.get? call ≠ none → p.loans.get? call ≠ none

theorem Sought.refl (h : p.Apart) (call : CallId) : Sought p p call :=
  ⟨fun _ _ => rfl, h call, .inl rfl⟩

theorem OnLoan.refl (p : Pool) (call : CallId) : OnLoan p p call :=
  ⟨rfl, fun _ _ => rfl, fun h => h⟩

theorem Sought.loans_of_ne (h : Sought p q call) {c : CallId} (hc : c ≠ call) :
    q.loans.get? c = p.loans.get? c := by
  obtain hsame | ⟨s, -, hput⟩ := h.loans
  · rw [hsame]
  · rw [hput, Roster.get?_put, if_neg hc]

theorem Apart.sought (h : p.Apart) (hstep : Sought p q call) : q.Apart := by
  intro c hc
  by_cases heq : c = call
  · rw [heq] at hc ⊢
    exact hstep.apart hc
  · rw [hstep.others c heq] at hc
    rw [hstep.loans_of_ne heq]
    exact h c hc

theorem Apart.onLoan (h : p.Apart) (hstep : OnLoan p q call) : q.Apart := by
  intro c hc
  rw [hstep.borrows] at hc
  have hnone := h c hc
  by_cases heq : c = call
  · rw [heq] at hnone ⊢
    by_contra hloan
    exact hstep.still hloan hnone
  · rw [hstep.others c heq]
    exact hnone

theorem Apart.sameHolders (h : p.Apart) (hstep : SameHolders p q) : q.Apart := by
  intro c hc
  rw [hstep.borrows] at hc
  rw [hstep.loans]
  exact h c hc

/-! ## Callers -/

theorem Resought.sought (h : Resought p q call) (hloan : p.loans.get? call = none) :
    Sought p q call := by
  refine ⟨fun c hc => ?_, fun _ => ?_, .inl h.loans⟩
  · obtain herased | ⟨b, hput⟩ := h.borrows
    · rw [herased, Roster.get?_erase, if_neg hc]
    · rw [hput, Roster.get?_put, if_neg hc]
  · rw [h.loans]
    exact hloan

theorem sought_putBorrow (hloan : p.loans.get? call = none) (b : Borrow) :
    Sought p (p.putBorrow call b) call :=
  Resought.sought ⟨rfl, .inr ⟨b, rfl⟩⟩ hloan

/-- Who gets a session at rest is a caller no more. -/
theorem sought_lend (p : Pool) (call : CallId) {s : Session} (hrest : s.exchange = none) :
    Sought p (p.lend call s) call := by
  refine ⟨fun c hc => ?_, fun hborrow => ?_, .inr ⟨s, hrest, rfl⟩⟩
  · show (p.borrows.erase call).get? c = p.borrows.get? c
    rw [Roster.get?_erase, if_neg hc]
  · -- A caller that got its session has left.
    have hnone : (p.borrows.erase call).get? call = none := by
      rw [Roster.get?_erase, if_pos rfl]
    exact absurd hnone hborrow

theorem sought_acquire (hfresh : p.IsFresh call) (now : Instant) :
    Sought p (p.acquire call now) call := by
  obtain ⟨hborrow, hloan⟩ := hfresh
  obtain hsame | hstep := resought_acquire p call now
  · have hborrows : (p.acquire call now).borrows = p.borrows := congrArg Ledger.borrows hsame
    have hloans : (p.acquire call now).loans = p.loans := congrArg Ledger.loans hsame
    refine ⟨fun c _ => by rw [hborrows], fun _ => ?_, .inl hloans⟩
    rw [hloans]
    exact hloan
  · exact hstep.sought hloan

theorem sought_hearCheck (h : p.Apart) (call : CallId) (now : Instant) (stimulus : Stimulus) :
    Sought p (p.hearCheck call now stimulus) call := by
  unfold hearCheck
  split
  · rename_i s deadline counts hb
    have hloan := h.loan_of_borrow hb
    dsimp only
    split
    · exact sought_putBorrow hloan _
    · rename_i s' text hreact
      have hrest := Session.endsAtRest_react s now stimulus (.ok text) (congrArg Prod.snd hreact)
      rw [hreact] at hrest
      exact sought_lend p call hrest
    · rename_i s' fault hreact
      have hseek := resought_seek ((p.destroy s').leave (.caller call)) call
        ⟨.parked, deadline, counts⟩ now
      exact (hseek.after_closing (ledger_replace p call s')).sought hloan
  · exact .refl h call

theorem sought_rested (h : p.Apart) (call : CallId) (now : Instant) :
    Sought p (p.rested call now) call := by
  unfold rested
  split
  · rename_i wakeAt deadline counts hb
    split
    · exact Resought.sought ⟨rfl, .inr ⟨_, rfl⟩⟩ (h.loan_of_borrow hb)
    · exact .refl h call
  · exact .refl h call

theorem sought_dialled (h : p.Apart) (call : CallId) (now : Instant)
    (outcome : Except IoFault LineId) : Sought p (p.dialled call now outcome) call := by
  unfold dialled
  split
  · rename_i id until_ deadline counts hb
    split
    · rename_i line
      have hlent := sought_lend p.noteOpened call
        (show (p.openedSession id line now).exchange = none from rfl)
      exact ⟨hlent.others, hlent.apart, hlent.loans⟩
    · -- The place comes free before the caller looks again.
      have hfreed := sameHolders_freePlace (p.noteFailure now)
      obtain ⟨hloans, hborrows⟩ := resought_seek
        (((p.noteFailure now).freePlace false).leave (.caller call)) call
        ⟨.parked, deadline, counts⟩ now
      refine Resought.sought ⟨hloans.trans hfreed.loans, ?_⟩ (h.loan_of_borrow hb)
      rwa [show (((p.noteFailure now).freePlace false).leave (.caller call)).borrows = p.borrows
        from hfreed.borrows] at hborrows
  · exact .refl h call

theorem sought_resume (h : p.Apart) (call : CallId) (now : Instant) :
    Sought p (p.resume call now) call := by
  unfold resume
  split
  · rename_i deadline counts hb
    split
    · obtain ⟨hloans, hborrows⟩ := resought_seek
        { p with available := p.available.hear (.caller call) } call ⟨.parked, deadline, counts⟩ now
      exact Resought.sought ⟨hloans, hborrows⟩ (h.loan_of_borrow hb)
    · exact .refl h call
  · exact .refl h call

theorem sought_stageExpired (h : p.Apart) (call : CallId) (now : Instant) :
    Sought p (p.stageExpired call now) call := by
  unfold stageExpired
  split
  · exact sought_hearCheck h call now .expired
  · exact sought_rested h call now
  · split
    · exact sought_dialled h call now _
    · exact .refl h call
  · exact .refl h call

theorem sameHolders_discard (p : Pool) (s : Session) : SameHolders p (p.discard s) := by
  obtain ⟨_, _, _, hcounts⟩ := Ledger.closed_counts p.ledger s
  have hledger := (ledger_discard p s).trans hcounts
  exact ⟨congrArg Ledger.borrows hledger, congrArg Ledger.loans hledger⟩

theorem sameHolders_destroy (p : Pool) (s : Session) : SameHolders p (p.destroy s) := by
  obtain ⟨_, _, _, hcounts⟩ := Ledger.closed_counts p.ledger s
  have hledger := (ledger_destroy p s).trans hcounts
  exact ⟨congrArg Ledger.borrows hledger, congrArg Ledger.loans hledger⟩

theorem sameHolders_letGo (p : Pool) (stage : BorrowStage) : SameHolders p (p.letGo stage) := by
  cases stage with
  | checking s => exact sameHolders_discard p s
  | resting | dialling => exact sameHolders_freePlace p
  | parked => exact ⟨rfl, rfl⟩

theorem sought_cancelBorrow (h : p.Apart) (call : CallId) :
    Sought p (p.cancelBorrow call) call := by
  unfold cancelBorrow
  split
  · rename_i b hb
    have hletGo := sameHolders_letGo p b.stage
    refine Resought.sought ⟨hletGo.loans, .inl ?_⟩ (h.loan_of_borrow hb)
    exact congrArg (Roster.erase · call) hletGo.borrows
  · exact .refl h call

theorem sought_borrowExpired (h : p.Apart) (call : CallId) (now : Instant) :
    Sought p (p.borrowExpired call now) call := by
  unfold borrowExpired
  split
  · split
    · have hcancel := sought_cancelBorrow h call
      exact ⟨hcancel.others, hcancel.apart, hcancel.loans⟩
    · exact .refl h call
  · exact .refl h call

/-! ## Loans -/

theorem onLoan_putLoan {s : Session} (h : p.loans.get? call = some s) (s' : Session) :
    OnLoan p (p.putLoan call s') call := by
  refine ⟨rfl, fun c hc => ?_, fun _ => ?_⟩
  · show (p.loans.put call s').get? c = p.loans.get? c
    rw [Roster.get?_put, if_neg hc]
  · rw [h]
    exact Option.some_ne_none s

/-- A loan that is over is gone, whatever becomes of the session. -/
theorem onLoan_ended (h : SameHolders (p.endLoan call) q) : OnLoan p q call := by
  refine ⟨h.borrows, fun c hc => ?_, fun hloan => ?_⟩
  · rw [h.loans]
    show (p.loans.erase call).get? c = p.loans.get? c
    rw [Roster.get?_erase, if_neg hc]
  · have hnone : (p.loans.erase call).get? call = none := by rw [Roster.get?_erase, if_pos rfl]
    rw [h.loans] at hloan
    exact absurd hnone hloan

theorem sameHolders_takeBack (p : Pool) (s : Session) : SameHolders p (p.takeBack s) := by
  unfold takeBack
  split
  · exact sameHolders_destroy p s
  · split
    · exact sameHolders_destroy p s
    · exact ⟨rfl, rfl⟩

theorem onLoan_release (p : Pool) (call : CallId) : OnLoan p (p.release call) call := by
  unfold release
  split
  · exact onLoan_ended (sameHolders_takeBack (p.endLoan call) _)
  · exact .refl p call

theorem onLoan_destroyLoan (p : Pool) (call : CallId) : OnLoan p (p.destroyLoan call) call := by
  unfold destroyLoan
  split
  · exact onLoan_ended (sameHolders_destroy (p.endLoan call) _)
  · exact .refl p call

theorem onLoan_loseLoan (p : Pool) (call : CallId) : OnLoan p (p.loseLoan call) call := by
  unfold loseLoan
  split
  · exact onLoan_ended (sameHolders_discard (p.endLoan call) _)
  · exact .refl p call

theorem onLoan_beginOn (p : Pool) (call : CallId) (begin : Session → Begun) :
    OnLoan p (p.beginOn call begin).1 call := by
  unfold beginOn
  split
  · rename_i s hloan
    split
    · exact .refl p call
    · exact onLoan_putLoan hloan _
  · exact .refl p call

theorem onLoan_hearLoan (p : Pool) (call : CallId) (now : Instant) (stimulus : Stimulus) :
    OnLoan p (p.hearLoan call now stimulus).1 call := by
  unfold hearLoan
  split
  · rename_i s hloan
    exact onLoan_putLoan hloan _
  · exact .refl p call

theorem onLoan_abandonLoan (p : Pool) (call : CallId) : OnLoan p (p.abandonLoan call) call := by
  unfold abandonLoan
  split
  · rename_i s hloan
    exact onLoan_putLoan hloan _
  · exact .refl p call

theorem onLoan_invalidateLoan (p : Pool) (call : CallId) :
    OnLoan p (p.invalidateLoan call) call := by
  unfold invalidateLoan
  split
  · rename_i s hloan
    exact onLoan_putLoan hloan _
  · exact .refl p call

end BroadcastLink.Pool
