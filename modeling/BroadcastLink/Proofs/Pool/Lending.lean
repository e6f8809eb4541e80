import BroadcastLink.Proofs.Pool.Origin

/-!
# How a session comes to be lent

A call gets a session in one of two ways: a connection that it waited for is there, or the session
that it had under check got its response. And a session is under check for a call because it was
before, or because the call has just taken it from the idle ones.
-/

namespace BroadcastLink.Pool

variable {p q : Pool} {call : CallId} {s t : Session} {event : PoolEvent}

/-! ## Looking for a session -/

theorem underCheck_putBorrow (p : Pool) (call : CallId) (b : Borrow) :
    (p.putBorrow call b).underCheck? call = b.stage.session? := by
  rw [underCheck?, show (p.putBorrow call b).borrows.get? call = some b by simp [putBorrow]]
  rfl

theorem underCheck_of_erased (h : q.borrows = p.borrows.erase call) :
    q.underCheck? call = none := by
  rw [underCheck?, h, Roster.get?_erase, if_pos rfl]
  rfl

theorem underCheck_endBorrow (p : Pool) (call : CallId) :
    (p.endBorrow call).underCheck? call = none :=
  underCheck_of_erased (p := p) rfl

theorem underCheck_connectOrPark (p : Pool) (call : CallId) (b : Borrow) (now : Instant) :
    (p.connectOrPark call b now).underCheck? call = none := by
  unfold connectOrPark
  split
  · dsimp only
    split
    · exact underCheck_putBorrow _ call _
    · exact underCheck_putBorrow _ call _
  · split
    · exact underCheck_of_erased (p := p) rfl
    · exact underCheck_putBorrow _ call _

theorem underCheck_seekAmong {idle : List Session} {b : Borrow} {now : Instant}
    (h : (p.seekAmong call b now idle).underCheck? call = some t) :
    ∃ s ∈ idle, s.check p.settings.validationTimeout = .inFlight t := by
  -- By induction on the idle sessions, as the search goes through them.
  induction idle generalizing p with
  | nil =>
    rw [seekAmong, underCheck_connectOrPark] at h
    contradiction
  | cons s rest ih =>
    rw [seekAmong] at h
    split at h
    · rename_i s' hcheck
      rw [underCheck_putBorrow] at h
      obtain rfl : s' = t := Option.some.inj h
      exact ⟨s, List.mem_cons_self, hcheck⟩
    · obtain ⟨s', hs', hcheck⟩ := ih h
      have hsettings := (restocks_destroy ({ p with idle := rest }.enter (.caller call)) s).settings
      refine ⟨s', List.mem_cons_of_mem s hs', ?_⟩
      rw [← hcheck]
      exact congrArg (fun settings => s'.check settings.validationTimeout) hsettings.symm

theorem underCheck_seek {b : Borrow} {now : Instant}
    (h : (p.seek call b now).underCheck? call = some t) :
    ∃ s ∈ p.idle, s.check p.settings.validationTimeout = .inFlight t := by
  rw [seek] at h
  split at h
  · rw [underCheck_of_erased (p := p) rfl] at h
    contradiction
  · exact underCheck_seekAmong h

theorem idle_freePlace (p : Pool) (isOpen : Bool) : (p.freePlace isOpen).idle = p.idle := by
  obtain ⟨places, owed, heq⟩ := freePlace_eq p isOpen
  rw [heq]
  rfl

/-- A caller that closed a session or gave a place back looks among the same idle sessions. -/
theorem underCheck_seek_after {b : Borrow} {now : Instant} (hidle : q.idle = p.idle)
    (hsettings : q.settings = p.settings)
    (h : ((q.leave (.caller call)).seek call b now).underCheck? call = some t) :
    ∃ s ∈ p.idle, s.check p.settings.validationTimeout = .inFlight t := by
  obtain ⟨s, hs, hcheck⟩ := underCheck_seek h
  exact ⟨s, hidle ▸ hs, hsettings ▸ hcheck⟩

/-! ## Under check -/

/-- How a session comes to be under check for a call. -/
inductive CheckOrigin (p : Pool) (event : PoolEvent) (call : CallId) (t : Session) : Prop where
  | same (hs : p.underCheck? call = some t)
      (hunheard : ∀ now stimulus, event.heard? ≠ some (call, now, stimulus))
  | heard {s : Session} {now : Instant} {stimulus : Stimulus}
      (hheard : event.heard? = some (call, now, stimulus)) (hs : p.underCheck? call = some s)
      (hreact : s.react now stimulus = (t, none))
  | found {s : Session} (hcaller : event.caller? = some call) (hs : s ∈ p.idle)
      (hcheck : s.check p.settings.validationTimeout = .inFlight t)

theorem caller_of_heard {now : Instant} {stimulus : Stimulus}
    (h : event.heard? = some (call, now, stimulus)) : event.caller? = some call := by
  cases event with
  | hearCheck | stageExpired =>
    obtain ⟨rfl, -⟩ := Prod.mk.inj (Option.some.inj h)
    rfl
  | _ => contradiction

/-- What an event does that is not about a call leaves the call where it stands. -/
theorem borrow_of_other (h : p.Apart) (hcaller : event.caller? ≠ some call) :
    (p.perform event).borrows.get? call = p.borrows.get? call := by
  have htouches := touches_perform h event
  generalize event.caller? = caller at htouches hcaller
  cases htouches with
  | caller hstep => exact hstep.others call fun heq => hcaller (congrArg some heq.symm)
  | loan hstep => rw [hstep.borrows]
  | nobody hstep => rw [hstep.borrows]

theorem checkOrigin_hearCheck {now : Instant} {stimulus : Stimulus}
    (hheard : event.heard? = some (call, now, stimulus))
    (hq : (p.hearCheck call now stimulus).underCheck? call = some t) :
    CheckOrigin p event call t := by
  unfold hearCheck at hq
  split at hq
  · rename_i s deadline counts hb
    have hs : p.underCheck? call = some s := underCheck_eq_some.mpr ⟨_, _, hb⟩
    dsimp only at hq
    split at hq
    · rename_i s' hreact
      rw [underCheck_putBorrow] at hq
      obtain rfl : s' = t := Option.some.inj hq
      exact .heard hheard hs hreact
    · rw [underCheck_of_erased (p := p) rfl] at hq
      contradiction
    -- The session that failed is closed, and the search goes on among the idle ones.
    · rename_i s' fault hreact
      obtain ⟨s'', hs'', hcheck⟩ := underCheck_seek_after (idle_destroy p s')
        (restocks_destroy p s').settings hq
      exact .found (caller_of_heard hheard) hs'' hcheck
  · rename_i hnone
    obtain ⟨deadline, counts, hb⟩ := underCheck_eq_some.mp hq
    exact absurd hb (hnone _ _ _)

theorem underCheck_rested {now : Instant}
    (hq : (p.rested call now).underCheck? call = some t) : p.underCheck? call = some t := by
  unfold rested at hq
  split at hq
  · split at hq
    · rw [dial, underCheck_putBorrow] at hq
      contradiction
    · exact hq
  · exact hq

theorem underCheck_dialled {now : Instant} {outcome : Except IoFault LineId}
    (hq : (p.dialled call now outcome).underCheck? call = some t) :
    p.underCheck? call = some t ∨
      ∃ s ∈ p.idle, s.check p.settings.validationTimeout = .inFlight t := by
  unfold dialled at hq
  split at hq
  · split at hq
    · rw [underCheck_of_erased (p := p) rfl] at hq
      contradiction
    · exact .inr (underCheck_seek_after (idle_freePlace (p.noteFailure now) false)
        (restocks_freePlace (p.noteFailure now) false).settings hq)
  · exact .inl hq

theorem underCheck_resume {now : Instant}
    (hq : (p.resume call now).underCheck? call = some t) :
    p.underCheck? call = some t ∨
      ∃ s ∈ p.idle, s.check p.settings.validationTimeout = .inFlight t := by
  unfold resume at hq
  split at hq
  · split at hq
    · dsimp only at hq
      obtain ⟨s, hs, hcheck⟩ := underCheck_seek hq
      exact .inr ⟨s, hs, hcheck⟩
    · exact .inl hq
  · exact .inl hq

theorem underCheck_acquire {now : Instant}
    (hq : (p.acquire call now).underCheck? call = some t) :
    p.underCheck? call = some t ∨
      ∃ s ∈ p.idle, s.check p.settings.validationTimeout = .inFlight t := by
  rw [acquire] at hq
  split at hq
  · exact .inl hq
  · dsimp only at hq
    obtain ⟨s, hs, hcheck⟩ := underCheck_seek hq
    exact .inr ⟨s, hs, hcheck⟩

theorem underCheck_cancelBorrow (p : Pool) (call : CallId) :
    (p.cancelBorrow call).underCheck? call = none := by
  unfold cancelBorrow
  split
  · exact underCheck_endBorrow _ call
  · rename_i hb
    rw [underCheck?, hb]
    rfl

theorem checkOrigin_stageExpired {now : Instant}
    (hq : (p.stageExpired call now).underCheck? call = some t) :
    CheckOrigin p (.stageExpired call now) call t := by
  unfold stageExpired at hq
  split at hq
  · exact checkOrigin_hearCheck rfl hq
  -- Who pauses or connects has nothing under check.
  · rename_i hb
    have hnone : p.underCheck? call = none := by
      rw [underCheck?, hb]
      rfl
    rw [underCheck_rested hq] at hnone
    contradiction
  · rename_i hb
    have hnone : p.underCheck? call = none := by
      rw [underCheck?, hb]
      rfl
    split at hq
    · rcases underCheck_dialled hq with hs | ⟨s, hs, hcheck⟩
      · rw [hs] at hnone
        contradiction
      · exact .found rfl hs hcheck
    · rw [hq] at hnone
      contradiction
  · rename_i hchecking _ _
    obtain ⟨deadline, counts, hb⟩ := underCheck_eq_some.mp hq
    exact absurd hb (hchecking _ _ _)

/-- Who is under check after an event was so before, unless it was told that it passed or failed, or
comes from the idle sessions. -/
theorem checkOrigin_perform (h : p.Apart) (hq : (p.perform event).underCheck? call = some t) :
    CheckOrigin p event call t := by
  by_cases hcaller : event.caller? = some call
  · have hasked : event.heard? = none →
        (p.underCheck? call = some t ∨
          ∃ s ∈ p.idle, s.check p.settings.validationTimeout = .inFlight t) →
        CheckOrigin p event call t := by
      intro hunheard horigin
      rcases horigin with hs | ⟨s, hs, hcheck⟩
      · refine .same hs fun now stimulus => ?_
        rw [hunheard]
        exact (Option.some_ne_none _).symm
      · exact .found hcaller hs hcheck
    cases event with
    | acquire c now =>
      obtain rfl : c = call := Option.some.inj hcaller
      rw [perform] at hq
      split at hq
      · exact hasked rfl (underCheck_acquire hq)
      · exact hasked rfl (.inl hq)
    | hearCheck c now stimulus =>
      obtain rfl : c = call := Option.some.inj hcaller
      exact checkOrigin_hearCheck rfl hq
    | rested c now =>
      obtain rfl : c = call := Option.some.inj hcaller
      exact hasked rfl (.inl (underCheck_rested hq))
    | dialled c now outcome =>
      obtain rfl : c = call := Option.some.inj hcaller
      exact hasked rfl (underCheck_dialled hq)
    | resume c now =>
      obtain rfl : c = call := Option.some.inj hcaller
      exact hasked rfl (underCheck_resume hq)
    | stageExpired c now =>
      obtain rfl : c = call := Option.some.inj hcaller
      exact checkOrigin_stageExpired hq
    | borrowExpired c now =>
      obtain rfl : c = call := Option.some.inj hcaller
      refine hasked rfl (.inl ?_)
      have hgone := underCheck_cancelBorrow p c
      rw [perform] at hq
      unfold borrowExpired at hq
      split at hq
      · split at hq
        · rw [show (p.cancelBorrow c).underCheck? c = some t from hq] at hgone
          contradiction
        · exact hq
      · exact hq
    | cancelBorrow c =>
      obtain rfl : c = call := Option.some.inj hcaller
      rw [perform, underCheck_cancelBorrow] at hq
      contradiction
    | _ => contradiction
  · refine .same ?_ fun now stimulus hheard => hcaller (caller_of_heard hheard)
    rwa [underCheck?, borrow_of_other h hcaller] at hq

/-! ## Lent -/

/-- How a session comes to be lent to a call. -/
inductive LoanOrigin (p : Pool) (event : PoolEvent) (call : CallId) (t : Session) : Prop where
  | same (hs : p.loans.get? call = some t)
  | used {s : Session} {e : SessionEvent} (hused : event.used? = some (call, e))
      (hs : p.loans.get? call = some s) (ht : t = s.undergo e)
  | passed {s : Session} {now : Instant} {stimulus : Stimulus} {text : String}
      (hheard : event.heard? = some (call, now, stimulus)) (hs : p.underCheck? call = some s)
      (hreact : s.react now stimulus = (t, some (.ok text)))
  | opened {id : Nat} {until_ deadline now : Instant} {counts : Bool} {line : LineId}
      (hevent : event = .dialled call now (.ok line))
      (hb : p.borrows.get? call = some ⟨.dialling id until_, deadline, counts⟩)
      (ht : t = p.openedSession id line now)

theorem loanOrigin_hearCheck {c : CallId} {now : Instant} {stimulus : Stimulus}
    (hheard : event.heard? = some (c, now, stimulus))
    (hq : (p.hearCheck c now stimulus).loans.get? call = some t) :
    LoanOrigin p event call t := by
  unfold hearCheck at hq
  split at hq
  · rename_i s deadline counts hb
    dsimp only at hq
    split at hq
    · exact .same hq
    · rename_i s' text hreact
      replace hq : (p.loans.put c s').get? call = some t := hq
      rw [Roster.get?_put] at hq
      split at hq
      · rename_i hcall
        obtain rfl : s' = t := Option.some.inj hq
        rw [hcall]
        exact .passed hheard (underCheck_eq_some.mpr ⟨_, _, hb⟩) hreact
      · exact .same hq
    · rename_i s' fault hreact
      have hseek := (resought_seek ((p.destroy s').leave (.caller c)) c
        ⟨.parked, deadline, counts⟩ now).after_closing (ledger_replace p c s')
      rw [hseek.loans] at hq
      exact .same hq
  · exact .same hq

theorem loans_rested (p : Pool) (c : CallId) (now : Instant) :
    (p.rested c now).loans = p.loans := by
  unfold rested
  split
  · split <;> rfl
  · rfl

theorem loanOrigin_dialled {c : CallId} {now : Instant} {outcome : Except IoFault LineId}
    (hevent : outcome.isOk → event = .dialled c now outcome)
    (hq : (p.dialled c now outcome).loans.get? call = some t) :
    LoanOrigin p event call t := by
  unfold dialled at hq
  split at hq
  · rename_i id until_ deadline counts hb
    split at hq
    · rename_i line
      replace hq : (p.loans.put c (p.openedSession id line now)).get? call = some t := hq
      rw [Roster.get?_put] at hq
      split at hq
      · rename_i hcall
        rw [hcall]
        exact .opened (hevent rfl) hb (Option.some.inj hq).symm
      · exact .same hq
    · have hseek := resought_seek (((p.noteFailure now).freePlace false).leave (.caller c)) c
        ⟨.parked, deadline, counts⟩ now
      have hfreed := sameHolders_freePlace (p.noteFailure now)
      rw [hseek.loans] at hq
      exact .same (hfreed.loans ▸ hq)
  · exact .same hq

theorem loans_resume (p : Pool) (c : CallId) (now : Instant) :
    (p.resume c now).loans = p.loans := by
  unfold resume
  split
  · split
    · exact (resought_seek _ c _ now).loans
    · rfl
  · rfl

theorem loans_acquire (p : Pool) (c : CallId) (now : Instant) :
    (p.acquire c now).loans = p.loans := by
  rcases resought_acquire p c now with hsame | hsought
  · exact congrArg Ledger.loans hsame
  · exact hsought.loans

theorem loans_cancelBorrow (p : Pool) (c : CallId) : (p.cancelBorrow c).loans = p.loans := by
  unfold cancelBorrow
  split
  · exact (sameHolders_letGo p _).loans
  · rfl

theorem loanOrigin_stageExpired {c : CallId} {now : Instant}
    (hq : (p.stageExpired c now).loans.get? call = some t) :
    LoanOrigin p (.stageExpired c now) call t := by
  unfold stageExpired at hq
  split at hq
  · exact loanOrigin_hearCheck rfl hq
  · rw [loans_rested] at hq
    exact .same hq
  · split at hq
    · exact loanOrigin_dialled (fun h => by contradiction) hq
    · exact .same hq
  · exact .same hq

/-- A loan that is over leaves the others. -/
theorem loanOrigin_ended {c : CallId} (h : SameHolders (p.endLoan c) q)
    (hq : q.loans.get? call = some t) : LoanOrigin p event call t := by
  rw [h.loans] at hq
  replace hq : (p.loans.erase c).get? call = some t := hq
  rw [Roster.get?_erase] at hq
  split at hq
  · contradiction
  · exact .same hq

theorem loanOrigin_used {c : CallId} {e : SessionEvent} (hused : event.used? = some (c, e))
    (hq : (p.perform event).loans.get? call = some t) : LoanOrigin p event call t := by
  cases hs : p.loans.get? c with
  | none =>
    rw [perform_used_none hused hs] at hq
    exact .same hq
  | some s =>
    rcases perform_used hused hs with hput | ⟨hsame, -⟩
    · rw [hput] at hq
      replace hq : (p.loans.put c (s.undergo e)).get? call = some t := hq
      rw [Roster.get?_put] at hq
      split at hq
      · rename_i hcall
        rw [hcall]
        exact .used hused hs (Option.some.inj hq).symm
      · exact .same hq
    · rw [hsame] at hq
      exact .same hq

/-- Who is lent after an event was so before, has passed its check or was opened for the call. -/
theorem loanOrigin_perform (hq : (p.perform event).loans.get? call = some t) :
    LoanOrigin p event call t := by
  have hsame : (p.perform event).loans = p.loans → LoanOrigin p event call t := by
    intro hloans
    rw [hloans] at hq
    exact .same hq
  cases event with
  | acquire c now =>
    apply hsame
    rw [perform]
    split
    · exact loans_acquire p c now
    · rfl
  | hearCheck c now stimulus => exact loanOrigin_hearCheck rfl hq
  | rested c now => exact hsame (loans_rested p c now)
  | dialled c now outcome => exact loanOrigin_dialled (fun _ => rfl) hq
  | resume c now => exact hsame (loans_resume p c now)
  | stageExpired c now => exact loanOrigin_stageExpired hq
  | borrowExpired c now =>
    apply hsame
    rw [perform]
    unfold borrowExpired
    split
    · split
      · exact loans_cancelBorrow p c
      · rfl
    · rfl
  | cancelBorrow c => exact hsame (loans_cancelBorrow p c)
  | sendOn | checkOn | hearLoan | abandonLoan | invalidateLoan => exact loanOrigin_used rfl hq
  | release c =>
    rw [perform] at hq
    unfold release at hq
    split at hq
    · exact loanOrigin_ended (sameHolders_takeBack (p.endLoan c) _) hq
    · exact .same hq
  | destroyLoan c =>
    rw [perform] at hq
    unfold destroyLoan at hq
    split at hq
    · exact loanOrigin_ended (sameHolders_destroy (p.endLoan c) _) hq
    · exact .same hq
  | loseLoan c =>
    rw [perform] at hq
    unfold loseLoan at hq
    split at hq
    · exact loanOrigin_ended (sameHolders_discard (p.endLoan c) _) hq
    · exact .same hq
  | takeGuest guest =>
    apply hsame
    rw [perform]
    split
    · rfl
    · exact (sameHolders_takeBack p guest).loans
  | destroyGuest guest =>
    apply hsame
    rw [perform]
    split
    · rfl
    · exact (sameHolders_destroy p guest).loans
  | resize min max now => exact hsame (sameHolders_resize p min max now).loans
  | clear => exact hsame (sameHolders_clear p).loans
  | tend now => exact hsame (sameHolders_tend p now).loans
  | upkeepDialled now outcome => exact hsame (sameHolders_upkeepDialled p now outcome).loans
  | upkeepExpired now => exact hsame (sameHolders_upkeepExpired p now).loans
  | startDrain c now => exact hsame (sameHolders_startDrain p c now).loans
  | resumeDrain now => exact hsame (sameHolders_resumeDrain p now).loans
  | drainExpired now => exact hsame (sameHolders_drainExpired p now).loans
  | cancelDrain c => exact hsame (sameHolders_cancelDrain p c).loans
  | abandon => exact hsame (sameHolders_abandon p).loans
  | settled => exact hsame rfl

end BroadcastLink.Pool
