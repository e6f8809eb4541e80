import BroadcastLink.Proofs.Pool.Holders

/-!
# What happens to a pool

Everything that can happen to one pool, in any order: what its callers and borrowers do or give up,
what connections do, its upkeep, changes of its bounds, a drain. Each event passes from one account
to the next: a session goes on, is opened or comes in, or the maximum changes; then moves follow.
-/

namespace BroadcastLink

/-- What happens to a pool. A lent session that is handed to another pool stays lent here until it
is lost there. -/
inductive PoolEvent where
  | acquire (call : CallId) (now : Instant)
  | hearCheck (call : CallId) (now : Instant) (stimulus : Stimulus)
  | rested (call : CallId) (now : Instant)
  | dialled (call : CallId) (now : Instant) (outcome : Except IoFault LineId)
  | resume (call : CallId) (now : Instant)
  | stageExpired (call : CallId) (now : Instant)
  | borrowExpired (call : CallId) (now : Instant)
  | cancelBorrow (call : CallId)
  | sendOn (call : CallId) (commands : List String)
  | checkOn (call : CallId) (timeout : Duration)
  | hearLoan (call : CallId) (now : Instant) (stimulus : Stimulus)
  | abandonLoan (call : CallId)
  | invalidateLoan (call : CallId)
  | release (call : CallId)
  | destroyLoan (call : CallId)
  | loseLoan (call : CallId)
  /-- A session that the pool did not lend is given to it, or given to it to be closed. -/
  | takeGuest (guest : Session)
  | destroyGuest (guest : Session)
  | resize (min max : Nat) (now : Instant)
  | clear
  | tend (now : Instant)
  | upkeepDialled (now : Instant) (outcome : Except IoFault LineId)
  | upkeepExpired (now : Instant)
  | startDrain (call : CallId) (now : Instant)
  | resumeDrain (now : Instant)
  | drainExpired (now : Instant)
  | cancelDrain (call : CallId)
  | abandon
  /-- What the pool asked for is done. -/
  | settled

/-- The session that comes in from outside. -/
def PoolEvent.guest? : PoolEvent → Option Session
  | .takeGuest guest | .destroyGuest guest => some guest
  | _ => none

/-- The caller that the event is about. -/
def PoolEvent.caller? : PoolEvent → Option CallId
  | .acquire call _ | .hearCheck call _ _ | .rested call _ | .dialled call _ _ | .resume call _
  | .stageExpired call _ | .borrowExpired call _ | .cancelBorrow call => some call
  | _ => none

namespace Pool

instance (p : Pool) (call : CallId) : Decidable (p.IsFresh call) :=
  inferInstanceAs (Decidable (_ ∧ _))

/-- One event. Calls are made once each, and a guest is not one of the pool's own sessions. -/
def perform (p : Pool) : PoolEvent → Pool
  | .acquire call now => if p.IsFresh call then p.acquire call now else p
  | .hearCheck call now stimulus => p.hearCheck call now stimulus
  | .rested call now => p.rested call now
  | .dialled call now outcome => p.dialled call now outcome
  | .resume call now => p.resume call now
  | .stageExpired call now => p.stageExpired call now
  | .borrowExpired call now => p.borrowExpired call now
  | .cancelBorrow call => p.cancelBorrow call
  | .sendOn call commands => (p.beginOn call (·.send commands)).1
  | .checkOn call timeout => (p.beginOn call (·.check timeout)).1
  | .hearLoan call now stimulus => (p.hearLoan call now stimulus).1
  | .abandonLoan call => p.abandonLoan call
  | .invalidateLoan call => p.invalidateLoan call
  | .release call => p.release call
  | .destroyLoan call => p.destroyLoan call
  | .loseLoan call => p.loseLoan call
  | .takeGuest guest => if guest.pool = some p.id then p else p.takeBack guest
  | .destroyGuest guest => if guest.pool = some p.id then p else p.destroy guest
  | .resize min max now => p.resize min max now
  | .clear => p.clear
  | .tend now => p.tend now
  | .upkeepDialled now outcome => p.upkeepDialled now outcome
  | .upkeepExpired now => p.upkeepExpired now
  | .startDrain call now => p.startDrain call now
  | .resumeDrain now => p.resumeDrain now
  | .drainExpired now => p.drainExpired now
  | .cancelDrain call => p.cancelDrain call
  | .abandon => p.abandon
  | .settled => { p with acts := [] }

end Pool

/-! ## From one account to the next -/

namespace Account

/-- What an event begins with; the guests are the sessions that may come in. -/
inductive Onset (guests : Session → Prop) : Account → Account → Prop where
  | same (a : Account) : Onset guests a a
  | moveOn (a : Account) {s s' : Session} (h : s.Later s') :
    Onset guests { a with sessions := s ::ₘ a.sessions } { a with sessions := s' ::ₘ a.sessions }
  | opened (a : Account) {s : Session} (htaken : 0 < a.openings) (hown : Owns a.id s) :
    Onset guests a (a.opened s)
  | rebound (a : Account) (max : Nat) : Onset guests a (a.rebound max)
  | guest (a : Account) {s : Session} (h : guests s) (hown : ¬ Owns a.id s) :
    Onset guests a { a with sessions := s ::ₘ a.sessions }

/-- What an event does: it begins with something, and moves follow. -/
def Passage (guests : Session → Prop) (a b : Account) : Prop :=
  ∃ c, Onset guests a c ∧ Moves c b

variable {guests : Session → Prop} {a b : Account}

theorem Moves.passage (h : Moves a b) : Passage guests a b := ⟨a, .same a, h⟩

theorem passage_of_eq (h : a = b) : Passage guests a b := (moves_of_eq h).passage

theorem Onset.balanced (h : Onset guests a b) (hbal : a.Balanced) : b.Balanced := by
  cases h with
  | same => exact hbal
  | moveOn a hlater => exact hbal.swap hlater.pool
  | opened _ htaken hown => exact hbal.opened htaken hown
  | rebound _ max => exact hbal.rebound max
  | guest _ _ hown =>
    have hopen := openSlots_cons_of_not_owned a hown
    refine ⟨hbal.live.trans hopen.symm, ?_, ?_⟩
    · rw [slots, hopen]
      exact hbal.places
    · rw [slots, hopen]
      exact hbal.owed

theorem Onset.openings_le (h : Onset guests a b) : b.openings ≤ a.openings := by
  cases h with
  | opened => exact Nat.sub_le _ _
  | same | moveOn | rebound | guest => exact Nat.le_refl _

theorem Passage.balanced (h : Passage guests a b) (hbal : a.Balanced) : b.Balanced := by
  obtain ⟨c, honset, hmoves⟩ := h
  exact (honset.balanced hbal).moves hmoves

/-- Places are taken only while none is owed. -/
theorem Passage.within (h : Passage guests a b) (hbal : a.Balanced) : b.Within a.openings := by
  obtain ⟨c, honset, hmoves⟩ := h
  exact Within.moves (honset.balanced hbal) (.inl honset.openings_le) hmoves

theorem id_free (a : Account) : a.free.id = a.id := by
  unfold free
  split <;> rfl

theorem id_move (m : Move a b) : b.id = a.id := by
  cases m with
  | close a => exact id_free { a with live := a.live - 1 }
  | giveUp a => exact id_free a
  | forget | take | check => rfl

theorem Passage.id_eq (h : Passage guests a b) : b.id = a.id := by
  obtain ⟨c, honset, hmoves⟩ := h
  have hid : c.id = a.id := by cases honset <;> rfl
  induction hmoves with
  | refl => exact hid
  | tail _ last ih => exact (id_move last).trans ih

/-- Without guests of other pools all sessions are the pool's own. -/
theorem Passage.forall_own (h : Passage guests a b) (hguests : ∀ s, ¬ guests s)
    (hown : ∀ s ∈ a.sessions, Owns a.id s) : ∀ s ∈ b.sessions, Owns b.id s := by
  have hid := h.id_eq
  obtain ⟨c, honset, hmoves⟩ := h
  rw [hid]
  refine forall_sessions_moves (P := Owns a.id)
    (fun s s' timeout hs hcheck => (Session.later_of_check hcheck).pool.trans hs) ?_ hmoves
  cases honset with
  | same | rebound => exact hown
  | moveOn a hlater =>
    intro t ht
    rcases Multiset.mem_cons.mp ht with rfl | ht
    · exact hlater.pool.trans (hown _ (Multiset.mem_cons_self _ _))
    · exact hown t (Multiset.mem_cons_of_mem ht)
  | opened _ _ hs =>
    intro t ht
    rcases Multiset.mem_cons.mp ht with rfl | ht
    · exact hs
    · exact hown t ht
  | guest s hguest _ => exact absurd hguest (hguests _)

end Account

namespace Pool

variable {p : Pool} {guests : Session → Prop}

/-- The account of a pool between two operations. -/
def toAccount (p : Pool) : Account := p.ledger.account 0 0

/-! ## Each event is a passage -/

theorem passage_acquire (call : CallId) (now : Instant) :
    Account.Passage guests p.toAccount (p.perform (.acquire call now)).toAccount := by
  rw [perform]
  split
  · rename_i hfresh
    exact (moves_acquire hfresh.1 now).passage
  · exact Account.passage_of_eq rfl

/-- The session under check moves on before the caller does. -/
theorem passage_hearCheck (h : p.Apart) (call : CallId) (now : Instant) (stimulus : Stimulus) :
    Account.Passage guests p.toAccount (p.hearCheck call now stimulus).toAccount := by
  cases hb : p.borrows.get? call with
  | none =>
    rw [hearCheck, hb]
    exact Account.passage_of_eq rfl
  | some b =>
    obtain ⟨stage, deadline, counts⟩ := b
    cases stage with
    | checking s =>
      -- With the session in hand, first it moves on, then the caller does.
      have hmoves := moves_hearCheck hb (h.loan_of_borrow hb) now stimulus
      rw [toAccount, Ledger.account_borrow (l := p.ledger) hb]
      exact ⟨_, .moveOn ((p.ledger.without call).account 0 0) (Session.later_react s now stimulus),
        hmoves⟩
    | resting | dialling | parked =>
      rw [hearCheck, hb]
      exact Account.passage_of_eq rfl

theorem passage_dialled (h : p.Apart) (call : CallId) (now : Instant)
    (outcome : Except IoFault LineId) :
    Account.Passage guests p.toAccount (p.dialled call now outcome).toAccount := by
  cases outcome with
  | error fault => exact (moves_dialled_error p call now fault).passage
  | ok line =>
    cases hb : p.borrows.get? call with
    | none =>
      rw [dialled, hb]
      exact Account.passage_of_eq rfl
    | some b =>
      obtain ⟨stage, deadline, counts⟩ := b
      cases stage with
      | dialling id until_ =>
        have htaken : 0 < p.toAccount.openings := by
          rw [toAccount, Ledger.account_borrow (l := p.ledger) hb]
          exact Nat.lt_of_lt_of_le Nat.one_pos (Nat.le_add_right _ _)
        have hown : Account.Owns p.id (p.openedSession id line now) := rfl
        rw [toAccount, toAccount, account_dialled_ok hb (h.loan_of_borrow hb) now line]
        exact ⟨_, .opened _ htaken hown, .refl⟩
      | resting | checking | parked =>
        rw [dialled, hb]
        exact Account.passage_of_eq rfl

theorem passage_stageExpired (h : p.Apart) (call : CallId) (now : Instant) :
    Account.Passage guests p.toAccount (p.stageExpired call now).toAccount := by
  unfold stageExpired
  split
  · exact passage_hearCheck h call now .expired
  · exact Account.passage_of_eq (account_rested p call now).symm
  · split
    · exact passage_dialled h call now _
    · exact Account.passage_of_eq rfl
  · exact Account.passage_of_eq rfl

/-- A lent session goes on with what its borrower does. -/
theorem passage_putLoan {call : CallId} {s s' : Session} (h : p.loans.get? call = some s)
    (hlater : s.Later s') :
    Account.Passage guests p.toAccount (p.putLoan call s').toAccount := by
  rw [toAccount, toAccount, Ledger.account_loan (l := p.ledger) h, account_putLoan]
  exact ⟨_, .moveOn ((p.ledger.unlent call).account 0 0) hlater, .refl⟩

theorem passage_beginOn (call : CallId) {begin : Session → Begun}
    (hbegin : ∀ s s', begin s = .inFlight s' → s.Later s') :
    Account.Passage guests p.toAccount (p.beginOn call begin).1.toAccount := by
  unfold beginOn
  split
  · rename_i s hloan
    split
    · exact Account.passage_of_eq rfl
    · rename_i s' hbegun
      exact passage_putLoan hloan (hbegin s s' hbegun)
  · exact Account.passage_of_eq rfl

theorem passage_hearLoan (call : CallId) (now : Instant) (stimulus : Stimulus) :
    Account.Passage guests p.toAccount (p.hearLoan call now stimulus).1.toAccount := by
  unfold hearLoan
  split
  · rename_i s hloan
    exact passage_putLoan hloan (Session.later_react s now stimulus)
  · exact Account.passage_of_eq rfl

theorem passage_abandonLoan (call : CallId) :
    Account.Passage guests p.toAccount (p.abandonLoan call).toAccount := by
  unfold abandonLoan
  split
  · rename_i s hloan
    exact passage_putLoan hloan ⟨rfl, rfl⟩
  · exact Account.passage_of_eq rfl

theorem passage_invalidateLoan (call : CallId) :
    Account.Passage guests p.toAccount (p.invalidateLoan call).toAccount := by
  unfold invalidateLoan
  split
  · rename_i s hloan
    exact passage_putLoan hloan ⟨rfl, rfl⟩
  · exact Account.passage_of_eq rfl

theorem passage_release (call : CallId) :
    Account.Passage guests p.toAccount (p.release call).toAccount := by
  cases hloan : p.loans.get? call with
  | none =>
    rw [release, hloan]
    exact Account.passage_of_eq rfl
  | some s => exact (moves_release hloan).passage

theorem passage_destroyLoan (call : CallId) :
    Account.Passage guests p.toAccount (p.destroyLoan call).toAccount := by
  cases hloan : p.loans.get? call with
  | none =>
    rw [destroyLoan, hloan]
    exact Account.passage_of_eq rfl
  | some s => exact (moves_destroyLoan hloan).passage

theorem passage_loseLoan (call : CallId) :
    Account.Passage guests p.toAccount (p.loseLoan call).toAccount := by
  cases hloan : p.loans.get? call with
  | none =>
    rw [loseLoan, hloan]
    exact Account.passage_of_eq rfl
  | some s => exact (moves_loseLoan hloan).passage

/-- Closing a session of no pool at all changes no count. -/
theorem ledger_destroy_unpooled (p : Pool) {s : Session} (h : s.pool = none) :
    (p.destroy s).ledger = p.ledger := by
  rw [ledger_destroy, Ledger.closed, if_neg]
  rw [h]
  exact (Option.some_ne_none p.id).symm

/-- A guest is kept or closed; one that takes up no place of any pool is always closed. -/
theorem passage_takeGuest {s : Session} (hguest : s.pool ≠ none → guests s) :
    Account.Passage guests p.toAccount (p.perform (.takeGuest s)).toAccount := by
  rw [perform]
  split
  · exact Account.passage_of_eq rfl
  · rename_i hown
    by_cases hpool : s.pool = none
    · rw [takeBack, if_pos (Option.isNone_iff_eq_none.mpr hpool)]
      refine Account.passage_of_eq ?_
      rw [toAccount, toAccount, ledger_destroy_unpooled p hpool]
    · exact ⟨_, .guest p.toAccount (hguest hpool) hown, moves_takeBack p s⟩

theorem passage_destroyGuest {s : Session} (hguest : s.pool ≠ none → guests s) :
    Account.Passage guests p.toAccount (p.perform (.destroyGuest s)).toAccount := by
  rw [perform]
  split
  · exact Account.passage_of_eq rfl
  · rename_i hown
    by_cases hpool : s.pool = none
    · -- Its connection is hung up, and that is all.
      refine Account.passage_of_eq ?_
      rw [toAccount, toAccount, ledger_destroy_unpooled p hpool]
    · refine ⟨_, .guest p.toAccount (hguest hpool) hown, ?_⟩
      have hmoves := Ledger.moves_closed p.ledger s 0 0
      rw [← ledger_destroy] at hmoves
      exact hmoves

theorem passage_resize (min max : Nat) (now : Instant) :
    Account.Passage guests p.toAccount (p.resize min max now).toAccount :=
  ⟨_, .rebound p.toAccount (Nat.max max 1), moves_resize p min max now⟩

theorem passage_upkeepDialled (now : Instant) (outcome : Except IoFault LineId) :
    Account.Passage guests p.toAccount (p.upkeepDialled now outcome).toAccount := by
  cases outcome with
  | error fault => exact (moves_upkeepDialled_error p now fault).passage
  | ok line =>
    cases hstage : p.upkeep.stage with
    | dialling id deadline =>
      have htaken : 0 < p.toAccount.openings := by
        rw [toAccount, account_dialling hstage]
        exact Nat.lt_of_lt_of_le Nat.one_pos (Nat.le_add_right _ _)
      have hown : Account.Owns p.id (p.openedSession id line now) := rfl
      exact ⟨_, .opened _ htaken hown, moves_upkeepDialled_ok hstage now line⟩
    | waiting | sifting | «over» =>
      rw [upkeepDialled, hstage]
      exact Account.passage_of_eq rfl

/-- Every event is a passage. The guests are those sessions of other pools that the event brings. -/
theorem passage_perform (h : p.Apart) (event : PoolEvent)
    (hguests : ∀ s ∈ event.guest?, s.pool ≠ none → guests s) :
    Account.Passage guests p.toAccount (p.perform event).toAccount := by
  cases event with
  | acquire call now => exact passage_acquire call now
  | hearCheck call now stimulus => exact passage_hearCheck h call now stimulus
  | rested call now => exact Account.passage_of_eq (account_rested p call now).symm
  | dialled call now outcome => exact passage_dialled h call now outcome
  | resume call now => exact (moves_resume p call now).passage
  | stageExpired call now => exact passage_stageExpired h call now
  | borrowExpired call now => exact (moves_borrowExpired p call now).passage
  | cancelBorrow call => exact (moves_cancelBorrow p call).passage
  | sendOn call commands => exact passage_beginOn call fun _ _ hsend => Session.later_of_send hsend
  | checkOn call timeout =>
    exact passage_beginOn call fun _ _ hcheck => Session.later_of_check hcheck
  | hearLoan call now stimulus => exact passage_hearLoan call now stimulus
  | abandonLoan call => exact passage_abandonLoan call
  | invalidateLoan call => exact passage_invalidateLoan call
  | release call => exact passage_release call
  | destroyLoan call => exact passage_destroyLoan call
  | loseLoan call => exact passage_loseLoan call
  | takeGuest guest => exact passage_takeGuest (hguests guest rfl)
  | destroyGuest guest => exact passage_destroyGuest (hguests guest rfl)
  | resize min max now => exact passage_resize min max now
  | clear => exact (moves_clear p).passage
  | tend now => exact (moves_tend p now).passage
  | upkeepDialled now outcome => exact passage_upkeepDialled now outcome
  | upkeepExpired now => exact (moves_upkeepExpired p now).passage
  | startDrain call now => exact (moves_startDrain p call now).passage
  | resumeDrain now => exact (moves_resumeDrain p now).passage
  | drainExpired now => exact (moves_drainExpired p now).passage
  | cancelDrain call =>
    refine Account.passage_of_eq ?_
    rw [toAccount, toAccount, perform, ledger_cancelDrain]
  | abandon => exact (moves_abandon p).passage
  | settled => exact Account.passage_of_eq rfl

/-! ## Whose entries an event touches -/

/-- An event touches the entries of one caller, those of one loan, or nobody's. -/
inductive Touches (p q : Pool) : Option CallId → Prop where
  | caller {call : CallId} (h : Sought p q call) : Touches p q (some call)
  | loan {call : CallId} (h : OnLoan p q call) : Touches p q none
  | nobody (h : SameHolders p q) : Touches p q none

theorem touches_perform (h : p.Apart) (event : PoolEvent) :
    Touches p (p.perform event) event.caller? := by
  cases event with
  | acquire call now =>
    rw [Pool.perform]
    split
    · rename_i hfresh
      exact .caller (sought_acquire hfresh now)
    · exact .caller (.refl h call)
  | hearCheck call now stimulus => exact .caller (sought_hearCheck h call now stimulus)
  | rested call now => exact .caller (sought_rested h call now)
  | dialled call now outcome => exact .caller (sought_dialled h call now outcome)
  | resume call now => exact .caller (sought_resume h call now)
  | stageExpired call now => exact .caller (sought_stageExpired h call now)
  | borrowExpired call now => exact .caller (sought_borrowExpired h call now)
  | cancelBorrow call => exact .caller (sought_cancelBorrow h call)
  | sendOn call | checkOn call => exact .loan (onLoan_beginOn p call _)
  | hearLoan call now stimulus => exact .loan (onLoan_hearLoan p call now stimulus)
  | abandonLoan call => exact .loan (onLoan_abandonLoan p call)
  | invalidateLoan call => exact .loan (onLoan_invalidateLoan p call)
  | release call => exact .loan (onLoan_release p call)
  | destroyLoan call => exact .loan (onLoan_destroyLoan p call)
  | loseLoan call => exact .loan (onLoan_loseLoan p call)
  | takeGuest guest =>
    rw [Pool.perform]
    split
    · exact .nobody ⟨rfl, rfl⟩
    · exact .nobody (sameHolders_takeBack p guest)
  | destroyGuest guest =>
    rw [Pool.perform]
    split
    · exact .nobody ⟨rfl, rfl⟩
    · exact .nobody (sameHolders_destroy p guest)
  | resize min max now => exact .nobody (sameHolders_resize p min max now)
  | clear => exact .nobody (sameHolders_clear p)
  | tend now => exact .nobody (sameHolders_tend p now)
  | upkeepDialled now outcome => exact .nobody (sameHolders_upkeepDialled p now outcome)
  | upkeepExpired now => exact .nobody (sameHolders_upkeepExpired p now)
  | startDrain call now => exact .nobody (sameHolders_startDrain p call now)
  | resumeDrain now => exact .nobody (sameHolders_resumeDrain p now)
  | drainExpired now => exact .nobody (sameHolders_drainExpired p now)
  | cancelDrain call => exact .nobody (sameHolders_cancelDrain p call)
  | abandon => exact .nobody (sameHolders_abandon p)
  | settled => exact .nobody ⟨rfl, rfl⟩

/-- Every event keeps those who look for a session apart from those who have one. -/
theorem Apart.perform (h : p.Apart) (event : PoolEvent) : (p.perform event).Apart := by
  have htouches := touches_perform h event
  generalize event.caller? = caller at htouches
  cases htouches with
  | caller hstep => exact h.sought hstep
  | loan hstep => exact h.onLoan hstep
  | nobody hstep => exact h.sameHolders hstep

end Pool

end BroadcastLink
