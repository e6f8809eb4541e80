import BroadcastLink.Proofs.Pool.Ledger

/-!
# What each operation does to the account

Closing sessions one after another, looking for a session or a place, going on with a connection:
each is a run of moves from the account with what the caller had in hand to the account of the pool
it leaves behind.
-/

namespace BroadcastLink

namespace Ledger

variable {l : Ledger} {inHand : Multiset Session} {taken : Nat}

/-! ## Closing sessions -/

/-- A place comes free. -/
def freed (l : Ledger) : Ledger :=
  if 0 < l.owed then { l with owed := l.owed - 1 } else { l with places := l.places + 1 }

/-- A session is let go: its place comes free if it is one of the pool's. -/
def closed (l : Ledger) (s : Session) : Ledger :=
  if s.pool = some l.id then { l with live := l.live - 1 }.freed else l

theorem account_freed (l : Ledger) (inHand : Multiset Session) (taken : Nat) :
    l.freed.account inHand taken = (l.account inHand taken).free := by
  unfold freed Account.free
  show (if 0 < l.owed then _ else _ : Ledger).account _ _ = if 0 < l.owed then _ else _
  split <;> rfl

/-- Only the counts change. -/
theorem closed_counts (l : Ledger) (s : Session) : ∃ places owed live,
    l.closed s = { l with places := places, owed := owed, live := live } := by
  unfold closed freed
  split
  · split
    · exact ⟨_, _, _, rfl⟩
    · exact ⟨_, _, _, rfl⟩
  · exact ⟨_, _, _, rfl⟩

theorem foldl_closed_counts (gone : List Session) (l : Ledger) : ∃ places owed live,
    gone.foldl closed l = { l with places := places, owed := owed, live := live } := by
  induction gone generalizing l with
  | nil => exact ⟨_, _, _, rfl⟩
  | cons s rest ih =>
    obtain ⟨places, owed, live, hfirst⟩ := closed_counts l s
    obtain ⟨places', owed', live', hrest⟩ := ih (l.closed s)
    rw [hfirst] at hrest
    exact ⟨places', owed', live', (congrArg (rest.foldl closed) hfirst).trans hrest⟩

theorem closed_idle (l : Ledger) (s : Session) : (l.closed s).idle = l.idle := by
  obtain ⟨_, _, _, h⟩ := closed_counts l s
  rw [h]

theorem without_freed (l : Ledger) (call : CallId) :
    l.freed.without call = (l.without call).freed := by
  unfold freed
  show _ = if 0 < l.owed then _ else _
  split <;> rfl

theorem withoutUpkeep_freed (l : Ledger) : l.freed.withoutUpkeep = l.withoutUpkeep.freed := by
  unfold freed
  show _ = if 0 < l.owed then _ else _
  split <;> rfl

theorem without_closed (l : Ledger) (s : Session) (call : CallId) :
    (l.closed s).without call = (l.without call).closed s := by
  unfold closed
  show _ = if s.pool = some l.id then _ else _
  split
  · exact without_freed _ call
  · rfl

theorem moves_freed (l : Ledger) (inHand : Multiset Session) (taken : Nat) :
    Account.Moves (l.account inHand (1 + taken)) (l.freed.account inHand taken) := by
  rw [account_freed]
  have hmove := Account.Move.giveUp (l.account inHand taken)
  rw [show (l.account inHand taken).openings + 1 = 1 + taken + l.openings by
    simp only [account]; omega] at hmove
  exact .single hmove

theorem moves_closed (l : Ledger) (s : Session) (inHand : Multiset Session) (taken : Nat) :
    Account.Moves (l.account (s ::ₘ inHand) taken) ((l.closed s).account inHand taken) := by
  have hcons : l.account (s ::ₘ inHand) taken =
      { l.account inHand taken with sessions := s ::ₘ (l.account inHand taken).sessions } := by
    simp only [account, Multiset.cons_add]
  rw [hcons, closed]
  split
  · rename_i hown
    rw [account_freed]
    exact .single (.close (l.account inHand taken) s hown)
  · rename_i hown
    exact .single (.forget (l.account inHand taken) s hown)

theorem moves_take (l : Ledger) (h : 0 < l.places) :
    Account.Moves (l.account 0 0) ({ l with places := l.places - 1 }.account 0 1) := by
  have hmove := Account.Move.take (l.account 0 0) h
  rw [show (l.account 0 0).openings + 1 = 1 + l.openings by simp only [account]; omega] at hmove
  exact .single hmove

theorem moves_check (l : Ledger) {s s' : Session} {timeout : Duration}
    (h : s.check timeout = .inFlight s') :
    Account.Moves (l.account (s ::ₘ 0) 0) (l.account (s' ::ₘ 0) 0) := by
  have hmove := Account.Move.check (l.account 0 0) s s' timeout h
  simp only [account, Multiset.cons_add, zero_add] at hmove ⊢
  exact .single hmove

/-- Sessions in hand are let go one after another. -/
theorem moves_foldl_closed (gone : List Session) (l : Ledger) :
    Account.Moves (l.account (↑gone + inHand) taken)
      ((gone.foldl closed l).account inHand taken) := by
  induction gone generalizing l with
  | nil =>
    rw [Multiset.coe_nil, zero_add]
    exact .refl
  | cons s rest ih =>
    rw [← Multiset.cons_coe, Multiset.cons_add]
    exact (moves_closed l s _ taken).trans (ih (l.closed s))

end Ledger

namespace Pool

/-- The ledger of a pool. -/
def ledger (p : Pool) : Ledger where
  id := p.id
  max := p.max
  places := p.places
  owed := p.owed
  live := p.live
  idle := p.idle
  borrows := p.borrows
  loans := p.loans
  upkeepOpens := p.upkeep.stage.isOpening

/-! ## Small steps -/

@[simp] theorem ledger_ask (p : Pool) (act : PoolAct) : (p.ask act).ledger = p.ledger := rfl

@[simp] theorem ledger_tellOne (p : Pool) : p.tellOne.ledger = p.ledger := rfl

@[simp] theorem ledger_tellAll (p : Pool) : p.tellAll.ledger = p.ledger := rfl

@[simp] theorem ledger_enter (p : Pool) (w : Waiter) : (p.enter w).ledger = p.ledger := rfl

@[simp] theorem ledger_leave (p : Pool) (w : Waiter) : (p.leave w).ledger = p.ledger := rfl

@[simp] theorem ledger_noteFailure (p : Pool) (now : Instant) :
    (p.noteFailure now).ledger = p.ledger := rfl

theorem stage_ask (u : Upkeep) : u.ask.stage = u.stage := by
  unfold Upkeep.ask
  split <;> rfl

@[simp] theorem ledger_askUpkeep (p : Pool) : p.askUpkeep.ledger = p.ledger := by
  rw [askUpkeep, ledger_ask, ledger, ledger, stage_ask]

@[simp] theorem ledger_endBorrow (p : Pool) (call : CallId) :
    (p.endBorrow call).ledger = p.ledger.without call := rfl

@[simp] theorem ledger_refuse (p : Pool) (call : CallId) (fault : Fault) :
    (p.refuse call fault).ledger = p.ledger.without call := rfl

@[simp] theorem ledger_putBorrow (p : Pool) (call : CallId) (b : Borrow) :
    (p.putBorrow call b).ledger = { p.ledger with borrows := p.ledger.borrows.put call b } := rfl

theorem ledger_freePlace_open (p : Pool) :
    (p.freePlace true).ledger = { p.ledger with live := p.live - 1 }.freed := by
  unfold freePlace Ledger.freed
  show (if 0 < p.owed then _ else _ : Pool).ledger = if 0 < p.owed then _ else _
  split <;> rfl

theorem ledger_freePlace_opening (p : Pool) : (p.freePlace false).ledger = p.ledger.freed := by
  unfold freePlace Ledger.freed
  show (if 0 < p.owed then _ else _ : Pool).ledger = if 0 < p.owed then _ else _
  split <;> rfl

theorem ledger_discard (p : Pool) (s : Session) : (p.discard s).ledger = p.ledger.closed s := by
  unfold discard Ledger.closed
  cases hpool : s.pool with
  | none => rfl
  | some id =>
    by_cases hid : id = p.id
    · rw [if_pos (show some id = some p.ledger.id from congrArg some hid)]
      show (if id = p.id then _ else _ : Pool).ledger = _
      rw [if_pos hid]
      exact ledger_freePlace_open (p.ask (.hangUp s.line))
    · rw [if_neg fun h : some id = some p.ledger.id => hid (Option.some.inj h)]
      show (if id = p.id then _ else _ : Pool).ledger = _
      rw [if_neg hid]
      rfl

theorem ledger_destroy (p : Pool) (s : Session) : (p.destroy s).ledger = p.ledger.closed s := by
  rw [← ledger_discard, destroy]
  dsimp only
  split
  · rfl
  · exact ledger_askUpkeep _

/-- A caller closes the session it had in hand, and gets out of line to look again. -/
theorem ledger_replace (p : Pool) (call : CallId) (s : Session) :
    ((p.destroy s).leave (.caller call)).ledger = p.ledger.closed s := by
  rw [ledger_leave, ledger_destroy]

/-! ## Looking for a session or a place -/

/-- What an operation did to the callers and loans of a pool when it was about one caller only: its
entry is gone or written anew, and no loan was touched. -/
structure Resought (p q : Pool) (call : CallId) : Prop where
  loans : q.loans = p.loans
  borrows : q.borrows = p.borrows.erase call ∨ ∃ b, q.borrows = p.borrows.put call b

/-- Closing a session first makes no difference to that. -/
theorem Resought.after_closing {p r q : Pool} {call : CallId} {s : Session}
    (hledger : r.ledger = p.ledger.closed s) (h : Resought r q call) : Resought p q call := by
  obtain ⟨_, _, _, hcounts⟩ := Ledger.closed_counts p.ledger s
  have hloans : r.loans = p.loans := congrArg Ledger.loans (hledger.trans hcounts)
  have hborrows : r.borrows = p.borrows := congrArg Ledger.borrows (hledger.trans hcounts)
  exact ⟨h.loans.trans hloans, hborrows ▸ h.borrows⟩

theorem moves_connectOrPark (p : Pool) (call : CallId) (b : Borrow) (now : Instant) :
    Account.Moves ((p.ledger.without call).account 0 0)
      ((p.connectOrPark call b now).ledger.account 0 0) := by
  unfold connectOrPark
  split
  · rename_i hplace
    have hfree : 0 < p.places := by
      rw [hasPlace, Bool.and_eq_true] at hplace
      exact of_decide_eq_true hplace.1
    have htake := Ledger.moves_take (p.ledger.without call) hfree
    dsimp only
    split
    · rw [ledger_putBorrow, Ledger.account_putBorrow]
      exact htake
    · rw [dial, ledger_putBorrow, Ledger.account_putBorrow]
      exact htake
  · split
    · rw [ledger_refuse]
    · rw [park, ledger_putBorrow, Ledger.account_putBorrow]
      exact .refl

/-- Looking among idle sessions closes those that cannot be checked, and ends with one under check,
with a place taken, or with neither. -/
theorem moves_seekAmong {p : Pool} {idle : List Session} (hidle : p.idle = idle) (call : CallId)
    (b : Borrow) (now : Instant) :
    Account.Moves ((p.ledger.without call).account 0 0)
      ((p.seekAmong call b now idle).ledger.account 0 0) := by
  -- By induction on the idle sessions, as the search goes through them.
  induction idle generalizing p with
  | nil =>
    have hnil : p.ledger = ({ p with idle := [] }.enter (.caller call)).ledger := by
      rw [ledger, hidle]
      rfl
    rw [hnil]
    exact moves_connectOrPark ({ p with idle := [] }.enter (.caller call)) call b now
  | cons s rest ih =>
    have hrest : p.ledger.idle = s :: rest := hidle
    rw [Ledger.account_idle_cons (l := p.ledger.without call) hrest, seekAmong]
    split
    · rename_i s' hcheck
      rw [ledger_putBorrow, Ledger.account_putBorrow]
      exact Ledger.moves_check { p.ledger.without call with idle := rest } hcheck
    · -- The session goes, and the search goes on among the others.
      have hclosed := Ledger.moves_closed { p.ledger.without call with idle := rest } s 0 0
      have hledger := ledger_replace ({ p with idle := rest }.enter (.caller call)) call s
      have hidle := (congrArg Ledger.idle hledger).trans (Ledger.closed_idle _ s)
      have hmoves := ih hidle
      rw [hledger, Ledger.without_closed] at hmoves
      exact hclosed.trans hmoves

theorem moves_seek (p : Pool) (call : CallId) (b : Borrow) (now : Instant) :
    Account.Moves ((p.ledger.without call).account 0 0)
      ((p.seek call b now).ledger.account 0 0) := by
  rw [seek]
  split
  · exact .refl
  · exact moves_seekAmong rfl call b now

/-- Looking for a session is about the caller only. -/
theorem resought_seekAmong {p : Pool} (call : CallId) (b : Borrow) (now : Instant)
    (idle : List Session) : Resought p (p.seekAmong call b now idle) call := by
  -- Again along the search; each session closed on the way leaves callers and loans alone.
  induction idle generalizing p with
  | nil =>
    unfold seekAmong connectOrPark
    dsimp only
    split
    · split
      · exact ⟨rfl, .inr ⟨_, rfl⟩⟩
      · exact ⟨rfl, .inr ⟨_, rfl⟩⟩
    · split
      · exact ⟨rfl, .inl rfl⟩
      · exact ⟨rfl, .inr ⟨_, rfl⟩⟩
  | cons s rest ih =>
    rw [seekAmong]
    split
    · exact ⟨rfl, .inr ⟨_, rfl⟩⟩
    · obtain ⟨hloans, hborrows⟩ := Resought.after_closing
        (ledger_replace ({ p with idle := rest }.enter (.caller call)) call s) ih
      exact ⟨hloans, hborrows⟩

theorem resought_seek (p : Pool) (call : CallId) (b : Borrow) (now : Instant) :
    Resought p (p.seek call b now) call := by
  rw [seek]
  split
  · exact ⟨rfl, .inl rfl⟩
  · exact resought_seekAmong call b now p.idle

end Pool

end BroadcastLink
