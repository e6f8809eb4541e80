import BroadcastLink.Proofs.Pool.Passage

/-!
# Capacity is never lost or gained

Whatever happened to a pool before, its three counts follow from the maximum and from what takes up
its places at the moment: the free places are those the maximum leaves, the owed ones those beyond
it, and the open sessions are counted.
-/

namespace BroadcastLink.Pool

variable {p : Pool}

/-! ## What takes up the places -/

/-- All sessions in the pool's hands: idle, under check for a caller, or lent. -/
def sessions (p : Pool) : List Session :=
  p.idle ++ p.borrows.values.filterMap (·.stage.session?) ++ p.loans.values

/-- How many places open sessions take up. -/
def openSlots (p : Pool) : Nat := p.sessions.countP (·.pool = some p.id)

/-- How many places were taken to open a session on: by callers who connect or pause before, and by
the upkeep. -/
def openings (p : Pool) : Nat :=
  p.borrows.values.countP (·.stage.isOpening) + p.upkeep.stage.isOpening.toNat

/-- How many places are taken up. -/
def slots (p : Pool) : Nat := p.openSlots + p.openings

/-- Nobody looks for a session or has one, and the upkeep does not open one. -/
structure IsQuiet (p : Pool) : Prop where
  borrows : p.borrows.values = []
  loans : p.loans.values = []
  upkeep : p.upkeep.stage.isOpening = false

theorem toAccount_sessions (p : Pool) : p.toAccount.sessions = ↑p.sessions := by
  show 0 + (_ + (_ + _) : Multiset Session) = _
  rw [zero_add, Multiset.coe_add, Multiset.coe_add, ← List.append_assoc]
  rfl

theorem toAccount_openSlots (p : Pool) : p.toAccount.openSlots = p.openSlots := by
  rw [Account.openSlots, toAccount_sessions, Multiset.coe_countP]
  rfl

theorem toAccount_openings (p : Pool) : p.toAccount.openings = p.openings :=
  Nat.zero_add _

theorem toAccount_slots (p : Pool) : p.toAccount.slots = p.slots := by
  rw [Account.slots, toAccount_openSlots, toAccount_openings, slots]

/-! ## The counts -/

/-- Any number of events. -/
def run (p : Pool) (events : List PoolEvent) : Pool := events.foldl perform p

theorem run_append (p : Pool) (front back : List PoolEvent) :
    p.run (front ++ back) = (p.run front).run back :=
  List.foldl_append

theorem run_concat (p : Pool) (events : List PoolEvent) (event : PoolEvent) :
    p.run (events ++ [event]) = (p.run events).perform event :=
  run_append p events [event]

/-- The three counts of a pool are what its places make them. -/
structure Counted (p : Pool) : Prop where
  places : p.places = p.max - p.slots
  owed : p.owed = p.slots - p.max
  live : p.live = p.openSlots

theorem counted_iff_balanced (p : Pool) : p.Counted ↔ p.toAccount.Balanced := by
  constructor
  · rintro ⟨hplaces, howed, hlive⟩
    rw [← toAccount_slots] at hplaces howed
    rw [← toAccount_openSlots] at hlive
    exact ⟨hlive, hplaces, howed⟩
  · rintro ⟨hlive, hplaces, howed⟩
    rw [toAccount_slots] at hplaces howed
    rw [toAccount_openSlots] at hlive
    exact ⟨hplaces, howed, hlive⟩

/-- Without free places none is given out. -/
theorem Counted.hasPlace (h : p.Counted) (hfull : p.max ≤ p.slots) : p.hasPlace = false := by
  have hplaces := h.places
  rw [Pool.hasPlace, show p.places = 0 by omega]
  rfl

/-- In a quiet pool every place taken up has an idle session. -/
theorem IsQuiet.slots_eq (h : p.IsQuiet) : p.slots = p.idle.countP (·.pool = some p.id) := by
  rw [slots, openSlots, sessions, openings, h.borrows, h.loans, h.upkeep]
  simp

/-- The counts are right, and no call looks for a session while it has one. -/
structure InOrder (p : Pool) : Prop where
  counted : p.Counted
  apart : p.Apart

/-- A new pool is in order: all its places are free. -/
theorem inOrder_forStudio (id : PoolId) (studio : Studio) (settings : PoolSettings)
    (now : Instant) : (forStudio id studio settings now).InOrder := by
  have hslots : (forStudio id studio settings now).slots = 0 := by
    rw [slots, openings, forStudio]
    dsimp only
    split <;> rfl
  refine ⟨⟨?_, ?_, rfl⟩, fun call h => rfl⟩
  · rw [hslots]
    rfl
  · rw [hslots]
    exact (Nat.zero_sub _).symm

/-- One event keeps a pool in order. -/
theorem InOrder.perform (h : p.InOrder) (event : PoolEvent) : (p.perform event).InOrder := by
  have hpassage : Account.Passage (fun _ => True) p.toAccount (p.perform event).toAccount :=
    passage_perform h.apart event fun _ _ _ => trivial
  refine ⟨(counted_iff_balanced _).mpr ?_, h.apart.perform event⟩
  exact hpassage.balanced ((counted_iff_balanced p).mp h.counted)

/-- If more sessions are being opened after an event than before, they are within the maximum. -/
theorem InOrder.perform_within (h : p.InOrder) (event : PoolEvent) :
    (p.perform event).openings ≤ p.openings ∨
      (p.perform event).slots ≤ (p.perform event).max := by
  -- Guests from anywhere may come in; they take up no place here.
  have hpassage : Account.Passage (fun _ => True) p.toAccount (p.perform event).toAccount :=
    passage_perform h.apart event fun _ _ _ => trivial
  have howed : (p.perform event).owed = _ := (h.perform event).counted.owed
  obtain hfew | hnone := hpassage.within ((counted_iff_balanced p).mp h.counted)
  · left
    rwa [toAccount_openings, toAccount_openings] at hfew
  · right
    replace hnone : (p.perform event).owed = 0 := hnone
    omega

theorem InOrder.run (h : p.InOrder) (events : List PoolEvent) : (p.run events).InOrder := by
  induction events generalizing p with
  | nil => exact h
  | cons event rest ih => exact ih (h.perform event)

/-- As long as no guest comes from another pool, all sessions are the pool's own. -/
theorem forall_own_run (h : p.InOrder) (hown : ∀ s ∈ p.sessions, s.pool = some p.id)
    {events : List PoolEvent} (hguests : ∀ event ∈ events, ∀ s ∈ event.guest?, s.pool = none) :
    ∀ s ∈ (p.run events).sessions, s.pool = some (p.run events).id := by
  induction events generalizing p with
  | nil => exact hown
  | cons event rest ih =>
    refine ih (h.perform event) ?_ fun e he => hguests e (List.mem_cons_of_mem event he)
    -- No guest comes from another pool, so none comes to stay.
    have hpassage : Account.Passage (fun _ => False) p.toAccount (p.perform event).toAccount :=
      passage_perform h.apart event fun s hs hpool =>
        hpool (hguests event List.mem_cons_self s hs)
    have hstep := hpassage.forall_own fun _ => not_false
    rw [toAccount_sessions, toAccount_sessions] at hstep
    exact hstep hown

/-- The capacity of a pool is never lost or gained. After any events the free places are those the
maximum leaves, the owed ones those beyond it, and the live counter counts the open sessions. So no
place is given out while all are taken up, an event after which more sessions are being opened ends
within the maximum, and in a quiet pool the places taken up are those of the idle sessions that are
its own. If callers gave back no sessions of other pools, those are all its idle sessions. -/
theorem run_keeps_capacity (id : PoolId) (studio : Studio) (settings : PoolSettings)
    (now : Instant) (events : List PoolEvent) :
    let p := (forStudio id studio settings now).run events
    (p.places = p.max - p.slots ∧ p.owed = p.slots - p.max ∧ p.live = p.openSlots) ∧
    (p.max ≤ p.slots → p.hasPlace = false) ∧
    (∀ event, (p.perform event).openings ≤ p.openings ∨
      (p.perform event).slots ≤ (p.perform event).max) ∧
    (p.IsQuiet → p.slots = p.idle.countP (·.pool = some p.id)) ∧
    (p.IsQuiet → (∀ event ∈ events, ∀ s ∈ event.guest?, s.pool = none) →
      p.slots = p.idle.length) := by
  intro p
  have hnew := inOrder_forStudio id studio settings now
  have h : p.InOrder := hnew.run events
  refine ⟨⟨h.counted.places, h.counted.owed, h.counted.live⟩, h.counted.hasPlace,
    h.perform_within, IsQuiet.slots_eq, fun hquiet hguests => ?_⟩
  rw [hquiet.slots_eq, List.countP_eq_length]
  intro s hs
  refine decide_eq_true (forall_own_run hnew (fun s hs => ?_) hguests s ?_)
  · contradiction
  · exact List.mem_append_left _ (List.mem_append_left _ hs)

/-- Two sessions are opened and lent; the pool shrinks to one place, and both come back. -/
def shrunkWhileLent : List PoolEvent :=
  [.acquire 1 0, .dialled 1 0 (.ok 7), .acquire 2 0, .dialled 2 0 (.ok 8), .resize 1 1 1,
    .release 1, .release 2]

/-- While both are lent no place is given out, and in the end one is left. -/
theorem shrunkWhileLent_keeps_capacity :
    ((forStudio 0 ⟨"s", "h", 1, 0, 2, none, false⟩ {} 0).run
      (shrunkWhileLent.take 5)).hasPlace = false ∧
    ((forStudio 0 ⟨"s", "h", 1, 0, 2, none, false⟩ {} 0).run shrunkWhileLent).slots = 1 := by
  have hshrunk := run_keeps_capacity 0 ⟨"s", "h", 1, 0, 2, none, false⟩ {} 0
    (shrunkWhileLent.take 5)
  have hback := run_keeps_capacity 0 ⟨"s", "h", 1, 0, 2, none, false⟩ {} 0 shrunkWhileLent
  exact ⟨hshrunk.2.1 (by decide), hback.2.2.2.2 ⟨rfl, rfl, rfl⟩ (by decide)⟩

end BroadcastLink.Pool
