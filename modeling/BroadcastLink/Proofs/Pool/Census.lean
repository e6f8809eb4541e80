import BroadcastLink.Proofs.Pool.Discretion
import Mathlib.Tactic.Ring

/-!
# The census of a pool's sessions

A pool counts the sessions it ever opened, those it closed for good, and those that are open. An
operation opens one, or closes some of those it can reach; each that it closes through `destroy` or
`clear` moves from the open ones to the closed. What is merely let go is open no more, and is not
counted as closed either. So the census is short by the sessions that were let go, and in a pool
whose callers give back what they borrow those are the ones that a caller had under check when its
time ran out.
-/

namespace BroadcastLink

/-- Which pool it is, and the counts of its sessions. -/
structure Pool.Census where
  id : PoolId
  created : Nat
  destroyed : Nat
  live : Nat

namespace Pool.Census

/-- So many sessions are open no more, and so many are counted as closed. -/
def ending (c : Census) (gone counted : Nat) : Census :=
  { c with destroyed := c.destroyed + counted, live := c.live - gone }

/-- How many of the sessions ever opened are neither open nor counted as closed. -/
def missing (c : Census) : Int := c.created - c.destroyed - c.live

theorem ending_ending (c : Census) (gone counted gone' counted' : Nat) :
    (c.ending gone counted).ending gone' counted' =
      c.ending (gone + gone') (counted + counted') := by
  rw [ending, ending, ending, Nat.add_assoc, Nat.sub_sub]

/-- What ends and is not counted is missing. -/
theorem missing_ending {c : Census} {gone : Nat} (counted : Nat) (h : gone ≤ c.live) :
    (c.ending gone counted).missing = c.missing + (gone - counted) := by
  rw [missing, missing, ending]
  push_cast [Nat.cast_sub h]
  ring

end Pool.Census

/-- Does somebody go off without giving back, or does a session come in that the pool did not
lend? -/
def PoolEvent.isStray : PoolEvent → Bool
  | .cancelBorrow _ | .loseLoan _ | .abandon | .takeGuest _ | .destroyGuest _ => true
  | _ => false

namespace Pool

variable {p q r : Pool} {s : Session} {call : CallId} {most : Nat}

def census (p : Pool) : Census := ⟨p.id, p.created, p.destroyed, p.live⟩

/-- Of the open sessions, at most so many were closed and counted, and that is all. -/
def Retires (p q : Pool) (most : Nat) : Prop := ∃ n ≤ most, q.census = p.census.ending n n

theorem retires_of_same (h : q.census = p.census) : Retires p q most := ⟨0, Nat.zero_le _, h⟩

theorem Retires.trans {fewer : Nat} (h : Retires p q most) (h' : Retires q r fewer) :
    Retires p r (most + fewer) := by
  obtain ⟨m, hm, hq⟩ := h
  obtain ⟨n, hn, hr⟩ := h'
  refine ⟨m + n, Nat.add_le_add hm hn, ?_⟩
  rw [hr, hq, Census.ending_ending]

theorem Retires.id (h : Retires p q most) : q.id = p.id := by
  obtain ⟨n, -, hq⟩ := h
  exact congrArg Census.id hq

/-- None is missing that was not. -/
theorem Retires.missing (h : Retires p q most) (hmost : most ≤ p.live) :
    q.census.missing = p.census.missing := by
  obtain ⟨n, hn, hq⟩ := h
  rw [hq, Census.missing_ending n (Nat.le_trans hn hmost), Int.sub_self, Int.add_zero]

/-! ## Ending sessions -/

theorem census_freePlace (p : Pool) (isOpen : Bool) :
    (p.freePlace isOpen).census = p.census.ending isOpen.toNat 0 := by
  obtain ⟨places, owed, heq⟩ := freePlace_eq p isOpen
  rw [heq]
  rfl

/-- A session of the pool that is let go is not counted. -/
theorem census_discard (hs : s.pool = some p.id) :
    (p.discard s).census = p.census.ending 1 0 := by
  unfold discard
  rw [hs]
  show (if p.id = p.id then (p.ask (.hangUp s.line)).freePlace true else _).census = _
  rw [if_pos rfl]
  exact census_freePlace (p.ask (.hangUp s.line)) true

theorem census_destroy (hs : s.pool = some p.id) :
    (p.destroy s).census = p.census.ending 1 1 := by
  have hgone := census_discard hs
  unfold destroy
  dsimp only
  split <;> exact congrArg (fun c : Census => { c with destroyed := c.destroyed + 1 }) hgone

/-- Sessions of the pool end one after another, each counted so often. -/
theorem census_foldl {close : Pool → Session → Pool} (counted : Nat)
    (hclose : ∀ p s, s.pool = some p.id → (close p s).census = p.census.ending 1 counted)
    {gone : List Session} (hgone : ∀ s ∈ gone, s.pool = some p.id) :
    (gone.foldl close p).census = p.census.ending gone.length (gone.length * counted) := by
  induction gone generalizing p with
  | nil => rw [List.length_nil, Nat.zero_mul]; rfl
  | cons s rest ih =>
    have hfirst := hclose p s (hgone s List.mem_cons_self)
    have hid : (close p s).id = p.id := congrArg Census.id hfirst
    rw [List.foldl_cons, ih fun t ht => hid ▸ hgone t (List.mem_cons_of_mem s ht), hfirst,
      Census.ending_ending, List.length_cons, Nat.succ_mul, Nat.add_comm 1, Nat.add_comm counted]

theorem retires_destroy (hs : s.pool = some p.id) : Retires p (p.destroy s) 1 :=
  ⟨1, Nat.le_refl 1, census_destroy hs⟩

theorem retires_evict (hidle : ∀ s ∈ p.idle, s.pool = some p.id) (now : Instant) :
    Retires p (p.evict now) p.idle.length := by
  have hperm := perm_sift p now p.live p.idle
  have hown : ∀ s ∈ (p.sift now p.live p.idle).2, s.pool = some p.id := fun s hs =>
    hidle s (mem_of_sift p now hs)
  have hgone := census_foldl (p := { p with idle := (p.sift now p.live p.idle).1 }) 1
    (fun _ _ => census_destroy) hown
  rw [Nat.mul_one] at hgone
  refine ⟨(p.sift now p.live p.idle).2.length, ?_, hgone⟩
  rw [← hperm.length_eq, List.length_append]
  exact Nat.le_add_left _ _

theorem retires_clear (hidle : ∀ s ∈ p.idle, s.pool = some p.id) :
    Retires p p.clear p.idle.length := by
  have hgone := census_foldl (p := { p with idle := [] }) 1 (fun p s hs =>
    census_discard (p := { p with destroyed := p.destroyed + 1 }) hs) hidle
  rw [Nat.mul_one] at hgone
  exact ⟨p.idle.length, Nat.le_refl _, hgone⟩

theorem census_abandon (hidle : ∀ s ∈ p.idle, s.pool = some p.id) :
    p.abandon.census = p.census.ending p.idle.length 0 :=
  census_foldl (p := { p with idle := [] }) 0 (fun _ _ => census_discard) hidle

/-! ## Lent sessions -/

theorem retires_takeBack (hs : s.pool = some p.id) : Retires p (p.takeBack s) 1 := by
  unfold takeBack
  split
  · exact retires_destroy hs
  · split
    · exact retires_destroy hs
    · exact retires_of_same rfl

/-! ## Looking for a session -/

theorem census_connectOrPark (p : Pool) (call : CallId) (b : Borrow) (now : Instant) :
    (p.connectOrPark call b now).census = p.census := by
  unfold connectOrPark
  split
  · dsimp only
    split <;> rfl
  · split <;> rfl

/-- A search closes idle sessions that cannot be checked. -/
theorem retires_seekAmong {idle : List Session} (hidle : ∀ s ∈ idle, s.pool = some p.id)
    (call : CallId) (b : Borrow) (now : Instant) :
    Retires p (p.seekAmong call b now idle) idle.length := by
  -- By induction on the idle sessions, as the search goes through them.
  induction idle generalizing p with
  | nil =>
    have hsame := census_connectOrPark ({ p with idle := [] }.enter (.caller call)) call b now
    exact retires_of_same hsame
  | cons s rest ih =>
    rw [seekAmong]
    split
    · exact retires_of_same rfl
    · have hgone : Retires p ((({ p with idle := rest }.enter (.caller call)).destroy s).leave
          (.caller call)) 1 :=
        retires_destroy (p := { p with idle := rest }.enter (.caller call))
          (hidle s List.mem_cons_self)
      have hrest : ∀ t ∈ rest, t.pool = some p.id := fun t ht =>
        hidle t (List.mem_cons_of_mem s ht)
      rw [← hgone.id] at hrest
      rw [List.length_cons, Nat.add_comm]
      exact hgone.trans (ih hrest)

theorem retires_seek (hidle : ∀ s ∈ p.idle, s.pool = some p.id) (call : CallId) (b : Borrow)
    (now : Instant) : Retires p (p.seek call b now) p.idle.length := by
  unfold seek
  split
  · exact retires_of_same rfl
  · exact retires_seekAmong hidle call b now

theorem retires_acquire (hidle : ∀ s ∈ p.idle, s.pool = some p.id) (call : CallId)
    (now : Instant) : Retires p (p.acquire call now) p.idle.length := by
  unfold acquire
  split
  · exact retires_of_same rfl
  · exact retires_seek (p := p.putBorrow call _) hidle call _ now

theorem retires_resume (hidle : ∀ s ∈ p.idle, s.pool = some p.id) (call : CallId)
    (now : Instant) : Retires p (p.resume call now) p.idle.length := by
  unfold resume
  split
  · split
    · exact retires_seek (p := { p with available := p.available.hear (.caller call) }) hidle
        call _ now
    · exact retires_of_same rfl
  · exact retires_of_same rfl

/-! ## Drains and upkeep -/

theorem retires_finishDrain (hidle : ∀ s ∈ p.idle, s.pool = some p.id) (call : CallId) :
    Retires p (p.finishDrain call) p.idle.length :=
  retires_clear (p := { p with drain := none }) hidle

theorem retires_lookForLent (hidle : ∀ s ∈ p.idle, s.pool = some p.id) (d : Drain)
    (now : Instant) : Retires p (p.lookForLent d now) p.idle.length := by
  unfold lookForLent
  dsimp only
  split
  · exact retires_finishDrain (p := (p.enter .drainer).leave .drainer) hidle d.call
  · exact retires_of_same rfl

theorem retires_startDrain (hidle : ∀ s ∈ p.idle, s.pool = some p.id) (call : CallId)
    (now : Instant) : Retires p (p.startDrain call now) p.idle.length := by
  unfold startDrain
  split
  · exact retires_of_same rfl
  · exact retires_lookForLent (p := ({ p with isClosed := true }.ask .wakeUpkeep).tellAll) hidle _
      now

theorem retires_resumeDrain (hidle : ∀ s ∈ p.idle, s.pool = some p.id) (now : Instant) :
    Retires p (p.resumeDrain now) p.idle.length := by
  unfold resumeDrain
  split
  · split
    · exact retires_lookForLent (p := { p with available := p.available.hear .drainer }) hidle _ now
    · split
      · exact retires_lookForLent (p := p.leave .drainer) hidle _ now
      · exact retires_of_same rfl
  · exact retires_of_same rfl

theorem retires_drainExpired (hidle : ∀ s ∈ p.idle, s.pool = some p.id) (now : Instant) :
    Retires p (p.drainExpired now) p.idle.length := by
  unfold drainExpired
  split
  · split
    · exact retires_finishDrain (p := p.leave .drainer) hidle _
    · exact retires_of_same rfl
  · exact retires_of_same rfl

theorem census_cancelDrain (p : Pool) (call : CallId) : (p.cancelDrain call).census = p.census := by
  unfold cancelDrain
  split
  · split <;> rfl
  · rfl

theorem census_fill (p : Pool) (now : Instant) : (p.fill now).census = p.census := by
  unfold fill
  split <;> rfl

theorem retires_round (hidle : ∀ s ∈ p.idle, s.pool = some p.id) (u : Upkeep) (now : Instant) :
    Retires p (({ p with upkeep := u }.evict now).fill now) p.idle.length := by
  obtain ⟨n, hn, hgone⟩ := retires_evict (p := { p with upkeep := u }) hidle now
  exact ⟨n, hn, (census_fill _ now).trans hgone⟩

theorem retires_tend (hidle : ∀ s ∈ p.idle, s.pool = some p.id) (now : Instant) :
    Retires p (p.tend now) p.idle.length := by
  unfold tend
  split
  · split
    · exact retires_of_same rfl
    · split
      · exact retires_round hidle _ now
      · split
        · exact retires_round hidle _ now
        · exact retires_of_same rfl
  · exact retires_of_same rfl

theorem retires_resize (hidle : ∀ s ∈ p.idle, s.pool = some p.id) (min max : Nat)
    (now : Instant) : Retires p (p.resize min max now) p.idle.length := by
  unfold resize
  dsimp only
  split
  · exact retires_of_same rfl
  · split
    · exact retires_evict (p := { p with
        min := Nat.min min (Nat.max max 1)
        max := Nat.max max 1
        places := _
        owed := _ }) hidle now
    · exact retires_of_same rfl

/-! ## What is missing after an event -/

/-- All sessions are the pool's own, and counted as open. -/
structure Enumerated (p : Pool) : Prop where
  own : p.Own
  live : p.live = p.sessions.length

namespace Enumerated

theorem idle (h : p.Enumerated) : ∀ s ∈ p.idle, s.pool = some p.id := fun s hs =>
  h.own s (List.mem_append_left _ (List.mem_append_left _ hs))

theorem idle_le (h : p.Enumerated) : p.idle.length ≤ p.live := by
  rw [h.live, sessions, List.length_append, List.length_append]
  omega

theorem checking_le (h : p.Enumerated) {deadline : Instant} {counts : Bool}
    (hb : p.borrows.get? call = some ⟨.checking s, deadline, counts⟩) :
    1 + p.idle.length ≤ p.live := by
  have hmem : s ∈ p.borrows.values.filterMap (·.stage.session?) :=
    List.mem_filterMap.mpr ⟨_, Roster.mem_values_of_get? hb, rfl⟩
  have hpos := List.length_pos_of_mem hmem
  rw [h.live, sessions, List.length_append, List.length_append]
  omega

theorem loan_le (h : p.Enumerated) (hloan : p.loans.get? call = some s) :
    1 + p.idle.length ≤ p.live := by
  have hpos := List.length_pos_of_mem (Roster.mem_values_of_get? hloan)
  rw [h.live, sessions, List.length_append, List.length_append]
  omega

theorem checking (h : p.Enumerated) {deadline : Instant} {counts : Bool}
    (hb : p.borrows.get? call = some ⟨.checking s, deadline, counts⟩) : s.pool = some p.id := by
  refine h.own s (List.mem_append_left _ (List.mem_append_right _ ?_))
  exact List.mem_filterMap.mpr ⟨_, Roster.mem_values_of_get? hb, rfl⟩

theorem loan (h : p.Enumerated) (hloan : p.loans.get? call = some s) : s.pool = some p.id :=
  h.own s (List.mem_append_right _ (Roster.mem_values_of_get? hloan))

end Enumerated

/-- How many sessions a caller has under check. -/
def underCheck (p : Pool) (call : CallId) : Nat :=
  match p.borrows.get? call with
  | some b => b.stage.session?.isSome.toNat
  | none => 0

/-- How many sessions an event lets go without closing them: that of a caller who is given up or
whose time runs out while it checks, a loan that is lost, the idle ones of a pool given up. -/
def uncounted (p : Pool) : PoolEvent → Nat
  | .borrowExpired call now =>
    match p.borrows.get? call with
    | some b => if b.deadline ≤ now then p.underCheck call else 0
    | none => 0
  | .cancelBorrow call => p.underCheck call
  | .loseLoan call => (p.loans.get? call).isSome.toNat
  | .abandon => p.idle.length
  | _ => 0

theorem missing_noteOpened (p : Pool) : p.noteOpened.census.missing = p.census.missing := by
  show ((p.created + 1 : Nat) : Int) - p.destroyed - ((p.live + 1 : Nat) : Int) =
    (p.created : Int) - p.destroyed - p.live
  push_cast
  ring

theorem missing_hearCheck (h : p.Enumerated) (call : CallId) (now : Instant)
    (stimulus : Stimulus) :
    (p.hearCheck call now stimulus).census.missing = p.census.missing := by
  unfold hearCheck
  split
  · rename_i s deadline counts hb
    have hlater := Session.later_react s now stimulus
    dsimp only
    split
    · rfl
    · rfl
    · -- The session is closed, and the caller looks among the idle ones again.
      rename_i s' fault hreact
      rw [hreact] at hlater
      have hgone : Retires p ((p.destroy s').leave (.caller call)) 1 :=
        retires_destroy (hlater.pool.trans (h.checking hb))
      have hidle : ∀ t ∈ ((p.destroy s').leave (.caller call)).idle,
          t.pool = some ((p.destroy s').leave (.caller call)).id := by
        intro t ht
        rw [hgone.id]
        exact h.idle t (idle_destroy p s' ▸ ht)
      refine (hgone.trans (retires_seek hidle call _ now)).missing ?_
      show 1 + (p.destroy s').idle.length ≤ p.live
      rw [idle_destroy]
      exact h.checking_le hb
  · rfl

theorem missing_dialled (h : p.Enumerated) (call : CallId) (now : Instant)
    (outcome : Except IoFault LineId) :
    (p.dialled call now outcome).census.missing = p.census.missing := by
  unfold dialled
  split
  · split
    · exact missing_noteOpened p
    · rename_i id due deadline counts hb _ fault
      have hfreed : Retires p (((p.noteFailure now).freePlace false).leave (.caller call)) 0 :=
        retires_of_same (census_freePlace (p.noteFailure now) false)
      have hidle : (((p.noteFailure now).freePlace false).leave (.caller call)).idle = p.idle :=
        idle_freePlace (p.noteFailure now) false
      have hseek := retires_seek (p := ((p.noteFailure now).freePlace false).leave (.caller call))
        (fun t ht => hfreed.id ▸ h.idle t (hidle ▸ ht)) call ⟨.parked, deadline, counts⟩ now
      rw [hidle] at hseek
      refine (hfreed.trans hseek).missing ?_
      rw [Nat.zero_add]
      exact h.idle_le
  · rfl

theorem missing_stageExpired (h : p.Enumerated) (call : CallId) (now : Instant) :
    (p.stageExpired call now).census.missing = p.census.missing := by
  unfold stageExpired
  split
  · exact missing_hearCheck h call now .expired
  · unfold rested
    split
    · split <;> rfl
    · rfl
  · split
    · exact missing_dialled h call now _
    · rfl
  · rfl

theorem missing_cancelBorrow (h : p.Enumerated) (call : CallId) :
    (p.cancelBorrow call).census.missing = p.census.missing + p.underCheck call := by
  rw [cancelBorrow, underCheck]
  cases hb : p.borrows.get? call with
  | none => exact (Int.add_zero _).symm
  | some b =>
    obtain ⟨stage, deadline, counts⟩ := b
    cases stage with
    | checking s =>
      have hgone : ((p.discard s).endBorrow call).census = p.census.ending 1 0 :=
        census_discard (h.checking hb)
      show ((p.discard s).endBorrow call).census.missing = _
      rw [hgone, Census.missing_ending 0 (Nat.le_trans (Nat.le_add_right _ _) (h.checking_le hb))]
      rfl
    | resting | dialling =>
      have hfreed : ((p.freePlace false).endBorrow call).census = p.census :=
        census_freePlace p false
      show ((p.freePlace false).endBorrow call).census.missing = _
      rw [hfreed]
      exact (Int.add_zero _).symm
    | parked => exact (Int.add_zero _).symm

theorem missing_borrowExpired (h : p.Enumerated) (call : CallId) (now : Instant) :
    (p.borrowExpired call now).census.missing =
      p.census.missing + p.uncounted (.borrowExpired call now) := by
  rw [borrowExpired, uncounted]
  cases p.borrows.get? call with
  | none => exact (Int.add_zero _).symm
  | some b =>
    dsimp only
    split
    · exact missing_cancelBorrow h call
    · exact (Int.add_zero _).symm

theorem missing_upkeepDialled (p : Pool) (now : Instant) (outcome : Except IoFault LineId) :
    (p.upkeepDialled now outcome).census.missing = p.census.missing := by
  unfold upkeepDialled
  split
  · split
    · dsimp only
      rw [census_fill]
      exact missing_noteOpened p
    · exact congrArg Census.missing (census_freePlace (p.noteFailure now) false)
  · rfl

theorem missing_loseLoan (h : p.Enumerated) (call : CallId) :
    (p.loseLoan call).census.missing =
      p.census.missing + p.uncounted (.loseLoan call) := by
  rw [loseLoan, uncounted]
  cases hloan : p.loans.get? call with
  | none => exact (Int.add_zero _).symm
  | some s =>
    have hgone : ((p.endLoan call).discard s).census = p.census.ending 1 0 :=
      census_discard (p := p.endLoan call) (h.loan hloan)
    show ((p.endLoan call).discard s).census.missing = _
    rw [hgone, Census.missing_ending 0 (Nat.le_trans (Nat.le_add_right _ _) (h.loan_le hloan))]
    rfl

/-- Any other event leaves none missing that was not. -/
theorem missing_perform_same (h : p.Enumerated) {event : PoolEvent} (hstray : event.isStray = false)
    (htime : ∀ call now, event ≠ .borrowExpired call now) :
    (p.perform event).census.missing = p.census.missing := by
  cases event with
  | cancelBorrow | loseLoan | abandon | takeGuest | destroyGuest => contradiction
  | borrowExpired call now => exact absurd rfl (htime call now)
  | acquire call now =>
    rw [perform]
    split
    · exact (retires_acquire h.idle call now).missing h.idle_le
    · rfl
  | hearCheck call now stimulus => exact missing_hearCheck h call now stimulus
  | rested call now =>
    rw [perform, rested]
    split
    · split <;> rfl
    · rfl
  | dialled call now outcome => exact missing_dialled h call now outcome
  | resume call now => exact (retires_resume h.idle call now).missing h.idle_le
  | stageExpired call now => exact missing_stageExpired h call now
  | sendOn call | checkOn call =>
    rw [perform, beginOn]
    split
    · split <;> rfl
    · rfl
  | hearLoan call now stimulus =>
    rw [perform, hearLoan]
    split <;> rfl
  | abandonLoan call =>
    rw [perform, abandonLoan]
    split <;> rfl
  | invalidateLoan call =>
    rw [perform, invalidateLoan]
    split <;> rfl
  | release call =>
    rw [perform, release]
    split
    · rename_i s hloan
      have hback := retires_takeBack (p := p.endLoan call) (h.loan hloan)
      exact hback.missing (Nat.le_trans (Nat.le_add_right _ _) (h.loan_le hloan))
    · rfl
  | destroyLoan call =>
    rw [perform, destroyLoan]
    split
    · rename_i s hloan
      have hgone := retires_destroy (p := p.endLoan call) (h.loan hloan)
      exact hgone.missing (Nat.le_trans (Nat.le_add_right _ _) (h.loan_le hloan))
    · rfl
  | resize min max now => exact (retires_resize h.idle min max now).missing h.idle_le
  | clear => exact (retires_clear h.idle).missing h.idle_le
  | tend now => exact (retires_tend h.idle now).missing h.idle_le
  | upkeepDialled now outcome => exact missing_upkeepDialled p now outcome
  | upkeepExpired now =>
    rw [perform, upkeepExpired]
    split
    · split
      · exact missing_upkeepDialled p now _
      · rfl
    · rfl
  | startDrain call now => exact (retires_startDrain h.idle call now).missing h.idle_le
  | resumeDrain now => exact (retires_resumeDrain h.idle now).missing h.idle_le
  | drainExpired now => exact (retires_drainExpired h.idle now).missing h.idle_le
  | cancelDrain call => exact congrArg Census.missing (census_cancelDrain p call)
  | settled => rfl

/-- An event to which no guest comes leaves as many more missing as it lets go uncounted. -/
theorem missing_perform (h : p.Enumerated) {event : PoolEvent} (hguest : event.guest? = none) :
    (p.perform event).census.missing = p.census.missing + p.uncounted event := by
  cases event with
  | takeGuest | destroyGuest => contradiction
  | borrowExpired call now => exact missing_borrowExpired h call now
  | cancelBorrow call => exact missing_cancelBorrow h call
  | loseLoan call => exact missing_loseLoan h call
  | abandon =>
    rw [perform, census_abandon h.idle, Census.missing_ending 0 h.idle_le]
    exact congrArg (p.census.missing + ·) (Int.sub_zero _)
  | _ =>
    rw [missing_perform_same h rfl (by intros; exact PoolEvent.noConfusion)]
    exact (Int.add_zero _).symm

/-! ## Whole runs -/

/-- How many sessions the events let go uncounted, one event after another. -/
def uncountedIn : Pool → List PoolEvent → Nat
  | _, [] => 0
  | p, event :: events => p.uncounted event + (p.perform event).uncountedIn events

/-- The time of a caller has run out while it has a session under check. -/
def TimesOutChecking (p : Pool) (call : CallId) (now : Instant) : Prop :=
  ∃ s deadline counts,
    p.borrows.get? call = some ⟨.checking s, deadline, counts⟩ ∧ deadline ≤ now

theorem InOrder.enumerated (h : p.InOrder) (hown : p.Own) : p.Enumerated := by
  refine ⟨hown, h.counted.live.trans ?_⟩
  exact List.countP_eq_length.mpr fun s hs => decide_eq_true (hown s hs)

/-- Without guests, what is missing in the end was let go on the way. -/
theorem missing_run (h : p.InOrder) (hown : p.Own) {events : List PoolEvent}
    (hguests : ∀ event ∈ events, event.guest? = none) :
    (p.run events).census.missing = p.census.missing + p.uncountedIn events := by
  induction events generalizing p with
  | nil => exact (Int.add_zero _).symm
  | cons event events ih =>
    have hguest := hguests event List.mem_cons_self
    have hguestless : ∀ e ∈ [event], ∀ s ∈ e.guest?, s.pool = none := by
      intro e he s hs
      obtain rfl := List.mem_singleton.mp he
      rw [hguest] at hs
      contradiction
    have hnext : (p.perform event).Own := forall_own_run h hown hguestless
    have hrest := ih (h.perform event) hnext fun e he => hguests e (List.mem_cons_of_mem event he)
    have hfirst := missing_perform (h.enumerated hown) hguest
    rw [show p.run (event :: events) = (p.perform event).run events from rfl, hrest, hfirst,
      uncountedIn, Nat.cast_add, Int.add_assoc]

theorem uncountedIn_eq_zero_iff {events : List PoolEvent} :
    p.uncountedIn events = 0 ↔
      ∀ before event after, events = before ++ event :: after →
        (p.run before).uncounted event = 0 := by
  induction events generalizing p with
  | nil => exact ⟨fun _ before _ _ h => by simp at h, fun _ => rfl⟩
  | cons first events ih =>
    rw [uncountedIn, Nat.add_eq_zero_iff, ih]
    constructor
    · rintro ⟨hfirst, hrest⟩ before event after hsplit
      cases before with
      | nil =>
        obtain ⟨rfl, -⟩ := List.cons.inj hsplit
        exact hfirst
      | cons e before =>
        obtain ⟨rfl, hbehind⟩ := List.cons.inj hsplit
        exact hrest before event after hbehind
    · intro h
      refine ⟨h [] first events rfl, fun before event after hsplit => ?_⟩
      exact h (first :: before) event after (congrArg (first :: ·) hsplit)

/-- The time of a caller that runs out lets a session go if the caller had one under check. -/
theorem uncounted_borrowExpired_eq_zero_iff (p : Pool) (call : CallId) (now : Instant) :
    p.uncounted (.borrowExpired call now) = 0 ↔ ¬ p.TimesOutChecking call now := by
  rw [uncounted, underCheck, TimesOutChecking]
  cases p.borrows.get? call with
  | none => simp
  | some b =>
    obtain ⟨stage, deadline, counts⟩ := b
    by_cases hdue : deadline ≤ now
    · cases stage <;> simp [hdue, BorrowStage.session?]
    · simp [hdue]

/-- Where nobody strays, nothing else does. -/
theorem uncounted_of_not_stray {event : PoolEvent} (hstray : event.isStray = false)
    (htime : ∀ call now, event ≠ .borrowExpired call now) : p.uncounted event = 0 := by
  cases event with
  | cancelBorrow | loseLoan | abandon | takeGuest | destroyGuest => contradiction
  | borrowExpired call now => exact absurd rfl (htime call now)
  | _ => rfl

/-- The counters of a pool's sessions balance but for the sessions that were let go. After any
events in which no session comes in from outside, those ever opened are those closed, those open and
those let go uncounted. If besides everybody gives back what was lent and nobody is given up, the
counters balance exactly when no caller ever timed out while it had a session under check. -/
theorem run_balances_iff (id : PoolId) (studio : Studio) (settings : PoolSettings) (now : Instant)
    (events : List PoolEvent) (hguests : ∀ event ∈ events, event.guest? = none) :
    let new := forStudio id studio settings now
    let p := new.run events
    p.stats.created = p.stats.destroyed + p.stats.size + new.uncountedIn events ∧
    ((∀ event ∈ events, event.isStray = false) →
      (p.stats.created = p.stats.destroyed + p.stats.size ↔
        ∀ before call now after, events = before ++ .borrowExpired call now :: after →
          ¬ (new.run before).TimesOutChecking call now)) := by
  intro new p
  have hmissing : p.census.missing = 0 + new.uncountedIn events :=
    missing_run (inOrder_forStudio id studio settings now) (fun s hs => by contradiction) hguests
  have hcount : p.created = p.destroyed + p.live + new.uncountedIn events := by
    have : (p.created : Int) - p.destroyed - p.live = 0 + new.uncountedIn events := hmissing
    omega
  refine ⟨hcount, fun hstray => ?_⟩
  have hbalance : p.created = p.destroyed + p.live ↔ new.uncountedIn events = 0 := by omega
  rw [show p.stats.created = p.stats.destroyed + p.stats.size ↔ new.uncountedIn events = 0
    from hbalance, uncountedIn_eq_zero_iff]
  constructor
  · intro h before call now after hsplit
    exact (uncounted_borrowExpired_eq_zero_iff _ call now).mp (h before _ after hsplit)
  · intro h before event after hsplit
    have hevent := hstray event (hsplit ▸ List.mem_append_right before List.mem_cons_self)
    by_cases htime : ∃ call now, event = .borrowExpired call now
    · obtain ⟨call, now, rfl⟩ := htime
      exact (uncounted_borrowExpired_eq_zero_iff _ call now).mpr (h before call now after hsplit)
    · exact uncounted_of_not_stray hevent fun call now heq => htime ⟨call, now, heq⟩

/-- A session is lent, given back and checked for the next caller; it does not pass, and the one
that takes its place is destroyed. -/
def checkedAndReplaced : List PoolEvent :=
  [.acquire 1 0, .dialled 1 0 (.ok 7), .release 1, .acquire 2 1, .hearCheck 2 1 (.accepted 1),
    .hearCheck 2 1 .flushed, .hearCheck 2 2 .ended, .dialled 2 3 (.ok 8), .destroyLoan 2]

theorem checkedAndReplaced_balances :
    (∀ event ∈ checkedAndReplaced, event.guest? = none) ∧
    ((forStudio 0 ⟨"s", "h", 1, 0, 2, none, false⟩ {} 0).run checkedAndReplaced).stats.created =
      ((forStudio 0 ⟨"s", "h", 1, 0, 2, none, false⟩ {} 0).run checkedAndReplaced).stats.destroyed +
        ((forStudio 0 ⟨"s", "h", 1, 0, 2, none, false⟩ {} 0).run
          checkedAndReplaced).stats.size := by
  have hguests : ∀ event ∈ checkedAndReplaced, event.guest? = none := by decide
  refine ⟨hguests, ((run_balances_iff 0 ⟨"s", "h", 1, 0, 2, none, false⟩ {} 0 checkedAndReplaced
    hguests).2 (by decide)).mpr ?_⟩
  intro before call now after hsplit
  have hmem : PoolEvent.borrowExpired call now ∈ checkedAndReplaced :=
    hsplit ▸ List.mem_append_right before List.mem_cons_self
  simp [checkedAndReplaced] at hmem

/-- A session that was given back is checked for the next caller, whose time runs out before the
answer comes. -/
def checkedTooLong : List PoolEvent :=
  [.tend 0, .acquire 1 0, .dialled 1 0 (.ok 7), .release 1, .acquire 2 0,
    .hearCheck 2 0 (.accepted 1), .hearCheck 2 0 .flushed, .borrowExpired 2 100]

/-- Nobody looks for a session or has one, and nothing is left to do; but one session was opened,
none was closed, and none is open. -/
theorem checkedTooLong_loses_count :
    let p := (forStudio 0 ⟨"s", "h", 1, 0, 2, none, false⟩
      { acquireTimeout := ⟨100⟩ } 0).run checkedTooLong
    p.borrows.values = [] ∧ p.loans.values = [] ∧ p.needsUpkeep 100 = false ∧
      p.stats.created = 1 ∧ p.stats.destroyed = 0 ∧ p.stats.size = 0 := by
  decide

end Pool

end BroadcastLink
