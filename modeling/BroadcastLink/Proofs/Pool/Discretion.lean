import BroadcastLink.Proofs.Pool.Closing
import BroadcastLink.Proofs.Pool.Lending

/-!
# What a pool keeps to itself

A pool stays the pool of its studio, with the settings it was made with. Most of what it asks for is
its own affair. Two things are not: a place that comes free in another pool, which it asks for only
when it closes a session of that pool, and the end of a drain, which only a drain brings about.
-/

namespace BroadcastLink

/-- Does it concern neither another pool nor the end of a drain? -/
def PoolAct.isOwn : PoolAct → Bool
  | .freeIn _ | .drained _ => false
  | _ => true

/-- Which pool it is, and what it asks for. -/
structure Pool.Bearing where
  id : PoolId
  studio : String
  settings : PoolSettings
  acts : List PoolAct

/-- It stays the pool it was, and what it newly asks for is its own affair. -/
structure Pool.Bearing.KeptBy (a b : Bearing) : Prop where
  id : b.id = a.id
  studio : b.studio = a.studio
  settings : b.settings = a.settings
  acts : ∀ act ∈ b.acts, act ∈ a.acts ∨ act.isOwn = true

namespace Pool

variable {p q r : Pool} {call : CallId} {now : Instant} {s : Session}

def bearing (p : Pool) : Bearing := ⟨p.id, p.studio, p.settings, p.acts⟩

/-- A pool stays what it was, and what it newly asks for is its own affair. -/
def Discreet (p q : Pool) : Prop := p.bearing.KeptBy q.bearing

/-- The place that a session takes up, if it takes up one, is the pool's. -/
def Closes (p : Pool) (s : Session) : Prop := ∀ id, s.pool = some id → id = p.id

/-- All sessions are the pool's own. -/
def Own (p : Pool) : Prop := ∀ s ∈ p.sessions, s.pool = some p.id

namespace Discreet

/-- Nothing was asked for. -/
theorem of_same (h : q.bearing = p.bearing) : Discreet p q := by
  rw [Discreet, h]
  exact ⟨rfl, rfl, rfl, fun _ hact => .inl hact⟩

theorem refl (p : Pool) : Discreet p p := .of_same rfl

theorem trans (h : Discreet p q) (h' : Discreet q r) : Discreet p r := by
  refine ⟨h'.id.trans h.id, h'.studio.trans h.studio, h'.settings.trans h.settings, ?_⟩
  intro act hact
  rcases h'.acts act hact with hbefore | hown
  · exact h.acts act hbefore
  · exact .inr hown

/-- What asks for nothing may come first. -/
theorem after (h : Discreet q r) (hsame : q.bearing = p.bearing) : Discreet p r :=
  (of_same hsame).trans h

theorem closes (h : Discreet p q) (hs : p.Closes s) : q.Closes s := by
  intro id hid
  exact (hs id hid).trans h.id.symm

end Discreet

/-! ## Whose sessions -/

theorem closes_of_pool (h : s.pool = some p.id) : p.Closes s := by
  intro id hid
  rw [h] at hid
  exact (Option.some.inj hid).symm

/-- A session that takes up no place concerns no pool. -/
theorem closes_of_none (h : s.pool = none) : p.Closes s := by
  intro id hid
  rw [h] at hid
  contradiction

theorem Closes.later {s' : Session} (h : p.Closes s) (hlater : s.Later s') : p.Closes s' := by
  intro id hid
  rw [hlater.pool] at hid
  exact h id hid

namespace Own

theorem idle (h : p.Own) : ∀ s ∈ p.idle, p.Closes s := fun s hs =>
  closes_of_pool (h s (List.mem_append_left _ (List.mem_append_left _ hs)))

theorem checking (h : p.Own) {deadline : Instant} {counts : Bool}
    (hb : p.borrows.get? call = some ⟨.checking s, deadline, counts⟩) : p.Closes s := by
  refine closes_of_pool (h s (List.mem_append_left _ (List.mem_append_right _ ?_)))
  exact List.mem_filterMap.mpr ⟨_, Roster.mem_values_of_get? hb, rfl⟩

theorem loan (h : p.Own) (hloan : p.loans.get? call = some s) : p.Closes s :=
  closes_of_pool (h s (List.mem_append_right _ (Roster.mem_values_of_get? hloan)))

end Own

/-! ## Small steps -/

theorem discreet_ask (p : Pool) {act : PoolAct} (h : act.isOwn = true) :
    Discreet p (p.ask act) := by
  refine ⟨rfl, rfl, rfl, fun a ha => ?_⟩
  rcases List.mem_append.mp ha with hold | hnew
  · exact .inl hold
  · exact .inr (List.mem_singleton.mp hnew ▸ h)

theorem discreet_wakeAll (p : Pool) (told : List Waiter) : Discreet p (p.wakeAll told) := by
  refine ⟨rfl, rfl, rfl, fun a ha => ?_⟩
  rcases List.mem_append.mp ha with hold | hnew
  · exact .inl hold
  · obtain ⟨waiter, -, rfl⟩ := List.mem_map.mp hnew
    exact .inr rfl

theorem discreet_tellOne (p : Pool) : Discreet p p.tellOne :=
  discreet_wakeAll { p with available := p.available.tellOne.1 } _

theorem discreet_tellAll (p : Pool) : Discreet p p.tellAll :=
  discreet_wakeAll { p with available := p.available.tellAll.1 } _

theorem discreet_leave (p : Pool) (w : Waiter) : Discreet p (p.leave w) :=
  discreet_wakeAll { p with available := (p.available.leave w).1 } _

theorem discreet_freePlace (p : Pool) (isOpen : Bool) : Discreet p (p.freePlace isOpen) := by
  obtain ⟨places, owed, heq⟩ := freePlace_eq p isOpen
  rw [heq]
  exact (discreet_tellOne _).after rfl

theorem discreet_askUpkeep (p : Pool) : Discreet p p.askUpkeep :=
  discreet_ask { p with upkeep := p.upkeep.ask } rfl

/-! ## Closing sessions -/

theorem discreet_discard (hs : p.Closes s) : Discreet p (p.discard s) := by
  have hasked : Discreet p (p.ask (.hangUp s.line)) := discreet_ask p rfl
  unfold discard
  dsimp only
  split
  · exact hasked
  · rename_i id hid
    split
    · exact hasked.trans (discreet_freePlace _ true)
    · rename_i hne
      exact absurd (hs id hid) hne

theorem discreet_destroy (hs : p.Closes s) : Discreet p (p.destroy s) := by
  have hgone := discreet_discard hs
  unfold destroy
  dsimp only
  split
  · exact hgone
  · exact hgone.trans (discreet_askUpkeep _)

theorem discreet_foldl {close : Pool → Session → Pool}
    (hclose : ∀ p s, p.Closes s → Discreet p (close p s)) {gone : List Session}
    (hgone : ∀ s ∈ gone, p.Closes s) : Discreet p (gone.foldl close p) := by
  induction gone generalizing p with
  | nil => exact .refl p
  | cons s rest ih =>
    have hfirst := hclose p s (hgone s List.mem_cons_self)
    exact hfirst.trans (ih fun t ht => hfirst.closes (hgone t (List.mem_cons_of_mem s ht)))

theorem discreet_clear (h : ∀ s ∈ p.idle, p.Closes s) : Discreet p p.clear := by
  refine Discreet.after (q := { p with idle := [] }) ?_ rfl
  exact discreet_foldl
    (fun p s hs => discreet_discard (p := { p with destroyed := p.destroyed + 1 }) hs) h

theorem discreet_abandon (h : ∀ s ∈ p.idle, p.Closes s) : Discreet p p.abandon :=
  discreet_foldl (p := { p with idle := [] }) (fun _ _ => discreet_discard) h

theorem mem_of_sift (p : Pool) (now : Instant) {live : Nat} {idle : List Session}
    (h : s ∈ (p.sift now live idle).2) : s ∈ idle := by
  induction idle generalizing live with
  | nil => simp [sift] at h
  | cons t rest ih =>
    rw [sift] at h
    dsimp only at h
    split at h
    · rcases List.mem_cons.mp h with rfl | hrest
      · exact List.mem_cons_self
      · exact List.mem_cons_of_mem t (ih hrest)
    · exact List.mem_cons_of_mem t (ih h)

theorem discreet_evict (h : ∀ s ∈ p.idle, p.Closes s) (now : Instant) :
    Discreet p (p.evict now) :=
  discreet_foldl (p := { p with idle := (p.sift now p.live p.idle).1 })
    (fun _ _ => discreet_destroy) fun s hs => h s (mem_of_sift p now hs)

/-! ## Loans -/

theorem discreet_takeBack (hs : p.Closes s) : Discreet p (p.takeBack s) := by
  unfold takeBack
  split
  · exact discreet_destroy hs
  · split
    · exact discreet_destroy hs
    · exact discreet_tellOne { p with idle := p.idle ++ [s] }

theorem discreet_release (h : p.Own) (call : CallId) : Discreet p (p.release call) := by
  unfold release
  split
  · rename_i hloan
    exact discreet_takeBack (p := p.endLoan call) (h.loan hloan)
  · exact .refl p

theorem discreet_destroyLoan (h : p.Own) (call : CallId) : Discreet p (p.destroyLoan call) := by
  unfold destroyLoan
  split
  · rename_i hloan
    exact discreet_destroy (p := p.endLoan call) (h.loan hloan)
  · exact .refl p

theorem discreet_loseLoan (h : p.Own) (call : CallId) : Discreet p (p.loseLoan call) := by
  unfold loseLoan
  split
  · rename_i hloan
    exact discreet_discard (p := p.endLoan call) (h.loan hloan)
  · exact .refl p

theorem discreet_beginOn (p : Pool) (call : CallId) (begin : Session → Begun) :
    Discreet p (p.beginOn call begin).1 := by
  unfold beginOn
  split
  · split <;> exact .of_same rfl
  · exact .refl p

theorem discreet_hearLoan (p : Pool) (call : CallId) (now : Instant) (stimulus : Stimulus) :
    Discreet p (p.hearLoan call now stimulus).1 := by
  unfold hearLoan
  split <;> exact .of_same rfl

theorem discreet_abandonLoan (p : Pool) (call : CallId) : Discreet p (p.abandonLoan call) := by
  unfold abandonLoan
  split <;> exact .of_same rfl

theorem discreet_invalidateLoan (p : Pool) (call : CallId) :
    Discreet p (p.invalidateLoan call) := by
  unfold invalidateLoan
  split <;> exact .of_same rfl

/-! ## Callers -/

theorem discreet_endBorrow (p : Pool) (call : CallId) : Discreet p (p.endBorrow call) :=
  discreet_leave p (.caller call)

theorem discreet_refuse (p : Pool) (call : CallId) (fault : Fault) :
    Discreet p (p.refuse call fault) :=
  (discreet_endBorrow p call).trans (discreet_ask _ rfl)

theorem discreet_lend (p : Pool) (call : CallId) (s : Session) : Discreet p (p.lend call s) := by
  have hput : Discreet p { p.endBorrow call with loans := (p.endBorrow call).loans.put call s } :=
    discreet_endBorrow p call
  exact hput.trans (discreet_ask _ rfl)

theorem discreet_connectOrPark (p : Pool) (call : CallId) (b : Borrow) (now : Instant) :
    Discreet p (p.connectOrPark call b now) := by
  unfold connectOrPark
  split
  · dsimp only
    split <;> exact .of_same rfl
  · split
    · exact discreet_refuse p call _
    · exact .of_same rfl

theorem discreet_seekAmong {idle : List Session} (h : ∀ s ∈ idle, p.Closes s) (call : CallId)
    (b : Borrow) (now : Instant) : Discreet p (p.seekAmong call b now idle) := by
  -- By induction on the idle sessions, as the search goes through them.
  induction idle generalizing p with
  | nil => exact (discreet_connectOrPark _ call b now).after rfl
  | cons s rest ih =>
    rw [seekAmong]
    split
    · exact .of_same rfl
    · have hentered : Discreet p ({ p with idle := rest }.enter (.caller call)) :=
        .of_same rfl
      have hs := hentered.closes (h s List.mem_cons_self)
      have hgone := hentered.trans ((discreet_destroy hs).trans (discreet_leave _ (.caller call)))
      exact hgone.trans (ih fun t ht => hgone.closes (h t (List.mem_cons_of_mem s ht)))

theorem discreet_seek (h : ∀ s ∈ p.idle, p.Closes s) (call : CallId) (b : Borrow)
    (now : Instant) : Discreet p (p.seek call b now) := by
  unfold seek
  split
  · exact discreet_refuse p call _
  · exact discreet_seekAmong h call b now

theorem discreet_acquire (h : p.Own) (call : CallId) (now : Instant) :
    Discreet p (p.acquire call now) := by
  unfold acquire
  split
  · exact discreet_ask p rfl
  · exact (discreet_seek (p := p.putBorrow call _) h.idle call _ now).after rfl

/-- A caller closes the session it had in hand, and gets out of line to look again. -/
theorem discreet_seek_after (h : p.Own) (hs : p.Closes s) (call : CallId) (b : Borrow)
    (now : Instant) : Discreet p (((p.destroy s).leave (.caller call)).seek call b now) := by
  have hgone := (discreet_destroy hs).trans (discreet_leave _ (.caller call))
  refine hgone.trans (discreet_seek (fun t ht => hgone.closes ?_) call b now)
  exact h.idle t (idle_destroy p s ▸ ht)

theorem discreet_hearCheck (h : p.Own) (call : CallId) (now : Instant) (stimulus : Stimulus) :
    Discreet p (p.hearCheck call now stimulus) := by
  unfold hearCheck
  split
  · rename_i s deadline counts hb
    have hs := (h.checking hb).later (Session.later_react s now stimulus)
    dsimp only
    split
    · exact .of_same rfl
    · exact discreet_lend p call _
    · rename_i hreact
      rw [hreact] at hs
      exact discreet_seek_after h hs call _ now
  · exact .refl p

theorem discreet_rested (p : Pool) (call : CallId) (now : Instant) :
    Discreet p (p.rested call now) := by
  unfold rested
  split
  · split <;> exact .of_same rfl
  · exact .refl p

theorem discreet_dialled (h : p.Own) (call : CallId) (now : Instant)
    (outcome : Except IoFault LineId) : Discreet p (p.dialled call now outcome) := by
  unfold dialled
  split
  · split
    · exact (discreet_lend p.noteOpened call _).after rfl
    · have hfreed : Discreet p (((p.noteFailure now).freePlace false).leave (.caller call)) :=
        (discreet_freePlace (p.noteFailure now) false).trans (discreet_leave _ _)
      refine hfreed.trans (discreet_seek (fun t ht => hfreed.closes (h.idle t ?_)) call _ now)
      have hidle : ((p.noteFailure now).freePlace false).idle = p.idle :=
        idle_freePlace (p.noteFailure now) false
      exact hidle ▸ ht
  · exact .refl p

theorem discreet_resume (h : p.Own) (call : CallId) (now : Instant) :
    Discreet p (p.resume call now) := by
  unfold resume
  split
  · split
    · exact (discreet_seek (p := { p with available := p.available.hear (.caller call) }) h.idle
        call _ now).after rfl
    · exact .refl p
  · exact .refl p

theorem discreet_stageExpired (h : p.Own) (call : CallId) (now : Instant) :
    Discreet p (p.stageExpired call now) := by
  unfold stageExpired
  split
  · exact discreet_hearCheck h call now .expired
  · exact discreet_rested p call now
  · split
    · exact discreet_dialled h call now _
    · exact .refl p
  · exact .refl p

theorem discreet_cancelBorrow (h : p.Own) (call : CallId) :
    Discreet p (p.cancelBorrow call) := by
  unfold cancelBorrow
  split
  · rename_i b hb
    obtain ⟨stage, deadline, counts⟩ := b
    have hgone : Discreet p (p.letGo stage) := by
      cases stage with
      | checking s => exact discreet_discard (h.checking hb)
      | resting | dialling => exact discreet_freePlace p false
      | parked => exact .refl p
    exact hgone.trans (discreet_endBorrow _ call)
  · exact .refl p

theorem discreet_borrowExpired (h : p.Own) (call : CallId) (now : Instant) :
    Discreet p (p.borrowExpired call now) := by
  unfold borrowExpired
  split
  · split
    · exact (discreet_cancelBorrow h call).trans (discreet_ask _ rfl)
    · exact .refl p
  · exact .refl p

/-! ## Upkeep -/

theorem discreet_fill (p : Pool) (now : Instant) : Discreet p (p.fill now) := by
  unfold fill
  split <;> exact .of_same rfl

theorem discreet_round (h : p.Own) (u : Upkeep) (now : Instant) :
    Discreet p (({ p with upkeep := u }.evict now).fill now) :=
  (discreet_evict (p := { p with upkeep := u }) h.idle now).trans (discreet_fill _ now)

theorem discreet_tend (h : p.Own) (now : Instant) : Discreet p (p.tend now) := by
  unfold tend
  split
  · split
    · exact .of_same rfl
    · split
      · exact discreet_round h _ now
      · split
        · exact discreet_round h _ now
        · exact .refl p
  · exact .refl p

theorem discreet_upkeepDialled (p : Pool) (now : Instant) (outcome : Except IoFault LineId) :
    Discreet p (p.upkeepDialled now outcome) := by
  unfold upkeepDialled
  split
  · split
    · exact (discreet_tellOne _).trans (discreet_fill _ now) |>.after rfl
    · exact (discreet_freePlace (p.noteFailure now) false).trans (.of_same rfl)
  · exact .refl p

theorem discreet_upkeepExpired (p : Pool) (now : Instant) :
    Discreet p (p.upkeepExpired now) := by
  unfold upkeepExpired
  split
  · split
    · exact discreet_upkeepDialled p now _
    · exact .refl p
  · exact .refl p

theorem discreet_resize (h : p.Own) (min max : Nat) (now : Instant) :
    Discreet p (p.resize min max now) := by
  unfold resize
  dsimp only
  refine Discreet.trans ?_ (discreet_askUpkeep _)
  split
  · exact (discreet_tellAll _).after rfl
  · split
    · refine (discreet_evict ?_ now).after rfl
      exact h.idle
    · exact .of_same rfl

/-! ## Every event but a drain's -/

/-- A pool with sessions of its own alone keeps to itself, as long as no guest comes from another
pool. -/
theorem discreet_perform (h : p.Own) {event : PoolEvent} (hdrains : event.isDrains = false)
    (hguest : ∀ g ∈ event.guest?, g.pool = none) : Discreet p (p.perform event) := by
  cases event with
  | startDrain | resumeDrain | drainExpired | cancelDrain => contradiction
  | acquire call now =>
    rw [perform]
    split
    · exact discreet_acquire h call now
    · exact .refl p
  | hearCheck call now stimulus => exact discreet_hearCheck h call now stimulus
  | rested call now => exact discreet_rested p call now
  | dialled call now outcome => exact discreet_dialled h call now outcome
  | resume call now => exact discreet_resume h call now
  | stageExpired call now => exact discreet_stageExpired h call now
  | borrowExpired call now => exact discreet_borrowExpired h call now
  | cancelBorrow call => exact discreet_cancelBorrow h call
  | sendOn call | checkOn call => exact discreet_beginOn p call _
  | hearLoan call now stimulus => exact discreet_hearLoan p call now stimulus
  | abandonLoan call => exact discreet_abandonLoan p call
  | invalidateLoan call => exact discreet_invalidateLoan p call
  | release call => exact discreet_release h call
  | destroyLoan call => exact discreet_destroyLoan h call
  | loseLoan call => exact discreet_loseLoan h call
  | takeGuest guest =>
    rw [perform]
    split
    · exact .refl p
    · exact discreet_takeBack (closes_of_none (hguest guest rfl))
  | destroyGuest guest =>
    rw [perform]
    split
    · exact .refl p
    · exact discreet_destroy (closes_of_none (hguest guest rfl))
  | resize min max now => exact discreet_resize h min max now
  | clear => exact discreet_clear h.idle
  | tend now => exact discreet_tend h now
  | upkeepDialled now outcome => exact discreet_upkeepDialled p now outcome
  | upkeepExpired now => exact discreet_upkeepExpired p now
  | abandon => exact discreet_abandon h.idle
  | settled => exact ⟨rfl, rfl, rfl, fun _ hact => by contradiction⟩

end Pool

end BroadcastLink
