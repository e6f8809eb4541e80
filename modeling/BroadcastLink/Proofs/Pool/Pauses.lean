import BroadcastLink.Proofs.Pool.Capacity
import BroadcastLink.Proofs.Pool.Frame

/-!
# Pauses between attempts to connect

Every attempt takes a session number, so the numbers given away tell of the attempts. A pool keeps
the time of its last failure, and whoever looks for a place pauses until a delay later. A caller
that pauses does not look again when its pause is over: meanwhile others may have tried and failed,
and the caller connects all the same. With that exception, and no other, an attempt comes at least a
delay after every failure before it that no success followed.
-/

namespace BroadcastLink

/-- What the pauses before connecting depend on, and what tells of the attempts to connect. -/
structure Pool.Pacing where
  settings : PoolSettings
  lastFailure : Option Instant
  nextId : Nat
  created : Nat
  connectFailures : Nat
  borrows : Roster CallId Borrow

/-- The point of the clock at which something happens. -/
def PoolEvent.now? : PoolEvent → Option Instant
  | .acquire _ now | .hearCheck _ now _ | .rested _ now | .dialled _ now _ | .resume _ now
  | .stageExpired _ now | .borrowExpired _ now | .hearLoan _ now _ | .resize _ _ now | .tend now
  | .upkeepDialled now _ | .upkeepExpired now | .startDrain _ now | .resumeDrain now
  | .drainExpired now => some now
  | .cancelBorrow _ | .sendOn _ _ | .checkOn _ _ | .abandonLoan _ | .invalidateLoan _ | .release _
  | .destroyLoan _ | .loseLoan _ | .takeGuest _ | .destroyGuest _ | .clear | .cancelDrain _
  | .abandon | .settled => none

namespace Pool

variable {p q r : Pool} {call : CallId} {now : Instant}

def pacing (p : Pool) : Pacing :=
  ⟨p.settings, p.lastFailure, p.nextId, p.created, p.connectFailures, p.borrows⟩

/-- A caller pauses until then. -/
def RestsUntil (p : Pool) (call : CallId) (wakeAt : Instant) : Prop :=
  ∃ deadline counts, p.borrows.get? call = some ⟨.resting wakeAt, deadline, counts⟩

/-! ## What leaves the pace alone -/

theorem pacing_freePlace (p : Pool) (isOpen : Bool) : (p.freePlace isOpen).pacing = p.pacing := by
  obtain ⟨places, owed, heq⟩ := freePlace_eq p isOpen
  rw [heq]
  rfl

theorem pacing_discard (p : Pool) (s : Session) : (p.discard s).pacing = p.pacing := by
  unfold discard
  dsimp only
  split
  · rfl
  · split
    · exact pacing_freePlace (p.ask (.hangUp s.line)) true
    · rfl

theorem pacing_destroy (p : Pool) (s : Session) : (p.destroy s).pacing = p.pacing := by
  have hgone := pacing_discard p s
  unfold destroy
  dsimp only
  split <;> exact hgone

/-- A caller closes the session it had in hand, and gets out of line to look again. -/
theorem pacing_replace (p : Pool) (call : CallId) (s : Session) :
    ((p.destroy s).leave (.caller call)).pacing = p.pacing :=
  pacing_destroy p s

theorem pacing_foldl {close : Pool → Session → Pool}
    (hclose : ∀ p s, (close p s).pacing = p.pacing) (gone : List Session) (p : Pool) :
    (gone.foldl close p).pacing = p.pacing := by
  induction gone generalizing p with
  | nil => rfl
  | cons s rest ih => rw [List.foldl_cons, ih, hclose]

theorem pacing_clear (p : Pool) : p.clear.pacing = p.pacing :=
  pacing_foldl (fun p s => pacing_discard { p with destroyed := p.destroyed + 1 } s) p.idle
    { p with idle := [] }

theorem pacing_abandon (p : Pool) : p.abandon.pacing = p.pacing :=
  pacing_foldl pacing_discard p.idle { p with idle := [] }

theorem pacing_evict (p : Pool) (now : Instant) : (p.evict now).pacing = p.pacing :=
  pacing_foldl pacing_destroy _ { p with idle := (p.sift now p.live p.idle).1 }

theorem pacing_takeBack (p : Pool) (s : Session) : (p.takeBack s).pacing = p.pacing := by
  unfold takeBack
  split
  · exact pacing_destroy p s
  · split
    · exact pacing_destroy p s
    · rfl

theorem pacing_resize (p : Pool) (min max : Nat) (now : Instant) :
    (p.resize min max now).pacing = p.pacing := by
  unfold resize
  dsimp only
  split
  · rfl
  · split
    · exact pacing_evict _ now
    · rfl

theorem pacing_finishDrain (p : Pool) (call : CallId) : (p.finishDrain call).pacing = p.pacing :=
  pacing_clear { p with drain := none }

theorem pacing_lookForLent (p : Pool) (d : Drain) (now : Instant) :
    (p.lookForLent d now).pacing = p.pacing := by
  unfold lookForLent
  dsimp only
  split
  · exact pacing_finishDrain ((p.enter .drainer).leave .drainer) d.call
  · rfl

theorem pacing_startDrain (p : Pool) (call : CallId) (now : Instant) :
    (p.startDrain call now).pacing = p.pacing := by
  unfold startDrain
  split
  · rfl
  · exact pacing_lookForLent ({ p with isClosed := true }.ask .wakeUpkeep).tellAll _ now

theorem pacing_resumeDrain (p : Pool) (now : Instant) :
    (p.resumeDrain now).pacing = p.pacing := by
  unfold resumeDrain
  split
  · split
    · exact pacing_lookForLent { p with available := p.available.hear .drainer } _ now
    · split
      · exact pacing_lookForLent (p.leave .drainer) _ now
      · rfl
  · rfl

theorem pacing_drainExpired (p : Pool) (now : Instant) :
    (p.drainExpired now).pacing = p.pacing := by
  unfold drainExpired
  split
  · split
    · exact pacing_finishDrain (p.leave .drainer) _
    · rfl
  · rfl

theorem pacing_cancelDrain (p : Pool) (call : CallId) :
    (p.cancelDrain call).pacing = p.pacing := by
  unfold cancelDrain
  split
  · split <;> rfl
  · rfl

/-! ## Looking for a place -/

/-- What a search for a place does: nobody begins to pause but until the pause after the last
failure is over, and if an attempt begins there is no such pause. -/
structure Searches (p q : Pool) (now : Instant) : Prop where
  settings : q.settings = p.settings
  lastFailure : q.lastFailure = p.lastFailure
  created : q.created = p.created
  connectFailures : q.connectFailures = p.connectFailures
  rests : ∀ call wakeAt, q.RestsUntil call wakeAt →
    p.RestsUntil call wakeAt ∨ p.restUntil? now = some wakeAt
  starts : p.nextId < q.nextId → p.restUntil? now = none

theorem restsUntil_of_pacing (h : q.pacing = p.pacing) {wakeAt : Instant}
    (hrests : q.RestsUntil call wakeAt) : p.RestsUntil call wakeAt := by
  have hborrows : q.borrows = p.borrows := congrArg Pacing.borrows h
  obtain ⟨deadline, counts, hb⟩ := hrests
  exact ⟨deadline, counts, hborrows ▸ hb⟩

/-- What leaves the pace alone searches nothing. -/
theorem searches_of_pacing (h : q.pacing = p.pacing) : Searches p q now where
  settings := congrArg Pacing.settings h
  lastFailure := congrArg Pacing.lastFailure h
  created := congrArg Pacing.created h
  connectFailures := congrArg Pacing.connectFailures h
  rests := fun _ _ hrests => .inl (restsUntil_of_pacing h hrests)
  starts := fun hlt => by
    rw [show q.nextId = p.nextId from congrArg Pacing.nextId h] at hlt
    exact absurd hlt (Nat.lt_irrefl _)

/-- A search goes on where it was, with the same pause before it. -/
theorem Searches.restUntil? (h : Searches p q now) (now : Instant) :
    q.restUntil? now = p.restUntil? now := by
  rw [Pool.restUntil?, Pool.restUntil?, h.settings, h.lastFailure]

theorem Searches.trans (h : Searches p q now) (h' : Searches q r now) : Searches p r now where
  settings := h'.settings.trans h.settings
  lastFailure := h'.lastFailure.trans h.lastFailure
  created := h'.created.trans h.created
  connectFailures := h'.connectFailures.trans h.connectFailures
  rests := fun call wakeAt hrests => by
    rcases h'.rests call wakeAt hrests with hbefore | hpause
    · exact h.rests call wakeAt hbefore
    · exact .inr ((h.restUntil? now).symm.trans hpause)
  starts := fun hlt => by
    by_cases hfirst : p.nextId < q.nextId
    · exact h.starts hfirst
    · have hsecond := h'.starts (Nat.lt_of_le_of_lt (Nat.not_lt.mp hfirst) hlt)
      exact (h.restUntil? now).symm.trans hsecond

/-- What leaves the pace alone may come first. -/
theorem Searches.after (h : Searches q r now) (hsame : q.pacing = p.pacing) : Searches p r now :=
  (searches_of_pacing hsame).trans h

/-- A caller's entry is gone, and that is all. -/
theorem searches_of_erased (hborrows : q.borrows = p.borrows.erase call)
    (hrest : { q.pacing with borrows := p.borrows } = p.pacing) : Searches p q now where
  settings := congrArg Pacing.settings hrest
  lastFailure := congrArg Pacing.lastFailure hrest
  created := congrArg Pacing.created hrest
  connectFailures := congrArg Pacing.connectFailures hrest
  rests := fun c wakeAt ⟨deadline, counts, hb⟩ => by
    rw [hborrows, Roster.get?_erase] at hb
    split at hb
    · contradiction
    · exact .inl ⟨deadline, counts, hb⟩
  starts := fun hlt => by
    rw [show q.nextId = p.nextId from congrArg Pacing.nextId hrest] at hlt
    exact absurd hlt (Nat.lt_irrefl _)

/-- A caller's entry is written anew, as one that does not pause or pauses as it has to. -/
theorem searches_of_put {b : Borrow} (hborrows : q.borrows = p.borrows.put call b)
    (hrest : { q.pacing with borrows := p.borrows, nextId := p.nextId } = p.pacing)
    (hstage : ∀ wakeAt, b.stage = .resting wakeAt → p.restUntil? now = some wakeAt)
    (hstarts : p.nextId < q.nextId → p.restUntil? now = none) : Searches p q now where
  settings := congrArg Pacing.settings hrest
  lastFailure := congrArg Pacing.lastFailure hrest
  created := congrArg Pacing.created hrest
  connectFailures := congrArg Pacing.connectFailures hrest
  rests := fun c wakeAt ⟨deadline, counts, hb⟩ => by
    rw [hborrows, Roster.get?_put] at hb
    split at hb
    · exact .inr (hstage wakeAt (congrArg Borrow.stage (Option.some.inj hb)))
    · exact .inl ⟨deadline, counts, hb⟩
  starts := hstarts

/-- A caller's entry is written anew, as one that does not pause, and no attempt begins. -/
theorem searches_of_awake {b : Borrow} (hborrows : q.borrows = p.borrows.put call b)
    (hrest : { q.pacing with borrows := p.borrows } = p.pacing)
    (hstage : ∀ wakeAt, b.stage ≠ .resting wakeAt) : Searches p q now := by
  refine searches_of_put hborrows ?_ (fun w hw => absurd hw (hstage w)) fun hlt => ?_
  · exact congrArg (fun pace : Pacing => { pace with nextId := p.nextId }) hrest
  · rw [show q.nextId = p.nextId from congrArg Pacing.nextId hrest] at hlt
    exact absurd hlt (Nat.lt_irrefl _)

theorem searches_connectOrPark (p : Pool) (call : CallId) (b : Borrow) (now : Instant) :
    Searches p (p.connectOrPark call b now) now := by
  unfold connectOrPark
  split
  · dsimp only
    have hsame : Pool.restUntil? { p with places := p.places - 1 } now = p.restUntil? now := rfl
    cases hpause : p.restUntil? now with
    | some wakeAt =>
      rw [hsame, hpause]
      refine searches_of_put rfl rfl (fun w hw => ?_) fun hlt => absurd hlt (Nat.lt_irrefl _)
      rw [hpause]
      exact congrArg some (BorrowStage.resting.inj hw)
    | none =>
      rw [hsame, hpause]
      exact searches_of_put rfl rfl (fun w hw => by contradiction) fun _ => hpause
  · split
    · exact searches_of_erased rfl rfl
    · exact searches_of_awake rfl rfl fun w hw => by contradiction

theorem searches_seekAmong (p : Pool) (call : CallId) (b : Borrow) (now : Instant)
    (idle : List Session) : Searches p (p.seekAmong call b now idle) now := by
  -- By induction on the idle sessions, as the search goes through them.
  induction idle generalizing p with
  | nil => exact (searches_connectOrPark _ call b now).after (p := p) rfl
  | cons s rest ih =>
    rw [seekAmong]
    split
    · exact searches_of_awake rfl rfl fun w hw => by contradiction
    · exact (ih _).after (pacing_replace ({ p with idle := rest }.enter (.caller call)) call s)

theorem searches_seek (p : Pool) (call : CallId) (b : Borrow) (now : Instant) :
    Searches p (p.seek call b now) now := by
  unfold seek
  split
  · exact searches_of_erased rfl rfl
  · exact searches_seekAmong p call b now p.idle

theorem searches_fill (p : Pool) (now : Instant) : Searches p (p.fill now) now := by
  unfold fill
  split
  · exact searches_of_pacing rfl
  · rename_i hgoes
    have hpause : p.restUntil? now = none := by
      by_contra hsome
      simp [Option.isSome_iff_ne_none.mpr hsome] at hgoes
    exact ⟨rfl, rfl, rfl, rfl, fun _ _ hrests => .inl hrests, fun _ => hpause⟩

/-! ## What an event does -/

/-- What an event at a point of the clock does about attempts to connect: it looks for a place,
maybe after an attempt failed or succeeded, or a caller whose pause is over begins one. -/
inductive Paces (p q : Pool) (caller : Option CallId) (now : Instant) : Prop
  | searches (h : Searches p q now)
  | failed (h : Searches (p.noteFailure now) q now)
  | opened (h : Searches p.noteOpened q now)
  | woke {call : CallId} {wakeAt : Instant} (hcaller : caller = some call)
      (hrests : p.RestsUntil call wakeAt) (hdue : wakeAt ≤ now)
      (hsame : { q.pacing with borrows := p.borrows, nextId := p.nextId } = p.pacing)
      (hothers : ∀ c w, q.RestsUntil c w → p.RestsUntil c w)

variable {caller : Option CallId}

theorem paces_of_pacing (h : q.pacing = p.pacing) : Paces p q caller now :=
  .searches (searches_of_pacing h)

theorem searches_acquire (p : Pool) (call : CallId) (now : Instant) :
    Searches p (p.acquire call now) now := by
  unfold acquire
  split
  · exact searches_of_pacing rfl
  · -- The caller begins as one that looks, and does not pause.
    have hentered : Searches p (p.putBorrow call
        ⟨.parked, p.settings.acquireTimeout.after now, false⟩) now :=
      searches_of_awake rfl rfl fun w hw => by contradiction
    exact hentered.trans (searches_seek _ call _ now)

theorem paces_hearCheck (p : Pool) (call : CallId) (now : Instant) (stimulus : Stimulus) :
    Paces p (p.hearCheck call now stimulus) caller now := by
  unfold hearCheck
  split
  · dsimp only
    split
    · exact .searches (searches_of_awake rfl rfl fun w hw => by contradiction)
    · exact .searches (searches_of_erased rfl rfl)
    · rename_i s fault hreact
      exact .searches ((searches_seek _ call _ now).after (pacing_replace p call s))
  · exact paces_of_pacing rfl

theorem paces_rested (p : Pool) (call : CallId) (now : Instant) :
    Paces p (p.rested call now) (some call) now := by
  unfold rested
  split
  · rename_i wakeAt deadline counts hb
    split
    · refine .woke rfl ⟨deadline, counts, hb⟩ ‹_› rfl fun c w ⟨deadline', counts', hc⟩ => ?_
      rw [show (p.dial call ⟨.parked, deadline, counts⟩ now).borrows = p.borrows.put call _
        from rfl, Roster.get?_put] at hc
      split at hc
      · have := congrArg Borrow.stage (Option.some.inj hc)
        contradiction
      · exact ⟨deadline', counts', hc⟩
    · exact paces_of_pacing rfl
  · exact paces_of_pacing rfl

theorem paces_dialled (p : Pool) (call : CallId) (now : Instant) (outcome : Except IoFault LineId) :
    Paces p (p.dialled call now outcome) caller now := by
  unfold dialled
  split
  · split
    · exact .opened (searches_of_erased rfl rfl)
    · have hfreed : (((p.noteFailure now).freePlace false).leave (.caller call)).pacing =
          (p.noteFailure now).pacing := pacing_freePlace (p.noteFailure now) false
      exact .failed ((searches_seek _ call _ now).after hfreed)
  · exact paces_of_pacing rfl

theorem paces_stageExpired (p : Pool) (call : CallId) (now : Instant) :
    Paces p (p.stageExpired call now) (some call) now := by
  unfold stageExpired
  split
  · exact paces_hearCheck p call now .expired
  · exact paces_rested p call now
  · split
    · exact paces_dialled p call now _
    · exact paces_of_pacing rfl
  · exact paces_of_pacing rfl

theorem paces_upkeepDialled (p : Pool) (now : Instant) (outcome : Except IoFault LineId) :
    Paces p (p.upkeepDialled now outcome) caller now := by
  unfold upkeepDialled
  split
  · split
    · exact .opened ((searches_fill _ now).after rfl)
    · exact .failed (searches_of_pacing (pacing_freePlace (p.noteFailure now) false))
  · exact paces_of_pacing rfl

theorem searches_cancelBorrow (p : Pool) (call : CallId) (now : Instant) :
    Searches p (p.cancelBorrow call) now := by
  unfold cancelBorrow
  split
  · rename_i b _
    have hgone : (p.letGo b.stage).pacing = p.pacing := by
      cases b.stage with
      | checking s => exact pacing_discard p s
      | resting | dialling => exact pacing_freePlace p false
      | parked => rfl
    have herased : Searches (p.letGo b.stage) ((p.letGo b.stage).endBorrow call) now :=
      searches_of_erased rfl rfl
    exact herased.after hgone
  · exact searches_of_pacing rfl

theorem paces_tend (p : Pool) (now : Instant) : Paces p (p.tend now) caller now := by
  unfold tend
  split
  · split
    · exact paces_of_pacing rfl
    · split
      · exact .searches ((searches_fill _ now).after (pacing_evict _ now))
      · split
        · exact .searches ((searches_fill _ now).after (pacing_evict _ now))
        · exact paces_of_pacing rfl
  · exact paces_of_pacing rfl

/-- Every event is of one of these kinds. -/
theorem paces_perform (p : Pool) {event : PoolEvent} (hnow : ∀ clock ∈ event.now?, clock = now) :
    Paces p (p.perform event) event.caller? now := by
  cases event with
  | acquire call clock =>
    obtain rfl := hnow clock rfl
    rw [perform]
    split
    · exact .searches (searches_acquire p call clock)
    · exact paces_of_pacing rfl
  | hearCheck call clock stimulus =>
    obtain rfl := hnow clock rfl
    exact paces_hearCheck p call clock stimulus
  | rested call clock =>
    obtain rfl := hnow clock rfl
    exact paces_rested p call clock
  | dialled call clock outcome =>
    obtain rfl := hnow clock rfl
    exact paces_dialled p call clock outcome
  | resume call clock =>
    obtain rfl := hnow clock rfl
    rw [perform, resume]
    split
    · split
      · exact .searches ((searches_seek _ call _ clock).after rfl)
      · exact paces_of_pacing rfl
    · exact paces_of_pacing rfl
  | stageExpired call clock =>
    obtain rfl := hnow clock rfl
    exact paces_stageExpired p call clock
  | borrowExpired call clock =>
    rw [perform, borrowExpired]
    split
    · split
      · exact .searches ((searches_cancelBorrow p call now).trans (searches_of_pacing rfl))
      · exact paces_of_pacing rfl
    · exact paces_of_pacing rfl
  | cancelBorrow call => exact .searches (searches_cancelBorrow p call now)
  | sendOn call | checkOn call =>
    refine paces_of_pacing ?_
    rw [perform, beginOn]
    split
    · split <;> rfl
    · rfl
  | hearLoan call clock stimulus =>
    refine paces_of_pacing ?_
    rw [perform, hearLoan]
    split <;> rfl
  | abandonLoan call =>
    refine paces_of_pacing ?_
    rw [perform, abandonLoan]
    split <;> rfl
  | invalidateLoan call =>
    refine paces_of_pacing ?_
    rw [perform, invalidateLoan]
    split <;> rfl
  | release call =>
    refine paces_of_pacing ?_
    rw [perform, release]
    split
    · exact pacing_takeBack (p.endLoan call) _
    · rfl
  | destroyLoan call =>
    refine paces_of_pacing ?_
    rw [perform, destroyLoan]
    split
    · exact pacing_destroy (p.endLoan call) _
    · rfl
  | loseLoan call =>
    refine paces_of_pacing ?_
    rw [perform, loseLoan]
    split
    · exact pacing_discard (p.endLoan call) _
    · rfl
  | takeGuest guest =>
    refine paces_of_pacing ?_
    rw [perform]
    split
    · rfl
    · exact pacing_takeBack p guest
  | destroyGuest guest =>
    refine paces_of_pacing ?_
    rw [perform]
    split
    · rfl
    · exact pacing_destroy p guest
  | resize min max clock => exact paces_of_pacing (pacing_resize p min max clock)
  | clear => exact paces_of_pacing (pacing_clear p)
  | tend clock =>
    obtain rfl := hnow clock rfl
    exact paces_tend p clock
  | upkeepDialled clock outcome =>
    obtain rfl := hnow clock rfl
    exact paces_upkeepDialled p clock outcome
  | upkeepExpired clock =>
    obtain rfl := hnow clock rfl
    rw [perform, upkeepExpired]
    split
    · split
      · exact paces_upkeepDialled p clock _
      · exact paces_of_pacing rfl
    · exact paces_of_pacing rfl
  | startDrain call clock => exact paces_of_pacing (pacing_startDrain p call clock)
  | resumeDrain clock => exact paces_of_pacing (pacing_resumeDrain p clock)
  | drainExpired clock => exact paces_of_pacing (pacing_drainExpired p clock)
  | cancelDrain call => exact paces_of_pacing (pacing_cancelDrain p call)
  | abandon => exact paces_of_pacing (pacing_abandon p)
  | settled => exact paces_of_pacing rfl

/-! ## From a failure on -/

/-- An attempt to connect fails then. -/
def Fails (p : Pool) (event : PoolEvent) (now : Instant) : Prop :=
  event.now? = some now ∧ p.connectFailures < (p.perform event).connectFailures

/-- An attempt to connect begins then. -/
def Starts (p : Pool) (event : PoolEvent) (now : Instant) : Prop :=
  event.now? = some now ∧ p.nextId < (p.perform event).nextId

instance (p : Pool) (event : PoolEvent) (now : Instant) : Decidable (p.Fails event now) :=
  inferInstanceAs (Decidable (_ ∧ _))

instance (p : Pool) (event : PoolEvent) (now : Instant) : Decidable (p.Starts event now) :=
  inferInstanceAs (Decidable (_ ∧ _))

/-- When the pause after a failure is over. -/
def pauseAfter (p : Pool) (failed : Instant) : Instant := p.settings.createRetryDelay.after failed

theorem pauseAfter_mono (p : Pool) {t failed : Instant} (h : t ≤ failed) :
    p.pauseAfter t ≤ p.pauseAfter failed :=
  Nat.add_le_add_right h _

/-- A failure at `t` in the pool `p`, seen from a later state: pauses are counted from it or a later
one, and who pauses for less has paused since before. -/
structure PausedSince (t : Instant) (p q : Pool) : Prop where
  settings : q.settings = p.settings
  failure : ∃ failed, q.lastFailure = some failed ∧ t ≤ failed
  rests : ∀ call wakeAt, q.RestsUntil call wakeAt →
    p.pauseAfter t ≤ wakeAt ∨ p.RestsUntil call wakeAt

variable {t failed wakeAt : Instant}

theorem eq_pauseAfter_of_restUntil? (hfailure : p.lastFailure = some failed)
    (h : p.restUntil? now = some wakeAt) : wakeAt = p.pauseAfter failed := by
  rw [restUntil?, hfailure] at h
  dsimp only at h
  split at h
  · exact (Option.some.inj h).symm
  · contradiction

theorem pauseAfter_le_of_restUntil? (hfailure : p.lastFailure = some failed)
    (h : p.restUntil? now = none) : p.pauseAfter failed ≤ now := by
  rw [restUntil?, hfailure] at h
  dsimp only at h
  split at h
  · contradiction
  · exact Nat.not_lt.mp ‹_›

theorem Paces.settings (h : Paces p q caller now) : q.settings = p.settings := by
  cases h with
  | searches h | failed h | opened h => exact h.settings
  | woke _ _ _ hsame _ => exact congrArg Pacing.settings hsame

theorem Paces.created_le (h : Paces p q caller now) : p.created ≤ q.created := by
  cases h with
  | searches h | failed h => exact Nat.le_of_eq h.created.symm
  | opened h => exact Nat.le_trans (Nat.le_succ p.created) (Nat.le_of_eq h.created.symm)
  | woke _ _ _ hsame _ => exact Nat.le_of_eq (congrArg Pacing.created hsame).symm

/-- Only a failure is counted as one. -/
theorem Paces.failed_of_lt (h : Paces p q caller now)
    (hlt : p.connectFailures < q.connectFailures) : Searches (p.noteFailure now) q now := by
  cases h with
  | failed h => exact h
  | searches h =>
    rw [h.connectFailures] at hlt
    exact absurd hlt (Nat.lt_irrefl _)
  | opened h =>
    rw [h.connectFailures] at hlt
    exact absurd hlt (Nat.lt_irrefl _)
  | woke _ _ _ hsame _ =>
    rw [show q.connectFailures = p.connectFailures from congrArg Pacing.connectFailures hsame]
      at hlt
    exact absurd hlt (Nat.lt_irrefl _)

/-- The first state after the failure. -/
theorem pausedSince_of_failed (h : Searches (p.noteFailure t) q t) : PausedSince t p q where
  settings := h.settings
  failure := ⟨t, h.lastFailure, Nat.le_refl t⟩
  rests := fun call wakeAt hrests => by
    rcases h.rests call wakeAt hrests with hbefore | hpause
    · exact .inr hbefore
    · exact .inl (Nat.le_of_eq (eq_pauseAfter_of_restUntil? rfl hpause).symm)

theorem PausedSince.pauseAfter (h : PausedSince t p q) (failed : Instant) :
    q.pauseAfter failed = p.pauseAfter failed := by
  rw [Pool.pauseAfter, Pool.pauseAfter, h.settings]

/-- As long as no attempt succeeds, pauses are counted from the failure or a later one. -/
theorem PausedSince.step (h : PausedSince t p q) (hpaces : Paces q r caller now) (hnow : t ≤ now)
    (hcreated : r.created = q.created) : PausedSince t p r := by
  have hpause := h.pauseAfter
  obtain ⟨hsettings, ⟨failed, hfailure, hle⟩, hrests⟩ := h
  refine ⟨hpaces.settings.trans hsettings, ?_, ?_⟩
  · cases hpaces with
    | searches h => exact ⟨failed, h.lastFailure.trans hfailure, hle⟩
    | failed h => exact ⟨now, h.lastFailure, hnow⟩
    | opened h =>
      rw [h.created] at hcreated
      exact absurd hcreated (Nat.succ_ne_self _)
    | woke _ _ _ hsame _ =>
      exact ⟨failed, (congrArg Pacing.lastFailure hsame).trans hfailure, hle⟩
  · intro call wakeAt hr
    cases hpaces with
    | searches h =>
      rcases h.rests call wakeAt hr with hbefore | hnew
      · exact hrests call wakeAt hbefore
      · rw [eq_pauseAfter_of_restUntil? hfailure hnew, hpause]
        exact .inl (pauseAfter_mono p hle)
    | failed h =>
      rcases h.rests call wakeAt hr with hbefore | hnew
      · exact hrests call wakeAt hbefore
      · rw [eq_pauseAfter_of_restUntil? rfl hnew]
        exact .inl ((hpause now).symm ▸ pauseAfter_mono p hnow)
    | opened h =>
      rw [h.created] at hcreated
      exact absurd hcreated (Nat.succ_ne_self _)
    | woke _ _ _ _ hothers => exact hrests call wakeAt (hothers call wakeAt hr)

/-- An attempt that begins comes after the pause, or is that of a caller who has paused since
before. -/
theorem PausedSince.starts (h : PausedSince t p q) (hpaces : Paces q r caller now) (hnow : t ≤ now)
    (hcreated : r.created = q.created) (hstarts : q.nextId < r.nextId) :
    p.pauseAfter t ≤ now ∨ ∃ call wakeAt, caller = some call ∧ p.RestsUntil call wakeAt ∧
      q.RestsUntil call wakeAt ∧ wakeAt ≤ now := by
  have hpause := h.pauseAfter
  obtain ⟨hsettings, ⟨failed, hfailure, hle⟩, hrests⟩ := h
  cases hpaces with
  | searches h =>
    have hover := pauseAfter_le_of_restUntil? hfailure (h.starts hstarts)
    rw [hpause] at hover
    exact .inl (Nat.le_trans (pauseAfter_mono p hle) hover)
  | failed h =>
    have hover : q.pauseAfter now ≤ now :=
      pauseAfter_le_of_restUntil? (p := q.noteFailure now) rfl (h.starts hstarts)
    rw [hpause] at hover
    exact .inl (Nat.le_trans (pauseAfter_mono p hnow) hover)
  | opened h =>
    rw [h.created] at hcreated
    exact absurd hcreated (Nat.succ_ne_self _)
  | @woke call wakeAt hcaller hr hdue _ _ =>
    rcases hrests call wakeAt hr with hlong | hsince
    · exact .inl (Nat.le_trans hlong hdue)
    · exact .inr ⟨call, wakeAt, hcaller, hsince, hr, hdue⟩

/-! ## Whole runs -/

/-- A point of the clock for an event, if it has none of its own. -/
theorem exists_clock {event : PoolEvent} (h : ∀ clock ∈ event.now?, t ≤ clock) :
    ∃ now, (∀ clock ∈ event.now?, clock = now) ∧ t ≤ now := by
  cases hclock : event.now? with
  | none => exact ⟨t, fun clock hmem => by contradiction, Nat.le_refl t⟩
  | some now => exact ⟨now, fun clock hmem => (Option.some.inj hmem).symm, h now hclock⟩

theorem created_le_perform (p : Pool) (event : PoolEvent) :
    p.created ≤ (p.perform event).created := by
  obtain ⟨now, hnow, -⟩ : ∃ now, (∀ clock ∈ event.now?, clock = now) ∧ 0 ≤ now :=
    exists_clock fun clock _ => Nat.zero_le clock
  exact (paces_perform p hnow).created_le

theorem created_le_run (p : Pool) (events : List PoolEvent) :
    p.created ≤ (p.run events).created := by
  induction events generalizing p with
  | nil => exact Nat.le_refl _
  | cons event events ih => exact Nat.le_trans (created_le_perform p event) (ih (p.perform event))

theorem PausedSince.run (h : PausedSince t p q) {events : List PoolEvent}
    (hclock : ∀ event ∈ events, ∀ clock ∈ event.now?, t ≤ clock)
    (hcreated : (q.run events).created = q.created) : PausedSince t p (q.run events) := by
  induction events generalizing q with
  | nil => exact h
  | cons event events ih =>
    obtain ⟨now, hnow, hle⟩ := exists_clock (hclock event List.mem_cons_self)
    -- The count of sessions opened never falls, so it stayed the same in every event.
    have hfirst : (q.perform event).created = q.created :=
      Nat.le_antisymm (hcreated ▸ created_le_run (q.perform event) events)
        (created_le_perform q event)
    refine ih (h.step (paces_perform q hnow) hle hfirst)
      (fun e he => hclock e (List.mem_cons_of_mem event he)) ?_
    exact hcreated.trans hfirst.symm

/-- Attempts to connect are spaced, but for callers who pause already. Let an attempt fail. The
event in which it does begins no other within the pause that follows. Neither does any event after
it, as long as no attempt succeeds and the clock does not go back, unless it is the end of the pause
of a caller who was pausing before the failure, and has since. -/
theorem starts_after_pause (p : Pool) {failing : PoolEvent} {t : Instant}
    (hfails : p.Fails failing t) :
    (∀ s, p.Starts failing s → p.settings.createRetryDelay.after t ≤ s) ∧
    ∀ (between : List PoolEvent) (starting : PoolEvent) (s : Instant),
      (∀ event ∈ between ++ [starting], ∀ clock ∈ event.now?, t ≤ clock) →
      (((p.perform failing).run between).perform starting).created = p.created →
      ((p.perform failing).run between).Starts starting s →
      p.settings.createRetryDelay.after t ≤ s ∨
        ∃ call wakeAt, starting.caller? = some call ∧ p.RestsUntil call wakeAt ∧
          ((p.perform failing).run between).RestsUntil call wakeAt ∧ wakeAt ≤ s := by
  obtain ⟨hclock, hlt⟩ := hfails
  have hfailed : Searches (p.noteFailure t) (p.perform failing) t :=
    (paces_perform p fun clock hmem => Option.some.inj (hmem.symm.trans hclock)).failed_of_lt hlt
  constructor
  · rintro s ⟨hs, hstarts⟩
    obtain rfl := Option.some.inj (hclock.symm.trans hs)
    exact pauseAfter_le_of_restUntil? (p := p.noteFailure t) rfl (hfailed.starts hstarts)
  · intro between starting s hclocks hcreated hstarts
    have hlast := created_le_perform ((p.perform failing).run between) starting
    have hmiddle := created_le_run (p.perform failing) between
    have hfirst : (p.perform failing).created = p.created := hfailed.created
    have hsince := (pausedSince_of_failed hfailed).run
      (fun event he => hclocks event (List.mem_append_left _ he)) (by omega)
    have hs : ∀ clock ∈ starting.now?, clock = s := fun clock hmem =>
      Option.some.inj (hmem.symm.trans hstarts.1)
    have hpaces := paces_perform ((p.perform failing).run between) hs
    have hnow : t ≤ s := hclocks starting (List.mem_append_right _ List.mem_cons_self) s hstarts.1
    exact hsince.starts hpaces hnow (by omega) hstarts.2

/-- A pool in which a caller connects at once. -/
def connecting : Pool :=
  (forStudio 0 ⟨"s", "h", 1, 0, 2, none, false⟩ { createRetryDelay := ⟨50⟩ } 0).run [.acquire 1 0]

/-- Its attempt fails at 10, and the next one begins at 60. -/
theorem connecting_starts_after_pause :
    connecting.Fails (.dialled 1 10 (.error (.bare .timedOut))) 10 ∧
      (50 + 10 ≤ 60 ∨ ∃ call wakeAt, PoolEvent.caller? (.rested 1 60) = some call ∧
        connecting.RestsUntil call wakeAt ∧
        ((connecting.perform (.dialled 1 10 (.error (.bare .timedOut)))).run []).RestsUntil
          call wakeAt ∧ wakeAt ≤ 60) := by
  have hfails : connecting.Fails (.dialled 1 10 (.error (.bare .timedOut))) 10 := by decide
  exact ⟨hfails, (starts_after_pause connecting hfails).2 [] (.rested 1 60) 60 (by decide)
    (by decide) (by decide)⟩

/-- Two callers connect. The attempt of the second fails at 10, and it pauses until 60. -/
def staggered : Pool :=
  (forStudio 0 ⟨"s", "h", 1, 0, 2, none, false⟩ { createRetryDelay := ⟨50⟩ } 0).run
    [.acquire 1 0, .acquire 2 10, .dialled 2 10 (.error (.bare .timedOut))]

/-- The attempt of the first fails at 50, and within the pause the second begins another. -/
theorem staggered_starts_within_pause :
    staggered.Fails (.dialled 1 50 (.error (.bare .timedOut))) 50 ∧
      (staggered.perform (.dialled 1 50 (.error (.bare .timedOut)))).Starts (.rested 2 60) 60 ∧
      ((staggered.perform (.dialled 1 50 (.error (.bare .timedOut)))).perform
        (.rested 2 60)).created = staggered.created ∧
      60 < staggered.settings.createRetryDelay.after 50 := by
  decide

end Pool

end BroadcastLink
