import BroadcastLink.Proofs.Pool.Capacity
import BroadcastLink.Proofs.Pool.Closing

/-!
# What comes after a drain

Once a pool is closed, a call that was parked gets no session any more, and neither does one made
later. A caller that had taken a place before goes on with it, though, and so does the upkeep: what
they open then is lent or kept, however long ago the drain ended. So a drain is final exactly when
nothing was under way at its end.
-/

namespace BroadcastLink

/-- The call and the session that was lent to it. -/
def PoolAct.lent? : PoolAct → Option (CallId × Nat)
  | .lent call session => some (call, session)
  | _ => none

/-- What shows whether a pool still brings forth sessions: its idle ones, whether its upkeep opens
one, how many it opened, and which it lent and has not told yet. -/
structure Pool.Yield where
  idle : List Session
  opens : Bool
  created : Nat
  lent : List (CallId × Nat)

namespace Pool

variable {p q : Pool} {call : CallId}

/-- The loans that were not told yet. -/
def lendings (p : Pool) : List (CallId × Nat) := p.acts.filterMap PoolAct.lent?

def yield (p : Pool) : Yield :=
  ⟨p.idle, p.upkeep.stage.isOpening, p.created, p.lendings⟩

/-! ## What brings forth nothing -/

theorem yield_ask (p : Pool) {act : PoolAct} (h : act.lent? = none) :
    (p.ask act).yield = p.yield := by
  have hlendings : (p.ask act).lendings = p.lendings := by
    refine (asked_ask p act PoolAct.lent?).trans ?_
    rw [h]
    exact List.append_nil _
  rw [yield, yield, hlendings]
  rfl

theorem yield_wakeAll (p : Pool) (told : List Waiter) : (p.wakeAll told).yield = p.yield := by
  have hlendings : (p.wakeAll told).lendings = p.lendings := asked_wakeAll (fun _ => rfl) p told
  rw [yield, yield, hlendings]
  rfl

theorem yield_tellOne (p : Pool) : p.tellOne.yield = p.yield :=
  yield_wakeAll { p with available := p.available.tellOne.1 } _

theorem yield_tellAll (p : Pool) : p.tellAll.yield = p.yield :=
  yield_wakeAll { p with available := p.available.tellAll.1 } _

theorem yield_leave (p : Pool) (w : Waiter) : (p.leave w).yield = p.yield :=
  yield_wakeAll { p with available := (p.available.leave w).1 } _

theorem yield_freePlace (p : Pool) (isOpen : Bool) : (p.freePlace isOpen).yield = p.yield := by
  obtain ⟨places, owed, heq⟩ := freePlace_eq p isOpen
  rw [heq, yield_tellOne]
  rfl

theorem yield_askUpkeep (p : Pool) : p.askUpkeep.yield = p.yield := by
  have hasked : ({ p with upkeep := p.upkeep.ask } : Pool).yield = p.yield := by
    rw [yield, yield]
    dsimp only
    rw [stage_ask]
    rfl
  exact (yield_ask { p with upkeep := p.upkeep.ask } rfl).trans hasked

theorem yield_discard (p : Pool) (s : Session) : (p.discard s).yield = p.yield := by
  have hasked : (p.ask (.hangUp s.line)).yield = p.yield := yield_ask p rfl
  unfold discard
  dsimp only
  split
  · exact hasked
  · split
    · rw [yield_freePlace, hasked]
    · rw [yield_ask _ rfl, hasked]

theorem yield_destroy (p : Pool) (s : Session) : (p.destroy s).yield = p.yield := by
  unfold destroy
  dsimp only
  split
  · exact yield_discard p s
  · rw [yield_askUpkeep]
    exact yield_discard p s

theorem yield_refuse (p : Pool) (call : CallId) (fault : Fault) :
    (p.refuse call fault).yield = p.yield := by
  unfold refuse
  rw [yield_ask _ rfl]
  exact yield_leave p (.caller call)

/-! ## Calls that have taken no place -/

/-- A call has no session, and has taken neither a session nor a place: it is parked at most. -/
structure Unserved (p : Pool) (call : CallId) : Prop where
  unlent : p.loans.get? call = none
  parked : ∀ b, p.borrows.get? call = some b → b.stage = .parked

namespace Unserved

theorem sought (h : p.Unserved call) {c : CallId} (hstep : Sought p q c) (hne : call ≠ c) :
    q.Unserved call := by
  refine ⟨?_, ?_⟩
  · rw [hstep.loans_of_ne hne]
    exact h.unlent
  · rw [hstep.others call hne]
    exact h.parked

theorem onLoan (h : p.Unserved call) {c : CallId} (hstep : OnLoan p q c) : q.Unserved call := by
  refine ⟨?_, ?_⟩
  · by_cases heq : call = c
    · subst heq
      by_contra hlent
      exact hstep.still hlent h.unlent
    · rw [hstep.others call heq]
      exact h.unlent
  · rw [hstep.borrows]
    exact h.parked

theorem sameHolders (h : p.Unserved call) (hstep : SameHolders p q) : q.Unserved call := by
  refine ⟨?_, ?_⟩
  · rw [hstep.loans]
    exact h.unlent
  · rw [hstep.borrows]
    exact h.parked

/-- It may be a caller no more. -/
theorem gone (h : p.Unserved call) (hloans : q.loans = p.loans)
    (hborrows : q.borrows = p.borrows.erase call) : q.Unserved call := by
  refine ⟨?_, ?_⟩
  · rw [hloans]
    exact h.unlent
  · intro b hb
    rw [hborrows, Roster.get?_erase, if_pos rfl] at hb
    contradiction

/-! What goes on with a session or a place that was taken has nothing to go on with here. -/

theorem hearCheck_eq (h : p.Unserved call) (now : Instant) (stimulus : Stimulus) :
    p.hearCheck call now stimulus = p := by
  unfold hearCheck
  split
  · rename_i hb
    have hstage := h.parked _ hb
    contradiction
  · rfl

theorem rested_eq (h : p.Unserved call) (now : Instant) : p.rested call now = p := by
  unfold rested
  split
  · rename_i hb
    have hstage := h.parked _ hb
    contradiction
  · rfl

theorem dialled_eq (h : p.Unserved call) (now : Instant) (outcome : Except IoFault LineId) :
    p.dialled call now outcome = p := by
  unfold dialled
  split
  · rename_i hb
    have hstage := h.parked _ hb
    contradiction
  · rfl

theorem stageExpired_eq (h : p.Unserved call) (now : Instant) : p.stageExpired call now = p := by
  unfold stageExpired
  split
  · exact h.hearCheck_eq now .expired
  · exact h.rested_eq now
  · rw [h.dialled_eq now, ite_self]
  · rfl

/-- In a closed pool it is refused when it looks again. -/
theorem resume_cases (hclosed : p.isClosed = true) (call : CallId) (now : Instant) :
    p.resume call now = p ∨
      p.resume call now =
        { p with available := p.available.hear (.caller call) }.refuse call .poolClosed := by
  unfold resume
  split
  · split
    · right
      exact if_pos hclosed
    · exact .inl rfl
  · exact .inl rfl

theorem cancelBorrow_cases (h : p.Unserved call) :
    p.cancelBorrow call = p ∨ p.cancelBorrow call = p.endBorrow call := by
  unfold cancelBorrow
  split
  · rename_i b hb
    right
    rw [h.parked b hb]
    rfl
  · exact .inl rfl

theorem cancelBorrow (h : p.Unserved call) : (p.cancelBorrow call).Unserved call := by
  rcases h.cancelBorrow_cases with hsame | hgone
  · rw [hsame]
    exact h
  · rw [hgone]
    exact h.gone rfl rfl

theorem borrowExpired (h : p.Unserved call) (now : Instant) :
    (p.borrowExpired call now).Unserved call := by
  unfold Pool.borrowExpired
  split
  · split
    · exact ⟨h.cancelBorrow.unlent, h.cancelBorrow.parked⟩
    · exact h
  · exact h

theorem resume (h : p.Unserved call) (hclosed : p.isClosed = true) (now : Instant) :
    (p.resume call now).Unserved call := by
  rcases resume_cases hclosed call now with hsame | hrefused
  · rw [hsame]
    exact h
  · rw [hrefused]
    exact h.gone rfl rfl

theorem acquire_eq (hclosed : p.isClosed = true) (call : CallId) (now : Instant) :
    p.acquire call now = p.ask (.refused call .poolClosed) :=
  if_pos hclosed

/-- What is about the call itself leaves it without a place. -/
theorem perform_own (h : p.Unserved call) (hclosed : p.isClosed = true) {event : PoolEvent}
    (hown : event.caller? = some call) : (p.perform event).Unserved call := by
  cases event with
  | acquire c now =>
    rw [Pool.perform]
    split
    · rw [acquire_eq hclosed]
      exact ⟨h.unlent, h.parked⟩
    · exact h
  | hearCheck c now stimulus =>
    obtain rfl := Option.some.inj hown
    rwa [Pool.perform, h.hearCheck_eq]
  | rested c now =>
    obtain rfl := Option.some.inj hown
    rwa [Pool.perform, h.rested_eq]
  | dialled c now outcome =>
    obtain rfl := Option.some.inj hown
    rwa [Pool.perform, h.dialled_eq]
  | resume c now =>
    obtain rfl := Option.some.inj hown
    exact h.resume hclosed now
  | stageExpired c now =>
    obtain rfl := Option.some.inj hown
    rwa [Pool.perform, h.stageExpired_eq]
  | borrowExpired c now =>
    obtain rfl := Option.some.inj hown
    exact h.borrowExpired now
  | cancelBorrow c =>
    obtain rfl := Option.some.inj hown
    exact h.cancelBorrow
  | _ => contradiction

/-- In a closed pool a call that has taken no place never takes one, whatever happens. -/
theorem perform (h : p.Unserved call) (hapart : p.Apart) (hclosed : p.isClosed = true)
    (event : PoolEvent) : (p.perform event).Unserved call := by
  have htouches := touches_perform hapart event
  generalize hcaller : event.caller? = caller at htouches
  cases htouches with
  | caller hstep =>
    rename_i c
    by_cases heq : call = c
    · exact h.perform_own hclosed (heq ▸ hcaller)
    · exact h.sought hstep heq
  | loan hstep => exact h.onLoan hstep
  | nobody hstep => exact h.sameHolders hstep

theorem run (h : p.Unserved call) (hapart : p.Apart) (hclosed : p.isClosed = true)
    (events : List PoolEvent) : (p.run events).Unserved call := by
  induction events generalizing p with
  | nil => exact h
  | cons event rest ih =>
    exact ih (h.perform hapart hclosed event) (hapart.perform event)
      (isClosed_perform hclosed event)

end Unserved

/-! ## When nothing is under way -/

/-- A pool that was drained, with nothing idle or lent any more and nothing under way. -/
structure Ended (p : Pool) : Prop where
  isClosed : p.isClosed = true
  drain : p.drain = none
  inOrder : p.InOrder
  idle : p.idle = []
  upkeep : p.upkeep.stage.isOpening = false
  unserved : ∀ call, p.Unserved call

/-- What a pool came to, later, brought forth no session: none is open, and none was opened or lent
in between. -/
structure Spent (p q : Pool) : Prop where
  size : q.stats.size = 0
  idle : q.stats.idle = 0
  unlent : q.loans.values = []
  created : q.created = p.created
  lendings : q.lendings ⊆ p.lendings

theorem yield_evict (hidle : p.idle = []) (now : Instant) : (p.evict now).yield = p.yield := by
  rw [evict, hidle, sift]
  show ({ p with idle := [] } : Pool).yield = p.yield
  rw [yield, yield, hidle]
  rfl

namespace Ended

theorem yield_cancelBorrow (h : p.Ended) (call : CallId) :
    (p.cancelBorrow call).yield = p.yield := by
  rcases (h.unserved call).cancelBorrow_cases with hsame | hgone
  · rw [hsame]
  · rw [hgone]
    exact yield_leave p (.caller call)

theorem yield_borrowExpired (h : p.Ended) (call : CallId) (now : Instant) :
    (p.borrowExpired call now).yield = p.yield := by
  rw [borrowExpired]
  split
  · split
    · rw [yield_ask _ rfl]
      exact h.yield_cancelBorrow call
    · rfl
  · rfl

theorem yield_resize (h : p.Ended) (min max : Nat) (now : Instant) :
    (p.resize min max now).yield = p.yield := by
  rw [resize]
  dsimp only
  rw [yield_askUpkeep]
  split
  · rw [yield_tellAll]
    rfl
  · split
    · rw [yield_evict]
      · rfl
      · exact h.idle
    · rfl

/-- Whatever happens in such a pool, it brings forth nothing. -/
theorem yield_perform (h : p.Ended) {event : PoolEvent} (hevent : event ≠ .settled) :
    (p.perform event).yield = p.yield := by
  have hnone : ∀ call, p.loans.get? call = none := fun call => (h.unserved call).unlent
  have hidle : ({ p with idle := [] } : Pool).yield = p.yield := by
    rw [yield, yield, h.idle]
    rfl
  cases event with
  | acquire call now =>
    rw [Pool.perform]
    split
    · rw [Unserved.acquire_eq h.isClosed]
      exact yield_ask p rfl
    · rfl
  | hearCheck call now stimulus => rw [Pool.perform, (h.unserved call).hearCheck_eq]
  | rested call now => rw [Pool.perform, (h.unserved call).rested_eq]
  | dialled call now outcome => rw [Pool.perform, (h.unserved call).dialled_eq]
  | stageExpired call now => rw [Pool.perform, (h.unserved call).stageExpired_eq]
  | resume call now =>
    rw [Pool.perform]
    rcases Unserved.resume_cases h.isClosed call now with hsame | hrefused
    · rw [hsame]
    · rw [hrefused, yield_refuse]
      rfl
  | borrowExpired call now => exact h.yield_borrowExpired call now
  | cancelBorrow call => exact h.yield_cancelBorrow call
  | sendOn call | checkOn call => rw [Pool.perform, beginOn, hnone]
  | hearLoan call now stimulus => rw [Pool.perform, hearLoan, hnone]
  | abandonLoan call => rw [Pool.perform, abandonLoan, hnone]
  | invalidateLoan call => rw [Pool.perform, invalidateLoan, hnone]
  | release call => rw [Pool.perform, release, hnone]
  | destroyLoan call => rw [Pool.perform, destroyLoan, hnone]
  | loseLoan call => rw [Pool.perform, loseLoan, hnone]
  | takeGuest guest =>
    rw [Pool.perform, takeBack, h.isClosed]
    split
    · rfl
    · split <;> exact yield_destroy p guest
  | destroyGuest guest =>
    rw [Pool.perform]
    split
    · rfl
    · exact yield_destroy p guest
  | resize min max now => exact h.yield_resize min max now
  | clear =>
    rw [Pool.perform, clear, h.idle]
    exact hidle
  | abandon =>
    rw [Pool.perform, abandon, h.idle]
    exact hidle
  | tend now =>
    rw [Pool.perform, tend]
    split
    · rename_i hstage
      rw [if_pos h.isClosed, yield, yield, hstage]
      rfl
    · rfl
  | upkeepDialled now outcome =>
    have hupkeep := h.upkeep
    rw [Pool.perform, upkeepDialled]
    split
    · rename_i hstage
      rw [hstage] at hupkeep
      contradiction
    · rfl
  | upkeepExpired now =>
    have hupkeep := h.upkeep
    rw [Pool.perform, upkeepExpired]
    split
    · rename_i hstage
      rw [hstage] at hupkeep
      contradiction
    · rfl
  | startDrain call now =>
    rw [Pool.perform, startDrain, if_pos h.isClosed]
    exact yield_ask p rfl
  | resumeDrain now => rw [Pool.perform, resumeDrain, h.drain]
  | drainExpired now => rw [Pool.perform, drainExpired, h.drain]
  | cancelDrain call => rw [Pool.perform, cancelDrain, h.drain]
  | settled => exact absurd rfl hevent

theorem drain_perform (h : p.Ended) (event : PoolEvent) : (p.perform event).drain = none := by
  cases hdrains : event.isDrains with
  | false => exact (drain_of_closing (closing_perform hdrains)).trans h.drain
  | true =>
    cases event with
    | startDrain call now =>
      rw [Pool.perform, startDrain, if_pos h.isClosed]
      exact h.drain
    | resumeDrain now =>
      rw [Pool.perform, resumeDrain, h.drain]
      exact h.drain
    | drainExpired now =>
      rw [Pool.perform, drainExpired, h.drain]
      exact h.drain
    | cancelDrain call =>
      rw [Pool.perform, cancelDrain, h.drain]
      exact h.drain
    | _ => contradiction

theorem perform (h : p.Ended) (event : PoolEvent) :
    (p.perform event).Ended ∧ (p.perform event).created = p.created ∧
      (p.perform event).lendings ⊆ p.lendings := by
  have hclosed := isClosed_perform h.isClosed event
  have hunserved := fun call => (h.unserved call).perform h.inOrder.apart h.isClosed event
  by_cases hsettled : event = .settled
  · subst hsettled
    exact ⟨⟨hclosed, h.drain, h.inOrder.perform _, h.idle, h.upkeep, hunserved⟩, rfl,
      List.nil_subset _⟩
  · have hyield := h.yield_perform hsettled
    have hidle : (p.perform event).idle = p.idle := congrArg Yield.idle hyield
    have hopens : (p.perform event).upkeep.stage.isOpening = p.upkeep.stage.isOpening :=
      congrArg Yield.opens hyield
    have hlendings : (p.perform event).lendings = p.lendings := congrArg Yield.lent hyield
    refine ⟨⟨hclosed, h.drain_perform event, h.inOrder.perform event, hidle.trans h.idle,
      hopens.trans h.upkeep, hunserved⟩, congrArg Yield.created hyield, ?_⟩
    rw [hlendings]
    exact List.Subset.refl _

theorem run (h : p.Ended) (events : List PoolEvent) :
    (p.run events).Ended ∧ (p.run events).created = p.created ∧
      (p.run events).lendings ⊆ p.lendings := by
  induction events generalizing p with
  | nil => exact ⟨h, rfl, List.Subset.refl _⟩
  | cons event rest ih =>
    obtain ⟨hstep, hcreated, hlendings⟩ := h.perform event
    obtain ⟨hrun, hcreated', hlendings'⟩ := ih hstep
    exact ⟨hrun, hcreated'.trans hcreated, List.Subset.trans hlendings' hlendings⟩

/-- No session takes up a place. -/
theorem size_eq (h : p.Ended) : p.stats.size = 0 := by
  have hchecked : p.borrows.values.filterMap (·.stage.session?) = [] := by
    refine List.filterMap_eq_nil_iff.mpr ?_
    intro b hb
    obtain ⟨call, hcall⟩ := Roster.mem_values_iff.mp hb
    rw [(h.unserved call).parked b hcall]
    rfl
  have hlent : p.loans.values = [] :=
    Roster.values_eq_nil_iff.mpr fun call => (h.unserved call).unlent
  show p.live = 0
  rw [h.inOrder.counted.live, openSlots, sessions, h.idle, hchecked, hlent]
  rfl

theorem spent (h : p.Ended) (events : List PoolEvent) : Spent p (p.run events) := by
  obtain ⟨hrun, hcreated, hlendings⟩ := h.run events
  refine ⟨hrun.size_eq, ?_, ?_, hcreated, hlendings⟩
  · rw [stats, hrun.idle]
    rfl
  · exact Roster.values_eq_nil_iff.mpr fun call => (hrun.unserved call).unlent

end Ended

/-! ## When something is under way -/

/-- Who is connecting may get a session, whether or not the pool is closed. -/
theorem lent_of_dialling {id : Nat} {until_ deadline : Instant} {counts : Bool}
    (hb : p.borrows.get? call = some ⟨.dialling id until_, deadline, counts⟩) (now : Instant)
    (line : LineId) :
    (p.dialled call now (.ok line)).loans.get? call = some (p.openedSession id line now) := by
  rw [dialled, hb]
  show (p.loans.put call (p.openedSession id line now)).get? call = _
  rw [Roster.get?_put, if_pos rfl]

/-- Who pauses may connect when the pause is over. -/
theorem lent_of_resting {wakeAt deadline : Instant} {counts : Bool}
    (hb : p.borrows.get? call = some ⟨.resting wakeAt, deadline, counts⟩) (line : LineId) :
    ((p.rested call wakeAt).dialled call wakeAt (.ok line)).loans.get? call ≠ none := by
  have hdialling : (p.rested call wakeAt).borrows.get? call =
      some ⟨.dialling p.nextId (p.settings.connectTimeout.after wakeAt), deadline, counts⟩ := by
    rw [rested, hb]
    dsimp only
    rw [if_pos (Nat.le_refl wakeAt)]
    show (p.borrows.put call _).get? call = _
    rw [Roster.get?_put, if_pos rfl]
  rw [lent_of_dialling hdialling]
  exact Option.some_ne_none _

/-- A session that is connected ahead of need is opened. -/
theorem created_upkeepDialled {id : Nat} {deadline : Instant}
    (hstage : p.upkeep.stage = .dialling id deadline) (now : Instant) (line : LineId) :
    (p.upkeepDialled now (.ok line)).created = p.created + 1 := by
  have hfill : ∀ q : Pool, (q.fill now).created = q.created := by
    intro q
    unfold fill
    split <;> rfl
  rw [upkeepDialled, hstage]
  dsimp only
  rw [hfill]
  rfl

/-- What is under way when a drain ends may bring forth a session, as long as all sessions are the
pool's own. -/
theorem nothing_under_way (hcounted : p.Counted) (hown : ∀ s ∈ p.sessions, s.pool = some p.id)
    (hspent : ∀ events, Spent p (p.run events)) :
    (∀ b ∈ p.borrows.values, b.stage = .parked) ∧ p.upkeep.stage.isOpening = false := by
  constructor
  · intro b hb
    obtain ⟨call, hcall⟩ := Roster.mem_values_iff.mp hb
    obtain ⟨stage, deadline, counts⟩ := b
    cases stage with
    | parked => rfl
    | checking s =>
      -- The session under check is open.
      have hs : s ∈ p.sessions :=
        List.mem_append_left _ (List.mem_append_right _ (List.mem_filterMap.mpr ⟨_, hb, rfl⟩))
      have hopen : 0 < p.openSlots :=
        List.countP_pos_iff.mpr ⟨s, hs, decide_eq_true (hown s hs)⟩
      have hsize : p.live = 0 := (hspent []).size
      have hlive := hcounted.live
      omega
    | resting wakeAt =>
      have hlent := lent_of_resting hcall 0
      have hnone := (hspent [.rested call wakeAt, .dialled call wakeAt (.ok 0)]).unlent
      exact absurd (Roster.values_eq_nil_iff.mp hnone call) hlent
    | dialling id until_ =>
      have hlent := lent_of_dialling hcall 0 0
      have hnone := (hspent [.dialled call 0 (.ok 0)]).unlent
      have hcontra := hlent.symm.trans (Roster.values_eq_nil_iff.mp hnone call)
      contradiction
  · cases hstage : p.upkeep.stage with
    | dialling id deadline =>
      have hcreated := (hspent [.upkeepDialled 0 (.ok 0)]).created
      have hmore : (p.run [.upkeepDialled 0 (.ok 0)]).created = p.created + 1 :=
        created_upkeepDialled hstage 0 0
      omega
    | waiting | sifting | «over» => rfl

/-! ## Drains -/

/-- What a drain that reached its end left behind: the pool is closed, without idle sessions. -/
theorem drained_cases {event : PoolEvent} (id : PoolId) (studio : Studio) (settings : PoolSettings)
    (now : Instant) (events : List PoolEvent)
    (hbefore : ((forStudio id studio settings now).run events).isFinished = false)
    (hafter : (((forStudio id studio settings now).run events).perform event).isFinished = true) :
    let p := ((forStudio id studio settings now).run events).perform event
    p.isClosed = true ∧ p.idle = [] ∧ p.drain = none := by
  intro p
  obtain ⟨-, hidle, hdrain⟩ := ended_of_finished hbefore hafter
  have hnew : (forStudio id studio settings now).closing = ⟨false, false, none⟩ := rfl
  have hcases := isClosed_or_open_run (isClosed_or_open_run (.inr hnew) events) [event]
  rcases hcases with hclosed | hopen
  · exact ⟨hclosed, hidle, hdrain⟩
  · have hunfinished : p.isFinished = false := congrArg Closing.isFinished hopen
    rw [hunfinished] at hafter
    contradiction

/-- How final a drain is. When the drain that closed a pool ends and no session is lent, a call that
was parked, or is made later, never gets a session. If all callers were parked and the upkeep
connected nothing, no session is idle, open, lent or opened ever again; and as long as the pool has
only sessions of its own, that is so in no other case. -/
theorem drained_is_final_iff (id : PoolId) (studio : Studio) (settings : PoolSettings)
    (now : Instant) (before : List PoolEvent) (ending : PoolEvent) :
    let running := (forStudio id studio settings now).run before
    let p := running.perform ending
    running.isFinished = false → p.isFinished = true → p.loans.values = [] →
    (∀ call, (∀ b, p.borrows.get? call = some b → b.stage = .parked) →
      ∀ after, (p.run after).loans.get? call = none) ∧
    ((∀ b ∈ p.borrows.values, b.stage = .parked) ∧ p.upkeep.stage.isOpening = false →
      ∀ after, Spent p (p.run after)) ∧
    ((∀ event ∈ before ++ [ending], ∀ s ∈ event.guest?, s.pool = none) →
      (∀ after, Spent p (p.run after)) →
      (∀ b ∈ p.borrows.values, b.stage = .parked) ∧ p.upkeep.stage.isOpening = false) := by
  intro running p hbefore hafter hunlent
  obtain ⟨hclosed, hidle, hdrain⟩ := drained_cases id studio settings now before hbefore hafter
  have hnew := inOrder_forStudio id studio settings now
  have horder : p.InOrder := (hnew.run before).perform ending
  have hnone := Roster.values_eq_nil_iff.mp hunlent
  refine ⟨?_, ?_, ?_⟩
  · intro call hparked after
    exact (Unserved.run ⟨hnone call, hparked⟩ horder.apart hclosed after).unlent
  · rintro ⟨hparked, hupkeep⟩ after
    have hunserved : ∀ call, p.Unserved call := fun call =>
      ⟨hnone call, fun b hb => hparked b (Roster.mem_values_of_get? hb)⟩
    exact Ended.spent ⟨hclosed, hdrain, horder, hidle, hupkeep, hunserved⟩ after
  · intro hguests
    have hnobody : ∀ s ∈ (forStudio id studio settings now).sessions,
        s.pool = some (forStudio id studio settings now).id := by
      intro s hs
      contradiction
    have hown := forall_own_run hnew hnobody hguests
    have hrun : (forStudio id studio settings now).run (before ++ [ending]) = p :=
      List.foldl_append
    rw [hrun] at hown
    exact nothing_under_way horder.counted hown

/-- The only session is lent and a second caller parks. The drain waits until the session is
back. -/
def drainedInPeace : List PoolEvent :=
  [.acquire 1 0, .dialled 1 0 (.ok 7), .acquire 2 0, .startDrain 3 1, .release 1]

/-- The parked caller goes without, and no session is left. -/
theorem drainedInPeace_is_final :
    let p := ((forStudio 0 ⟨"s", "h", 1, 0, 1, none, false⟩ {} 0).run drainedInPeace).perform
      (.resumeDrain 1)
    p.isFinished = true ∧ p.loans.values = [] ∧ p.borrows.keys = [2] ∧
      Spent p (p.run [.resume 2 2, .acquire 4 2]) := by
  have hall := drained_is_final_iff 0 ⟨"s", "h", 1, 0, 1, none, false⟩ {} 0 drainedInPeace
    (.resumeDrain 1)
  refine ⟨by decide, by decide, by decide, ?_⟩
  exact (hall (by decide) (by decide) (by decide)).2.1 (by decide) [.resume 2 2, .acquire 4 2]

/-- Connecting failed, and the caller pauses when the drain starts. No session is lent, so the drain
ends at once. -/
def restingAtDrain : List PoolEvent :=
  [.acquire 1 0, .dialled 1 0 (.error .refused)]

/-- After the pause the caller gets a session of the drained pool all the same. -/
theorem restingAtDrain_lends :
    let running := (forStudio 0 ⟨"s", "h", 1, 0, 1, none, false⟩ {} 0).run restingAtDrain
    let p := running.perform (.startDrain 2 0)
    let wakeAt := running.settings.createRetryDelay.after 0
    let q := p.run [.rested 1 wakeAt, .dialled 1 wakeAt (.ok 7)]
    running.isFinished = false ∧ p.isFinished = true ∧ p.loans.values = [] ∧
      q.stats.size = 1 ∧ q.created = p.created + 1 ∧ q.loans.keys = [1] := by
  decide

end Pool

end BroadcastLink
