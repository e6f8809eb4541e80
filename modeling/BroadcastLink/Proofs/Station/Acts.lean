import BroadcastLink.Proofs.Pool.OnWires
import BroadcastLink.Station.Tasks

/-!
# What doing a pool's acts leaves alone

A station with one pool, whose calls all execute commands on it. Doing what the pool asks for wakes
tasks, hangs up connections, notes that a session is there and refuses calls; it touches no session,
and no execution is answered by it.
-/

namespace BroadcastLink

/-- The sessions and callers of a pool stayed as they were. -/
structure Pool.SameSessions (p q : Pool) : Prop where
  idle : q.idle = p.idle
  borrows : q.borrows = p.borrows
  loans : q.loans = p.loans

theorem Pool.SameSessions.trans {p q r : Pool} (h : p.SameSessions q) (h' : q.SameSessions r) :
    p.SameSessions r :=
  ⟨h'.idle.trans h.idle, h'.borrows.trans h.borrows, h'.loans.trans h.loans⟩

theorem Pool.Attuned.sameSessions {p q : Pool} {wires : Roster LineId Wire}
    {orders : Roster CallId Order} (h : p.Attuned wires orders) (hsame : p.SameSessions q) :
    q.Attuned wires orders := by
  have hsessions : q.toAccount.sessions = p.toAccount.sessions := by
    simp only [toAccount, Ledger.account, Ledger.sessions, ledger, hsame.idle, hsame.borrows,
      hsame.loans]
  refine ⟨h.apart.sameHolders ⟨hsame.borrows, hsame.loans⟩, fun call hcall => ?_, ?_, ?_⟩
  · rw [hsame.borrows, hsame.loans] at hcall
    exact h.known call hcall
  · rw [hsessions]
    exact h.sessions
  · rw [hsame.loans]
    exact h.loans

theorem Pool.sameSessions_freePlace (p : Pool) : p.SameSessions (p.freePlace true) := by
  have hledger := ledger_freePlace_open p
  unfold Ledger.freed at hledger
  split at hledger
  · exact ⟨congrArg Ledger.idle hledger, congrArg Ledger.borrows hledger,
      congrArg Ledger.loans hledger⟩
  · exact ⟨congrArg Ledger.idle hledger, congrArg Ledger.borrows hledger,
      congrArg Ledger.loans hledger⟩

namespace Station

variable {orders : Roster CallId Order} {s s' : Station}

/-- Every call in progress executes what it was given, on the one pool. -/
def Executing (orders : Roster CallId Order) (s : Station) : Prop :=
  ∀ call activity, s.calls.get? call = some activity → ∃ order stage,
    orders.get? call = some order ∧ activity = .executing 0 order.commands order.raw stage

/-- Whatever happened, it touched no session, made no pool, answered no execution, and left those in
progress what they are. -/
structure Undisturbed (orders : Roster CallId Order) (s s' : Station) : Prop where
  pool : ∀ p, s.pools.get? 0 = some p → ∃ q, s'.pools.get? 0 = some q ∧ p.SameSessions q
  others : (∀ id, id ≠ 0 → s.pools.get? id = none) → ∀ id, id ≠ 0 → s'.pools.get? id = none
  registry : s'.registry = s.registry
  calls : s.Executing orders → s'.Executing orders
  answers : ∀ call text, (call, Answer.executed text) ∈ s'.answers →
    (call, Answer.executed text) ∈ s.answers

theorem Undisturbed.trans {s'' : Station} (h : Undisturbed orders s s')
    (h' : Undisturbed orders s' s'') : Undisturbed orders s s'' := by
  refine ⟨fun p hp => ?_, fun hothers => h'.others (h.others hothers),
    h'.registry.trans h.registry, fun hcalls => h'.calls (h.calls hcalls),
    fun call text hmem => h.answers call text (h'.answers call text hmem)⟩
  obtain ⟨q, hq, hsame⟩ := h.pool p hp
  obtain ⟨r, hr, hsame'⟩ := h'.pool q hq
  exact ⟨r, hr, hsame.trans hsame'⟩

/-- Nothing but tasks to run, connections to hang up and the clock can have changed. -/
theorem undisturbed_of_same (hpools : s'.pools = s.pools) (hregistry : s'.registry = s.registry)
    (hcalls : s'.calls = s.calls) (hanswers : s'.answers = s.answers) :
    Undisturbed orders s s' := by
  refine ⟨fun p hp => ⟨p, hpools ▸ hp, rfl, rfl, rfl⟩, fun hothers => hpools ▸ hothers, hregistry,
    fun hexecuting call activity hactivity => ?_, fun call text hmem => hanswers ▸ hmem⟩
  rw [hcalls] at hactivity
  exact hexecuting call activity hactivity

theorem Undisturbed.refl (s : Station) : Undisturbed orders s s :=
  undisturbed_of_same rfl rfl rfl rfl

theorem undisturbed_wake (s : Station) (t : Task) : Undisturbed orders s (s.wake t) := by
  unfold wake
  split
  · exact .refl s
  · exact undisturbed_of_same rfl rfl rfl rfl

/-- Calls are answered otherwise than with a response. -/
theorem undisturbed_answer (s : Station) (call : CallId) {a : Answer}
    (ha : ∀ text, a ≠ .executed text) : Undisturbed orders s (s.answer call a) := by
  refine ⟨fun p hp => ⟨p, hp, rfl, rfl, rfl⟩, fun hothers => hothers, rfl, fun hcalls => hcalls,
    fun c text hmem => ?_⟩
  rcases List.mem_append.mp hmem with hold | hnew
  · exact hold
  · obtain ⟨-, heq⟩ := Prod.mk.inj (List.mem_singleton.mp hnew)
    exact absurd heq.symm (ha text)

theorem executing_erase (h : s.Executing orders) (call : CallId) :
    { s with calls := s.calls.erase call }.Executing orders := by
  intro c activity hactivity
  rw [Roster.get?_erase] at hactivity
  split at hactivity
  · contradiction
  · exact h c activity hactivity

theorem undisturbed_erase (s : Station) (call : CallId) :
    Undisturbed orders s { s with calls := s.calls.erase call } :=
  ⟨fun p hp => ⟨p, hp, rfl, rfl, rfl⟩, fun hothers => hothers, rfl,
    fun hcalls => executing_erase hcalls call, fun _ _ hmem => hmem⟩

theorem undisturbed_finish (s : Station) (call : CallId) {a : Answer}
    (ha : ∀ text, a ≠ .executed text) : Undisturbed orders s (s.finish call a) :=
  (undisturbed_erase s call).trans (undisturbed_answer _ call ha)

/-- A call that executes what it was given may be at any stage of it. -/
theorem undisturbed_putCall (s : Station) {call : CallId} {order : Order}
    (horder : orders.get? call = some order) (stage : ExecuteStage) :
    Undisturbed orders s
      (s.putCall call (.executing 0 order.commands order.raw stage)) := by
  refine ⟨fun p hp => ⟨p, hp, rfl, rfl, rfl⟩, fun hothers => hothers, rfl,
    fun hexecuting c activity hactivity => ?_, fun _ _ hmem => hmem⟩
  replace hactivity : (s.calls.put call _).get? c = some activity := hactivity
  rw [Roster.get?_put] at hactivity
  split at hactivity
  · rename_i hc
    exact ⟨order, stage, hc ▸ horder, (Option.some.inj hactivity).symm⟩
  · exact hexecuting c activity hactivity

/-- A pool is put back with the sessions it had. -/
theorem undisturbed_putPool {id : PoolId} {p q : Pool} (hp : s.pools.get? id = some p)
    (hsame : p.SameSessions q) :
    Undisturbed orders s { s with pools := s.pools.put id q } := by
  refine ⟨fun r hr => ?_, fun hothers other hother => ?_, rfl, fun hcalls => hcalls,
    fun _ _ hmem => hmem⟩
  · show ∃ q', (s.pools.put id q).get? 0 = some q' ∧ _
    rw [Roster.get?_put]
    split
    · rename_i hid
      rw [hid] at hr
      obtain rfl := Option.some.inj (hp.symm.trans hr)
      exact ⟨q, rfl, hsame⟩
    · exact ⟨r, hr, rfl, rfl, rfl⟩
  · show (s.pools.put id q).get? other = none
    rw [Roster.get?_put]
    split
    · rename_i hid
      rw [← hid, hothers other hother] at hp
      contradiction
    · exact hothers other hother

theorem undisturbed_foldl {act : Station → PoolAct → Station}
    (hact : ∀ s a, s.Executing orders → Undisturbed orders s (act s a)) (acts : List PoolAct)
    (hexecuting : s.Executing orders) : Undisturbed orders s (acts.foldl act s) := by
  induction acts generalizing s with
  | nil => exact .refl s
  | cons a rest ih =>
    have hfirst := hact s a hexecuting
    exact hfirst.trans (ih (hfirst.calls hexecuting))

/-- Who only executes commands has no drain to wait for. -/
theorem undisturbed_doOwnAct (id : PoolId) (s : Station) (a : PoolAct)
    (hexecuting : s.Executing orders) : Undisturbed orders s (doOwnAct id s a) := by
  -- One case for each thing a pool can ask for; a call is answered only by being refused.
  cases a with
  | hangUp line => exact undisturbed_of_same rfl rfl rfl rfl
  | freeIn other => exact .refl s
  | wake waiter =>
    cases waiter with
    | caller call => exact undisturbed_wake s _
    | drainer =>
      unfold doOwnAct
      dsimp only
      split
      · exact undisturbed_wake s _
      · exact .refl s
  | wakeUpkeep => exact undisturbed_wake s _
  | lent call session =>
    show Undisturbed orders s (s.lent call session)
    unfold lent
    split
    · exact undisturbed_finish s call fun _ h => by contradiction
    · rename_i hcall
      obtain ⟨order, _, horder, heq⟩ := hexecuting call _ hcall
      obtain ⟨rfl, rfl, rfl, -⟩ := Activity.executing.inj heq
      exact undisturbed_putCall s horder .lent
    · exact .refl s
  | refused call fault => exact undisturbed_finish s call fun _ h => by contradiction
  | drained call =>
    show Undisturbed orders s (s.drained call)
    unfold drained
    split
    · exact undisturbed_finish s call fun _ h => by contradiction
    · rename_i hcall
      obtain ⟨_, _, -, heq⟩ := hexecuting call _ hcall
      contradiction
    · exact .refl s

/-- A pool that has acted is put back, and what it asks for is done. -/
theorem undisturbed_settlePool {id : PoolId} {p q : Pool} {act : Station → PoolAct → Station}
    (hact : ∀ s a, s.Executing orders → Undisturbed orders s (act s a))
    (hp : s.pools.get? id = some p) (hsame : p.SameSessions q) (hexecuting : s.Executing orders) :
    Undisturbed orders s (s.settlePool id q act) := by
  -- The acts are taken out of the pool before they are done.
  have hput : Undisturbed orders s { s with pools := s.pools.put id { q with acts := [] } } :=
    undisturbed_putPool hp ⟨hsame.idle, hsame.borrows, hsame.loans⟩
  exact hput.trans (undisturbed_foldl hact q.acts (hput.calls hexecuting))

theorem undisturbed_doPoolAct (id : PoolId) (s : Station) (a : PoolAct)
    (hexecuting : s.Executing orders) : Undisturbed orders s (doPoolAct id s a) := by
  cases a with
  | freeIn other =>
    unfold doPoolAct
    dsimp only
    split
    · exact .refl s
    · rename_i p hp
      exact undisturbed_settlePool (undisturbed_doOwnAct other) hp (Pool.sameSessions_freePlace p)
        hexecuting
  | hangUp line => exact undisturbed_doOwnAct id s (.hangUp line) hexecuting
  | wake waiter => exact undisturbed_doOwnAct id s (.wake waiter) hexecuting
  | wakeUpkeep => exact undisturbed_doOwnAct id s .wakeUpkeep hexecuting
  | lent call session => exact undisturbed_doOwnAct id s (.lent call session) hexecuting
  | refused call fault => exact undisturbed_doOwnAct id s (.refused call fault) hexecuting
  | drained call => exact undisturbed_doOwnAct id s (.drained call) hexecuting

/-- The station with another pool in the place of the one it has. -/
def withPool (s : Station) (p : Pool) : Station := { s with pools := s.pools.put 0 p }

/-- Letting the pool act comes down to what the pool does. -/
theorem undisturbed_onPool {p : Pool} (hp : s.pools.get? 0 = some p)
    (hexecuting : s.Executing orders) (f : Pool → Pool) :
    Undisturbed orders (s.withPool (f p)) (s.onPool 0 f) := by
  have hthere : (s.withPool (f p)).pools.get? 0 = some (f p) := by
    rw [withPool, Roster.get?_put, if_pos rfl]
  have hsettled : Undisturbed orders (s.withPool (f p))
      ((s.withPool (f p)).settlePool 0 (f p) (doPoolAct 0)) :=
    undisturbed_settlePool (undisturbed_doPoolAct 0) hthere ⟨rfl, rfl, rfl⟩ hexecuting
  have hput : (s.withPool (f p)).settlePool 0 (f p) (doPoolAct 0) =
      s.settlePool 0 (f p) (doPoolAct 0) := by
    rw [settlePool, settlePool, withPool, Roster.put_put]
  rw [onPool, hp]
  rwa [hput] at hsettled

end Station

end BroadcastLink
