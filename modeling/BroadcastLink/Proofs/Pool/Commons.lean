import BroadcastLink.Proofs.Pool.Origin
import BroadcastLink.Proofs.Pool.Repair
import BroadcastLink.Station

/-!
# Pools side by side

Any number of pools, and callers with sessions in hand. Within a pool everything happens as it does
in one that is alone. But a caller may give what it has in hand to any pool: the one that lent it,
another one, or any if it connected on its own. A session takes its place along, so the place may
come free when another pool lets the session go.
-/

namespace BroadcastLink

/-- A connection: the pool that opened it, if one did, and where it leads. -/
structure Dial where
  opener : Option PoolId
  host : String
  port : UInt16
  deriving DecidableEq, Repr

/-- Pools side by side, the sessions that callers connected on their own, all connections that were
opened, and those that were hung up since. -/
structure Commons where
  pools : Roster PoolId Pool := {}
  own : Roster CallId Session := {}
  dials : Roster LineId Dial := {}
  hungUp : List LineId := []

/-- What happens among pools. -/
inductive CommonsEvent where
  | found (id : PoolId) (studio : Studio) (settings : PoolSettings) (now : Instant)
  | within (id : PoolId) (event : PoolEvent)
  /-- A caller connects on its own. -/
  | connect (call : CallId) (id : Nat) (host : String) (port : UInt16) (line : LineId)
      (patience : Duration) (now : Instant)
  /-- Something happens to a session that a caller connected. -/
  | use (call : CallId) (event : SessionEvent)
  | lose (call : CallId)
  /-- A session in hand is released to a pool. -/
  | giveBack (held : Held) (id : PoolId)
  /-- A session in hand is given to a pool to be closed. -/
  | giveUp (held : Held) (id : PoolId)

/-- A connection that a pool opens. -/
def Pool.ownDial (p : Pool) : Dial := ⟨some p.id, p.host, p.port⟩

namespace Commons

/-! ## What callers have in hand -/

/-- A session in a caller's hands. -/
def held? (c : Commons) : Held → Option Session
  | .lent pool loan => (c.pools.get? pool).bind (·.loans.get? loan)
  | .own call => c.own.get? call

/-! ## What pools ask for -/

/-- Do what a pool asks for, as far as connections and other pools have to do with it. -/
def doAct (c : Commons) : PoolAct → Commons
  | .hangUp line => { c with hungUp := c.hungUp ++ [line] }
  | .freeIn other =>
    match c.pools.get? other with
    | none => c
    | some p => { c with pools := c.pools.put other { p.freePlace true with acts := [] } }
  | _ => c

/-- Put a pool back that has acted, and do what it asks for. -/
def settle (c : Commons) (id : PoolId) (p : Pool) : Commons :=
  p.acts.foldl doAct { c with pools := c.pools.put id { p with acts := [] } }

/-- Let a pool act, and do what it asks for. -/
def onPool (c : Commons) (id : PoolId) (f : Pool → Pool) : Commons :=
  match c.pools.get? id with
  | none => c
  | some p => c.settle id (f p)

/-! ## What happens -/

/-- A session in hand leaves it. -/
def letGo (c : Commons) : Held → Commons
  | .lent pool loan => c.onPool pool (·.endLoan loan)
  | .own call => { c with own := c.own.erase call }

/-- A session in hand is given to a pool, which takes it in its way. -/
def give (c : Commons) (held : Held) (id : PoolId) (take : Pool → Session → Pool) : Commons :=
  match c.held? held with
  | none => c
  | some s => (c.letGo held).onPool id (take · s)

/-- A pool has opened a connection, to where it always connects. -/
def dialled (c : Commons) (id : PoolId) (opened : Option LineId) : Commons :=
  match c.pools.get? id, opened with
  | some p, some line => { c with dials := c.dials.put line p.ownDial }
  | _, _ => c

/-- One thing that happens. -/
def perform (c : Commons) : CommonsEvent → Commons
  | .found id studio settings now =>
    { c with pools := c.pools.put id (.forStudio id studio settings now) }
  | .within id event => (c.dialled id event.line?).onPool id (·.perform event)
  | .connect call id host port line patience now =>
    { c with
      own := c.own.put call (.opened id line patience now)
      dials := c.dials.put line ⟨none, host, port⟩ }
  | .use call event => { c with own := c.own.modify call (·.undergo event) }
  | .lose call =>
    match c.own.get? call with
    | none => c
    | some s => { c with own := c.own.erase call, hungUp := c.hungUp ++ [s.line] }
  | .giveBack held id => c.give held id Pool.takeBack
  | .giveUp held id => c.give held id Pool.destroy

/-- Pools, calls and connections are new when they come, sessions come into a pool by being given to
it, and are given to pools that there are. -/
def Admits (c : Commons) : CommonsEvent → Bool
  | .found id _ _ _ => !c.pools.has id
  | .within _ event => event.guest?.isNone && event.line?.all fun line => !c.dials.has line
  | .connect call _ _ _ line _ _ => !c.own.has call && !c.dials.has line
  | .use _ _ | .lose _ => true
  | .giveBack _ id | .giveUp _ id => c.pools.has id

def step (c : Commons) (event : CommonsEvent) : Commons :=
  if c.Admits event then c.perform event else c

/-- Any number of things happen. -/
def run (c : Commons) (events : List CommonsEvent) : Commons := events.foldl step c

variable {c : Commons} {id : PoolId} {p q : Pool} {acts : List PoolAct}

theorem run_concat (c : Commons) (events : List CommonsEvent) (event : CommonsEvent) :
    c.run (events ++ [event]) = (c.run events).step event :=
  List.foldl_append

/-! ## Settling -/

theorem hungUp_doAct (c : Commons) (act : PoolAct) :
    (c.doAct act).hungUp = c.hungUp ++ act.hungUp?.toList := by
  cases act with
  | hangUp line => rfl
  | freeIn other =>
    unfold doAct
    dsimp only
    split
    · exact (List.append_nil _).symm
    · exact (List.append_nil _).symm
  | _ => exact (List.append_nil _).symm

theorem hungUp_foldl (acts : List PoolAct) (c : Commons) :
    (acts.foldl doAct c).hungUp = c.hungUp ++ acts.filterMap PoolAct.hungUp? := by
  induction acts generalizing c with
  | nil => exact (List.append_nil _).symm
  | cons act rest ih =>
    rw [List.foldl_cons, ih, hungUp_doAct, List.append_assoc]
    cases hact : act.hungUp? <;> simp [hact]

theorem hungUp_settle (c : Commons) (id : PoolId) (p : Pool) :
    (c.settle id p).hungUp = c.hungUp ++ p.hungUp :=
  hungUp_foldl p.acts _

theorem get?_doAct {act : PoolAct} (h : act ≠ .freeIn id) :
    (c.doAct act).pools.get? id = c.pools.get? id := by
  cases act with
  | freeIn other =>
    have hother : id ≠ other := fun heq => h (heq ▸ rfl)
    unfold doAct
    dsimp only
    split
    · rfl
    · rw [Roster.get?_put, if_neg hother]
  | _ => rfl

theorem get?_foldl (h : .freeIn id ∉ acts) :
    (acts.foldl doAct c).pools.get? id = c.pools.get? id := by
  induction acts generalizing c with
  | nil => rfl
  | cons act rest ih =>
    rw [List.foldl_cons, ih fun hmem => h (List.mem_cons_of_mem act hmem),
      get?_doAct fun heq => h (heq ▸ List.mem_cons_self)]

/-- A pool that frees no place of its own by way of others is put back as it is. -/
theorem get?_settle (h : .freeIn id ∉ p.acts) :
    (c.settle id p).pools.get? id = some { p with acts := [] } := by
  rw [settle, get?_foldl h, Roster.get?_put, if_pos rfl]

theorem get?_settle_of_ne {other : PoolId} (hother : other ≠ id) (h : .freeIn other ∉ p.acts) :
    (c.settle id p).pools.get? other = c.pools.get? other := by
  rw [settle, get?_foldl h, Roster.get?_put, if_neg hother]

theorem onPool_of_get? (h : c.pools.get? id = some p) (f : Pool → Pool) :
    c.onPool id f = c.settle id (f p) := by
  rw [onPool, h]

end Commons

namespace Pool

variable {p : Pool} {s t : Session}

/-! ## Strangers -/

/-- The free places, those owed, the open sessions and the maximum are as they were. -/
structure SameCapacity (p q : Pool) : Prop where
  places : q.places = p.places
  owed : q.owed = p.owed
  live : q.live = p.live
  max : q.max = p.max

/-- Is a session that takes up a place somewhere kept when it comes back? -/
def keeps (p : Pool) (s : Session) : Bool :=
  !(p.isClosed || !s.state.isReusable || p.max < p.live)

/-- A session was hung up, and of the pool only the upkeep has to do with that. -/
structure TurnsAway (p q : Pool) (s : Session) : Prop where
  sessions : q.sessions = p.sessions
  capacity : p.SameCapacity q
  upkeep : q.upkeep = if p.isClosed then p.upkeep else p.upkeep.ask
  hungUp : q.hungUp = p.hungUp ++ [s.line]
  frees : .freeIn p.id ∈ q.acts → .freeIn p.id ∈ p.acts

theorem sessions_destroy (p : Pool) (s : Session) : (p.destroy s).sessions = p.sessions := by
  have hsame := sameHolders_destroy p s
  rw [sessions, sessions, idle_destroy, hsame.borrows, hsame.loans]

/-- The place of a stranger does not come free in the pool that lets it go. -/
theorem discard_stranger (h : s.pool ≠ some p.id) :
    ∃ acts, .freeIn p.id ∉ acts ∧ p.discard s = { p with acts := p.acts ++ acts } := by
  unfold discard
  cases hpool : s.pool with
  | none => exact ⟨[.hangUp s.line], by simp, rfl⟩
  | some other =>
    have hother : other ≠ p.id := fun heq => h (heq ▸ hpool)
    refine ⟨[.hangUp s.line, .freeIn other], by simp [hother.symm], ?_⟩
    show (if other = p.id then _ else _ : Pool) = _
    rw [if_neg hother, ask, ask, List.append_assoc]
    rfl

/-- A session that takes up no place of the pool is closed without changing a count, and the upkeep
is asked to replace it all the same. -/
theorem turnsAway_destroy (h : s.pool ≠ some p.id) : p.TurnsAway (p.destroy s) s := by
  have hledger : (p.destroy s).ledger = p.ledger := by
    rw [ledger_destroy, Ledger.closed, if_neg]
    exact h
  obtain ⟨acts, hfree, heq⟩ := discard_stranger h
  refine ⟨sessions_destroy p s, ⟨congrArg Ledger.places hledger, congrArg Ledger.owed hledger,
    congrArg Ledger.live hledger, congrArg Ledger.max hledger⟩, ?_, hungUp_destroy p s, ?_⟩
  · unfold destroy
    rw [heq]
    dsimp only
    split
    · rfl
    · rfl
  · unfold destroy
    rw [heq]
    dsimp only
    intro hmem
    have hmem' : .freeIn p.id ∈ p.acts ++ acts := by
      split at hmem
      · exact hmem
      · exact (List.mem_append.mp hmem).resolve_right (by simp)
    exact (List.mem_append.mp hmem').resolve_right hfree

theorem takeBack_unpooled (h : s.pool = none) : p.takeBack s = p.destroy s :=
  if_pos (Option.isNone_iff_eq_none.mpr h)

theorem takeBack_of_keeps (hpool : s.pool ≠ none) (h : p.keeps s = true) :
    p.takeBack s = { p with idle := p.idle ++ [s] }.tellOne := by
  rw [keeps, Bool.not_eq_true'] at h
  rw [takeBack, if_neg fun hnone => hpool (Option.isNone_iff_eq_none.mp hnone),
    if_neg (by rw [h]; exact Bool.false_ne_true)]

theorem takeBack_of_not_keeps (h : p.keeps s = false) : p.takeBack s = p.destroy s := by
  rw [keeps, Bool.not_eq_false'] at h
  rw [takeBack, if_pos h, ite_self]

/-! ## Sessions and dials -/

/-- What comes back stays only if it takes up a place somewhere. -/
theorem mem_sessions_takeBack (h : t ∈ (p.takeBack s).sessions) :
    t ∈ p.sessions ∨ t = s ∧ s.pool ≠ none := by
  cases hkeeps : p.keeps s with
  | false =>
    rw [takeBack_of_not_keeps hkeeps, sessions_destroy] at h
    exact .inl h
  | true =>
    by_cases hpool : s.pool = none
    · rw [takeBack_unpooled hpool, sessions_destroy] at h
      exact .inl h
    · rw [takeBack_of_keeps hpool hkeeps] at h
      rcases List.mem_append.mp h with hfront | hloan
      · rcases List.mem_append.mp hfront with hidle | hcheck
        · rcases List.mem_append.mp hidle with hold | hnew
          · exact .inl (List.mem_append_left _ (List.mem_append_left _ hold))
          · exact .inr ⟨List.mem_singleton.mp hnew, hpool⟩
        · exact .inl (List.mem_append_left _ (List.mem_append_right _ hcheck))
      · exact .inl (List.mem_append_right _ hloan)

theorem mem_sessions_endLoan {loan : CallId} (h : t ∈ (p.endLoan loan).sessions) :
    t ∈ p.sessions := by
  rcases List.mem_append.mp h with hfront | hloan
  · exact List.mem_append_left _ hfront
  · obtain ⟨call, hcall⟩ := Roster.mem_values_iff.mp hloan
    rw [endLoan, Roster.get?_erase] at hcall
    split at hcall
    · contradiction
    · exact mem_sessions_of_lent hcall

theorem ownDial_of_fixture {q : Pool} (h : q.fixture = p.fixture) : q.ownDial = p.ownDial :=
  congrArg (fun f : Fixture => (⟨some f.id, f.host, f.port⟩ : Dial)) h

/-- Whatever happens to a pool, it connects where it always did. -/
theorem ownDial_perform (p : Pool) (event : PoolEvent) : (p.perform event).ownDial = p.ownDial := by
  cases framed_perform p event with
  | same hframe => exact ownDial_of_fixture (fixture_of_frame hframe)
  | answers _ hanswers => exact ownDial_of_fixture hanswers.fixture
  | drains _ hcloses => exact ownDial_of_fixture hcloses.fixture
  | @resized min max now _ hq =>
    have hbounds : (p.resize min max now).fixture = _ :=
      congrArg Frame.fixture (frame_resize p min max now)
    rw [hq]
    exact congrArg (fun f : Fixture => (⟨some f.id, f.host, f.port⟩ : Dial)) hbounds
  | settled hq =>
    rw [hq]
    rfl

end Pool

end BroadcastLink
