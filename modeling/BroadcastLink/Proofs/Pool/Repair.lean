import BroadcastLink.Proofs.Pool.Census
import BroadcastLink.Proofs.Pool.Pauses

/-!
# A round of upkeep

A round goes through the idle sessions once, with a count of the sessions open that it takes down as
it lets sessions go. Those above the maximum go, and stale ones as long as more than the minimum are
open; so the count never falls below the minimum, and whatever stays would stay again. What is
missing to the minimum is opened then, which nothing let go in the same round ever is.

A session of another pool that callers gave back is idle without being counted among the sessions
open. When it goes the count is taken down all the same, and as many sessions may stay too long.
-/

namespace BroadcastLink

/-- The connection that is hung up. -/
def PoolAct.hungUp? : PoolAct → Option LineId
  | .hangUp line => some line
  | _ => none

namespace Pool

variable {p q : Pool} {now : Instant} {live : Nat} {idle : List Session}

/-- A session was idle for longer than idle sessions should be. -/
def IsStale (p : Pool) (now : Instant) (s : Session) : Prop :=
  p.settings.softIdleTimeout.nanos < (s.idleFor now).nanos

instance (p : Pool) (now : Instant) (s : Session) : Decidable (p.IsStale now s) :=
  inferInstanceAs (Decidable (_ < _))

/-- The connections hung up and not told yet. -/
def hungUp (p : Pool) : List LineId := p.acts.filterMap PoolAct.hungUp?

/-! ## The bounds -/

/-- Only a resize changes the bounds, and it keeps the minimum at most the maximum. -/
theorem min_le_max_perform (h : p.min ≤ p.max) (event : PoolEvent) :
    (p.perform event).min ≤ (p.perform event).max := by
  have hsame : ∀ {q : Pool}, q.fixture = p.fixture → q.min ≤ q.max := by
    intro q hq
    rw [show q.min = p.min from congrArg Fixture.min hq,
      show q.max = p.max from congrArg Fixture.max hq]
    exact h
  cases framed_perform p event with
  | same hframe => exact hsame (fixture_of_frame hframe)
  | answers _ hanswers => exact hsame hanswers.fixture
  | drains _ hcloses => exact hsame hcloses.fixture
  | @resized min max now _ hq =>
    have hbounds : (p.resize min max now).fixture = _ :=
      congrArg Frame.fixture (frame_resize p min max now)
    rw [hq, show (p.resize min max now).min = _ from congrArg Fixture.min hbounds,
      show (p.resize min max now).max = _ from congrArg Fixture.max hbounds]
    exact Nat.min_le_right min (Nat.max max 1)
  | settled hq =>
    rw [hq]
    exact h

theorem min_le_max_run (h : p.min ≤ p.max) (events : List PoolEvent) :
    (p.run events).min ≤ (p.run events).max := by
  induction events generalizing p with
  | nil => exact h
  | cons event rest ih => exact ih (min_le_max_perform h event)

/-! ## Sifting -/

/-- How idle sessions are told apart, given how many are open: a session goes while so many are open
still that it must, and none that stays would have to go in the end. -/
structure Sifted (p : Pool) (now : Instant) (live : Nat) (kept gone : List Session) : Prop where
  excess : ∀ i (h : i < gone.length),
    p.min < live - i ∧ (¬ p.IsStale now gone[i] → p.max < live - i)
  fits : kept ≠ [] → live - gone.length ≤ p.max
  needed : ∀ s ∈ kept, p.IsStale now s → live - gone.length ≤ p.min

/-- A session goes, or it stays. -/
theorem sift_cons (p : Pool) (now : Instant) (live : Nat) (s : Session) (rest : List Session) :
    (p.sift now live (s :: rest) =
        ((p.sift now (live - 1) rest).1, s :: (p.sift now (live - 1) rest).2) ∧
      (p.max < live ∨ p.min < live ∧ p.IsStale now s)) ∨
    (p.sift now live (s :: rest) =
        (s :: (p.sift now live rest).1, (p.sift now live rest).2) ∧
      live ≤ p.max ∧ (p.IsStale now s → live ≤ p.min)) := by
  rw [sift]
  dsimp only
  split
  · rename_i hgoes
    refine .inl ⟨rfl, ?_⟩
    simpa [IsStale] using hgoes
  · rename_i hstays
    refine .inr ⟨rfl, ?_⟩
    simp only [Bool.or_eq_true, Bool.and_eq_true, decide_eq_true_eq, not_or, not_and] at hstays
    exact ⟨Nat.le_of_not_lt hstays.1, fun hstale => Nat.le_of_not_lt fun hlt => hstays.2 hlt hstale⟩

theorem sifted_sift (hbounds : p.min ≤ p.max) (now : Instant) (live : Nat) (idle : List Session) :
    p.Sifted now live (p.sift now live idle).1 (p.sift now live idle).2 := by
  induction idle generalizing live with
  | nil =>
    refine ⟨fun i h => absurd h (Nat.not_lt_zero i), fun h => absurd rfl h, fun s hs => ?_⟩
    contradiction
  | cons s rest ih =>
    rcases sift_cons p now live s rest with ⟨heq, hgoes⟩ | ⟨heq, hfits, hneeded⟩
    · obtain ⟨hexcess, hfits, hneeded⟩ := ih (live - 1)
      rw [heq]
      refine ⟨fun i h => ?_, fun h => ?_, fun t ht hstale => ?_⟩
      · cases i with
        | zero =>
          refine ⟨by omega, fun hfresh => ?_⟩
          exact hgoes.resolve_right fun hstale => hfresh hstale.2
        | succ i =>
          have hrest := hexcess i (Nat.lt_of_succ_lt_succ h)
          rwa [Nat.sub_sub, Nat.add_comm 1] at hrest
      · have hless := hfits h
        rw [List.length_cons]
        omega
      · have hless := hneeded t ht hstale
        rw [List.length_cons]
        omega
    · have hrest := ih live
      rw [heq]
      refine ⟨hrest.excess, fun _ => ?_, fun t ht hstale => ?_⟩
      · exact Nat.le_trans (Nat.sub_le _ _) hfits
      · rcases List.mem_cons.mp ht with rfl | ht
        · exact Nat.le_trans (Nat.sub_le _ _) (hneeded hstale)
        · exact hrest.needed t ht hstale

theorem sublist_sift (p : Pool) (now : Instant) (live : Nat) (idle : List Session) :
    (p.sift now live idle).1.Sublist idle ∧ (p.sift now live idle).2.Sublist idle := by
  induction idle generalizing live with
  | nil => exact ⟨.slnil, .slnil⟩
  | cons s rest ih =>
    rcases sift_cons p now live s rest with ⟨heq, -⟩ | ⟨heq, -⟩
    · rw [heq]
      exact ⟨(ih (live - 1)).1.cons s, (ih (live - 1)).2.cons_cons s⟩
    · rw [heq]
      exact ⟨(ih live).1.cons_cons s, (ih live).2.cons s⟩

/-- Where so many more are open than would do, no more than so many go. -/
theorem length_sift_le {more : Nat} (hfits : idle ≠ [] → live ≤ p.max + more)
    (hneeded : ∀ s ∈ idle, p.IsStale now s → live ≤ p.min + more) :
    (p.sift now live idle).2.length ≤ more := by
  -- By induction on the idle sessions: each that goes leaves one fewer open, and one fewer to go.
  induction idle generalizing live more with
  | nil => exact Nat.zero_le more
  | cons s rest ih =>
    have hlive := hfits (List.cons_ne_nil s rest)
    rcases sift_cons p now live s rest with ⟨heq, hgoes⟩ | ⟨heq, -⟩
    · have hmore : 0 < more := by
        rcases hgoes with hmax | ⟨hmin, hstale⟩
        · omega
        · have hless := hneeded s List.mem_cons_self hstale
          omega
      have hrest : (p.sift now (live - 1) rest).2.length ≤ more - 1 := by
        apply ih
        · intro _
          omega
        · intro t ht hstale
          have hless := hneeded t (List.mem_cons_of_mem s ht) hstale
          omega
      rw [heq, List.length_cons]
      omega
    · rw [heq]
      apply ih
      · intro _
        exact hlive
      · intro t ht
        exact hneeded t (List.mem_cons_of_mem s ht)

/-- Where none goes, all stay. -/
theorem sift_of_none (h : (p.sift now live idle).2.length ≤ 0) :
    p.sift now live idle = (idle, []) := by
  have hnone : (p.sift now live idle).2 = [] := List.length_eq_zero_iff.mp (Nat.le_zero.mp h)
  have hall : (p.sift now live idle).1 = idle := by
    have hperm := perm_sift p now live idle
    rw [hnone, List.append_nil] at hperm
    exact (sublist_sift p now live idle).1.eq_of_length hperm.length_eq
  exact Prod.ext hall hnone

/-- Where nothing has to go, everything stays. -/
theorem sift_eq_self (hfits : idle ≠ [] → live ≤ p.max)
    (hneeded : ∀ s ∈ idle, p.IsStale now s → live ≤ p.min) : p.sift now live idle = (idle, []) :=
  sift_of_none (length_sift_le hfits hneeded)

/-- Sessions go only down to the minimum. -/
theorem Sifted.min_le {kept gone : List Session} (h : p.Sifted now live kept gone)
    (hmin : gone = [] → p.min ≤ live) : p.min ≤ live - gone.length := by
  cases hgone : gone.length with
  | zero => exact hmin (List.length_eq_zero_iff.mp hgone)
  | succ n =>
    have hlast := (h.excess n (by omega)).1
    omega

/-! ## Closing what goes -/

/-- The idle sessions that stay, and those that go. -/
def kept (p : Pool) (now : Instant) : List Session := (p.sift now p.live p.idle).1

def gone (p : Pool) (now : Instant) : List Session := (p.sift now p.live p.idle).2

theorem sifted_idle (hbounds : p.min ≤ p.max) (now : Instant) :
    p.Sifted now p.live (p.kept now) (p.gone now) :=
  sifted_sift hbounds now p.live p.idle

/-- How many of the sessions take up none of the pool's places: they are another pool's, or
nobody's. -/
def strangers (p : Pool) (sessions : List Session) : Nat :=
  sessions.countP (¬ ·.pool = some p.id)

theorem countP_add_strangers (p : Pool) (sessions : List Session) :
    sessions.countP (·.pool = some p.id) + p.strangers sessions = sessions.length := by
  rw [List.length_eq_countP_add_countP fun s : Session => decide (s.pool = some p.id)]
  simp [strangers]

theorem strangers_eq_zero {sessions : List Session} (h : ∀ s ∈ sessions, s.pool = some p.id) :
    p.strangers sessions = 0 := by
  apply List.countP_eq_zero.mpr
  intro s hs
  simp [h s hs]

theorem live_destroy (p : Pool) (s : Session) :
    (p.destroy s).live = p.live - (decide (s.pool = some p.id)).toNat := by
  have hledger : (p.destroy s).live = (p.ledger.closed s).live :=
    congrArg Ledger.live (ledger_destroy p s)
  rw [hledger, Ledger.closed]
  show (if s.pool = some p.id then _ else _ : Ledger).live = _
  split
  · rename_i hown
    rw [decide_eq_true hown, Ledger.freed]
    split <;> rfl
  · rename_i hforeign
    rw [decide_eq_false hforeign]
    rfl

/-- As many are open less as sessions of the pool's own went. -/
theorem live_foldl_destroy (gone : List Session) (p : Pool) :
    (gone.foldl destroy p).live = p.live - gone.countP (·.pool = some p.id) := by
  induction gone generalizing p with
  | nil => rfl
  | cons s rest ih =>
    have hid : (p.destroy s).id = p.id := congrArg (·.fixture.id) (frame_destroy p s)
    rw [List.foldl_cons, ih, live_destroy, hid, List.countP_cons, Nat.sub_sub]
    congr 1
    by_cases hown : s.pool = some p.id <;> simp [hown, Nat.add_comm]

theorem idle_evict (p : Pool) (now : Instant) : (p.evict now).idle = p.kept now :=
  idle_foldl idle_destroy (p.gone now) { p with idle := p.kept now }

theorem min_evict (p : Pool) (now : Instant) : (p.evict now).min = p.min :=
  congrArg (·.fixture.min) (frame_evict p now)

theorem max_evict (p : Pool) (now : Instant) : (p.evict now).max = p.max :=
  congrArg (·.fixture.max) (frame_evict p now)

theorem settings_evict (p : Pool) (now : Instant) : (p.evict now).settings = p.settings :=
  congrArg Pacing.settings (pacing_evict p now)

theorem live_evict_le (p : Pool) (now : Instant) :
    p.live - (p.gone now).length ≤ (p.evict now).live := by
  have hlive : (p.evict now).live = _ :=
    live_foldl_destroy (p.gone now) { p with idle := p.kept now }
  rw [hlive]
  exact Nat.sub_le_sub_left List.countP_le_length _

/-- As many go as are open at most. -/
theorem length_gone_le (hbounds : p.min ≤ p.max) (now : Instant) :
    (p.gone now).length ≤ p.live := by
  have hsifted := sifted_idle hbounds now
  cases hgone : (p.gone now).length with
  | zero => exact Nat.zero_le _
  | succ n =>
    have hlast := (hsifted.excess n (by omega)).1
    omega

/-- The count that a look takes down is wrong by the strangers that go, which were never counted. -/
theorem live_evict (hbounds : p.min ≤ p.max) (now : Instant) :
    (p.evict now).live + (p.gone now).length = p.live + p.strangers (p.gone now) := by
  have hlive : (p.evict now).live = p.live - (p.gone now).countP (·.pool = some p.id) :=
    live_foldl_destroy (p.gone now) { p with idle := p.kept now }
  have hcount := p.countP_add_strangers (p.gone now)
  have hgone := length_gone_le hbounds now
  omega

/-- The connection of a session that is closed is hung up. -/
theorem hungUp_destroy (p : Pool) (s : Session) : (p.destroy s).hungUp = p.hungUp ++ [s.line] := by
  have hasked : (p.ask (.hangUp s.line)).hungUp = p.hungUp ++ [s.line] := asked_ask p _ _
  have hsilent : ∀ (p : Pool) {act : PoolAct}, act.hungUp? = none →
      (p.ask act).hungUp = p.hungUp := by
    intro p act hact
    refine (asked_ask p act PoolAct.hungUp?).trans ?_
    rw [hact]
    exact List.append_nil _
  have hgone : (p.discard s).hungUp = p.hungUp ++ [s.line] := by
    unfold discard
    dsimp only
    split
    · exact hasked
    · split
      · exact (asked_freePlace (fun _ => rfl) _ true).trans hasked
      · exact (hsilent _ rfl).trans hasked
  unfold destroy
  dsimp only
  split
  · exact hgone
  · exact (hsilent _ rfl).trans hgone

theorem hungUp_evict (p : Pool) (now : Instant) :
    (p.evict now).hungUp = p.hungUp ++ (p.gone now).map (·.line) := by
  have hfold : ∀ (gone : List Session) (p : Pool),
      (gone.foldl destroy p).hungUp = p.hungUp ++ gone.map (·.line) := by
    intro gone
    induction gone with
    | nil => exact fun p => (List.append_nil _).symm
    | cons s rest ih =>
      intro p
      rw [List.foldl_cons, ih, hungUp_destroy, List.append_assoc]
      rfl
  exact hfold (p.gone now) { p with idle := p.kept now }

/-- Sifting goes by the bounds and the settings. -/
theorem sift_congr (hmin : q.min = p.min) (hmax : q.max = p.max)
    (hsettings : q.settings = p.settings)
    (now : Instant) (live : Nat) (idle : List Session) :
    q.sift now live idle = p.sift now live idle := by
  induction idle generalizing live with
  | nil => rfl
  | cons s rest ih => rw [sift, sift, hmin, hmax, hsettings, ih, ih]

/-- A pool of which no idle session has to go is left as it is. -/
theorem evict_eq_self (h : p.sift now p.live p.idle = (p.idle, [])) : p.evict now = p := by
  rw [evict, h]
  rfl

/-- A second look at that moment lets no more go than strangers went in the first. -/
theorem length_gone_evict_le (hbounds : p.min ≤ p.max) (now : Instant) :
    ((p.evict now).gone now).length ≤ p.strangers (p.gone now) := by
  have hsifted := sifted_idle hbounds now
  have hlive := live_evict hbounds now
  rw [gone, sift_congr (min_evict p now) (max_evict p now) (settings_evict p now), idle_evict]
  apply length_sift_le
  · intro hsome
    have hfits := hsifted.fits hsome
    omega
  · intro s hs hstale
    have hneeded := hsifted.needed s hs hstale
    omega

/-! ## Opening what is missing -/

/-- Nothing stands in the way of opening sessions up to the minimum. -/
structure Roomy (p : Pool) : Prop where
  closing : p.closing = ⟨false, false, none⟩
  places : p.places = p.max - p.live
  bounds : p.min ≤ p.max

/-- One more session is open, behind the other idle ones. -/
structure Joined (p q : Pool) : Prop where
  live : q.live = p.live + 1
  created : q.created = p.created + 1
  idle : ∃ s, q.idle = p.idle ++ [s]
  fixture : q.fixture = p.fixture
  closing : q.closing = p.closing
  settings : q.settings = p.settings

/-- A pool was filled up to its minimum, and its upkeep waits for what comes next. -/
structure Filled (p q : Pool) : Prop where
  waiting : q.upkeep.stage = .waiting
  live : q.live = Nat.max p.live p.min
  created : q.created = p.created + (p.min - p.live)
  idle : ∃ fresh, q.idle = p.idle ++ fresh ∧ fresh.length = p.min - p.live
  fixture : q.fixture = p.fixture
  closing : q.closing = p.closing
  settings : q.settings = p.settings

/-- A connection opened ahead of need. -/
def opensAhead (opened : Instant × LineId) : PoolEvent := .upkeepDialled opened.1 (.ok opened.2)

theorem fill_of_full (h : p.min ≤ p.live) (now : Instant) : p.fill now = p.restUpkeep := by
  unfold fill
  rw [decide_eq_true h, Bool.or_true, Bool.true_or, Bool.true_or, if_pos rfl]

theorem filled_of_full (h : p.min ≤ p.live) : Filled p p.restUpkeep where
  waiting := rfl
  live := (Nat.max_eq_left h).symm
  created := by show p.created = p.created + (p.min - p.live); omega
  idle := ⟨[], (List.append_nil _).symm, by show 0 = p.min - p.live; omega⟩
  fixture := rfl
  closing := rfl
  settings := rfl

/-- A session is opened on a free place, and then the pool looks whether another one is missing. -/
theorem fill_of_short (h : p.Roomy) (hrest : p.restUntil? now = none) (hshort : p.live < p.min)
    (opened : Instant × LineId) :
    ∃ q : Pool, (p.fill now).perform (opensAhead opened) = q.fill opened.1 ∧ Joined p q ∧ q.Roomy ∧
      q.restUntil? opened.1 = none := by
  obtain ⟨hclosing, hplaces, hbounds⟩ := h
  have hopen : p.isClosed = false := congrArg Closing.isClosed hclosing
  have hunfinished : p.isFinished = false := congrArg Closing.isFinished hclosing
  have hplace : p.hasPlace = true := by
    rw [hasPlace, hunfinished, decide_eq_true (by omega)]
    rfl
  have hfill : p.fill now = { p with places := p.places - 1 }.takeId.putUpkeep
      (.dialling p.nextId (p.settings.connectTimeout.after now)) := by
    unfold fill
    rw [hopen, hrest, hplace, decide_eq_false (Nat.not_le_of_lt hshort)]
    rfl
  rw [hfill]
  refine ⟨_, rfl, ⟨rfl, rfl, ⟨_, rfl⟩, rfl, rfl, rfl⟩, ⟨hclosing, ?_, hbounds⟩, rfl⟩
  show p.places - 1 = p.max - (p.live + 1)
  omega

theorem Joined.filled {r : Pool} (h : Joined p q) (hfilled : Filled q r) (hshort : p.live < p.min) :
    Filled p r := by
  have hmin : q.min = p.min := congrArg Fixture.min h.fixture
  have hlive := h.live
  have hcreated := h.created
  obtain ⟨s, hjoined⟩ := h.idle
  obtain ⟨fresh, hfresh, hcount⟩ := hfilled.idle
  refine ⟨hfilled.waiting, ?_, ?_, ⟨s :: fresh, ?_, ?_⟩, hfilled.fixture.trans h.fixture,
    hfilled.closing.trans h.closing, hfilled.settings.trans h.settings⟩
  · rw [hfilled.live, hlive, hmin]
    show Max.max (p.live + 1) p.min = Max.max p.live p.min
    omega
  · rw [hfilled.created, hlive, hmin, hcreated]
    omega
  · rw [hfresh, hjoined, List.append_assoc]
    rfl
  · rw [List.length_cons, hcount, hlive, hmin]
    omega

/-- Once the upkeep waits it does not connect. -/
theorem run_opensAhead_of_waiting (h : p.upkeep.stage = .waiting)
    (opened : List (Instant × LineId)) : p.run (opened.map opensAhead) = p := by
  induction opened with
  | nil => rfl
  | cons first rest ih =>
    have hsame : p.perform (opensAhead first) = p := by
      rw [opensAhead, perform, upkeepDialled, h]
    rw [List.map_cons, run, List.foldl_cons, hsame]
    exact ih

/-- If connecting succeeds often enough, the pool is filled. -/
theorem filled_run (h : p.Roomy) (hrest : p.restUntil? now = none)
    {opened : List (Instant × LineId)} (henough : p.min - p.live ≤ opened.length) :
    Filled p ((p.fill now).run (opened.map opensAhead)) := by
  -- By induction on the connections, each of which takes the pool one nearer to its minimum.
  induction opened generalizing p now with
  | nil =>
    rw [List.length_nil] at henough
    have hfull : p.min ≤ p.live := by omega
    rw [fill_of_full hfull]
    exact filled_of_full hfull
  | cons first rest ih =>
    by_cases hfull : p.min ≤ p.live
    · rw [fill_of_full hfull, run_opensAhead_of_waiting rfl]
      exact filled_of_full hfull
    · have hshort := Nat.lt_of_not_le hfull
      obtain ⟨q, hstep, hjoined, hroomy, hrest'⟩ := fill_of_short h hrest hshort first
      have hmin : q.min = p.min := congrArg Fixture.min hjoined.fixture
      have henough' : q.min - q.live ≤ rest.length := by
        rw [hjoined.live, hmin]
        rw [List.length_cons] at henough
        omega
      rw [List.map_cons, run, List.foldl_cons, hstep]
      exact hjoined.filled (ih hroomy hrest' henough') hshort

/-! ## A whole round -/

/-- Which sessions go has nothing to do with what the upkeep is at. -/
theorem sift_upkeep (p : Pool) (u : Upkeep) (now : Instant) :
    { p with upkeep := u }.sift now p.live p.idle = p.sift now p.live p.idle :=
  sift_congr (p := p) (q := { p with upkeep := u }) rfl rfl rfl now p.live p.idle

/-- A pool that opens nothing has as many free places as sessions are missing to its maximum. -/
theorem Counted.places_of_idle (h : p.Counted) (hopenings : p.openings = 0) :
    p.places = p.max - p.live := by
  rw [h.places, slots, hopenings, h.live, Nat.add_zero]

theorem InOrder.evict (h : p.InOrder) (now : Instant) : (p.evict now).InOrder := by
  refine ⟨(counted_iff_balanced _).mpr ?_, h.apart.sameHolders (sameHolders_evict p now)⟩
  exact ((counted_iff_balanced p).mp h.counted).moves (moves_evict p now)

theorem openings_evict (p : Pool) (now : Instant) : (p.evict now).openings = p.openings := by
  rw [openings, openings, (sameHolders_evict p now).borrows, upkeep_evict]

/-- With nothing being opened, an open pool has room for what it is short of, also after idle
sessions went. -/
theorem InOrder.roomy_evict (h : p.InOrder) (hbounds : p.min ≤ p.max)
    (hclosing : p.closing = ⟨false, false, none⟩) (hopenings : p.openings = 0) (now : Instant) :
    (p.evict now).Roomy where
  closing := (closing_of_frame (frame_evict p now)).trans hclosing
  places := (h.evict now).counted.places_of_idle ((openings_evict p now).trans hopenings)
  bounds := by rwa [min_evict, max_evict]

/-- Upkeep that is needed in an open pool goes through a round. -/
theorem tend_of_needed (hopen : p.isClosed = false) (hneeds : p.needsUpkeep now = true) :
    ∃ u : Upkeep, u.stage = .sifting ∧
      p.tend now = ({ p with upkeep := u }.evict now).fill now := by
  unfold needsUpkeep at hneeds
  split at hneeds
  · rename_i hstage
    unfold tend
    rw [hstage]
    dsimp only
    rw [if_neg (by rw [hopen]; exact Bool.false_ne_true)]
    split
    · exact ⟨_, rfl, rfl⟩
    · rename_i hlate
      rw [hopen, decide_eq_false hlate, Bool.or_false, Bool.false_or] at hneeds
      rw [if_pos hneeds]
      exact ⟨_, rfl, rfl⟩
  · contradiction

/-- A round in a pool that has what it needs, and of which no idle session has to go. -/
theorem round_of_settled (hfull : p.min ≤ p.live)
    (hsift : p.sift now p.live p.idle = (p.idle, [])) (u : Upkeep) :
    ({ p with upkeep := u }.evict now).fill now = { p with upkeep := u.rest } := by
  have hsame : { p with upkeep := u }.sift now p.live p.idle = (p.idle, []) :=
    (sift_upkeep p u now).trans hsift
  rw [evict_eq_self hsame]
  exact fill_of_full (p := { p with upkeep := u }) hfull now

/-- It leaves the pool as it is. -/
theorem tend_of_settled (hopen : p.isClosed = false) (hwaiting : p.upkeep.stage = .waiting)
    (hfull : p.min ≤ p.live) (hsift : p.sift now p.live p.idle = (p.idle, [])) :
    ∃ u : Upkeep, p.tend now = { p with upkeep := u } ∧ u.stage = .waiting := by
  unfold tend
  split
  · rw [if_neg (by rw [hopen]; exact Bool.false_ne_true)]
    split
    · exact ⟨_, round_of_settled hfull hsift _, rfl⟩
    · split
      · exact ⟨_, round_of_settled hfull hsift _, rfl⟩
      · exact ⟨p.upkeep, rfl, hwaiting⟩
  · exact ⟨p.upkeep, rfl, hwaiting⟩

/-- What the upkeep is at does not matter to the counts, as long as it opens nothing. -/
theorem InOrder.upkeep (h : p.InOrder) {u : Upkeep}
    (hu : u.stage.isOpening = p.upkeep.stage.isOpening) : { p with upkeep := u }.InOrder := by
  have hledger : { p with upkeep := u }.ledger = p.ledger := by
    rw [ledger, ledger, hu]
  refine ⟨(counted_iff_balanced _).mpr ?_, h.apart⟩
  rw [toAccount, hledger]
  exact (counted_iff_balanced p).mp h.counted

theorem isOpening_of_needed (h : p.needsUpkeep now = true) :
    p.upkeep.stage.isOpening = false := by
  unfold needsUpkeep at h
  split at h
  · rename_i hstage
    rw [hstage]
    rfl
  · contradiction

/-- What was filled counts from what the pool had, whatever its upkeep was at. -/
theorem Filled.of_same {r : Pool} (h : Filled q r) (hlive : q.live = p.live)
    (hidle : q.idle = p.idle) (hframe : q.frame = p.frame) (hpacing : q.pacing = p.pacing) :
    Filled p r := by
  have hmin : q.min = p.min := congrArg (·.fixture.min) hframe
  have hcreated : q.created = p.created := congrArg Pacing.created hpacing
  have hsettings : q.settings = p.settings := congrArg Pacing.settings hpacing
  refine ⟨h.waiting, ?_, ?_, ?_, h.fixture.trans (fixture_of_frame hframe),
    h.closing.trans (closing_of_frame hframe), h.settings.trans hsettings⟩
  · rw [h.live, hlive, hmin]
  · rw [h.created, hcreated, hmin, hlive]
  · rw [← hidle, ← hlive, ← hmin]
    exact h.idle

/-- A round closes what goes and opens what is missing then. -/
theorem InOrder.filled_tend (h : p.InOrder) (hbounds : p.min ≤ p.max)
    (hclosing : p.closing = ⟨false, false, none⟩) (hopenings : p.openings = 0)
    (hrest : p.restUntil? now = none) (hneeds : p.needsUpkeep now = true)
    {opened : List (Instant × LineId)} (henough : p.min - (p.evict now).live ≤ opened.length) :
    Filled (p.evict now) (p.run (.tend now :: opened.map opensAhead)) := by
  obtain ⟨u, hu, htend⟩ := tend_of_needed (congrArg Closing.isClosed hclosing) hneeds
  have hopening := isOpening_of_needed hneeds
  have hbegun : { p with upkeep := u }.InOrder := h.upkeep (by rw [hopening, hu]; rfl)
  have hnone : { p with upkeep := u }.openings = 0 := by
    rw [← hopenings, openings, openings, hopening, hu]
    rfl
  -- What the upkeep is at makes no difference to what goes.
  have hlive : ({ p with upkeep := u }.evict now).live = (p.evict now).live := by
    have hbefore : (p.evict now).live = _ :=
      live_foldl_destroy (p.gone now) { p with idle := p.kept now }
    have hafter : ({ p with upkeep := u }.evict now).live = _ :=
      live_foldl_destroy (gone { p with upkeep := u } now)
        { p with upkeep := u, idle := kept { p with upkeep := u } now }
    rw [hbefore, hafter, gone, sift_upkeep]
    rfl
  have hidle : ({ p with upkeep := u }.evict now).idle = (p.evict now).idle := by
    rw [idle_evict, idle_evict, kept, sift_upkeep]
    rfl
  have hpacing : ({ p with upkeep := u }.evict now).pacing = p.pacing :=
    pacing_evict { p with upkeep := u } now
  have hframe : ({ p with upkeep := u }.evict now).frame = p.frame :=
    frame_evict { p with upkeep := u } now
  have hmin : ({ p with upkeep := u }.evict now).min = p.min := min_evict _ now
  have hsearches : Searches p ({ p with upkeep := u }.evict now) now := searches_of_pacing hpacing
  have hshort : ({ p with upkeep := u }.evict now).min - ({ p with upkeep := u }.evict now).live ≤
      opened.length := by rwa [hmin, hlive]
  have hfilled := filled_run (hbegun.roomy_evict hbounds hclosing hnone now)
    ((hsearches.restUntil? now).trans hrest) hshort
  have hrun : p.run (.tend now :: opened.map opensAhead) =
      (p.tend now).run (opened.map opensAhead) := rfl
  rw [hrun, htend]
  exact hfilled.of_same hlive hidle (hframe.trans (frame_evict p now).symm)
    (hpacing.trans (pacing_evict p now).symm)

/-- A pool that was filled after idle sessions went has nothing more to close at that moment, and if
a session was opened at no moment. -/
theorem Filled.sift_eq (h : Filled (p.evict now) q) (hbounds : p.min ≤ p.max) {again : Instant}
    (hagain : again = now ∧ p.strangers (p.gone now) = 0 ∨ (p.evict now).live < p.min) :
    q.min ≤ q.live ∧ q.sift again q.live q.idle = (q.idle, []) := by
  have hsifted := sifted_idle hbounds now
  have hmin : q.min = p.min := (congrArg Fixture.min h.fixture).trans (min_evict p now)
  have hmax : q.max = p.max := (congrArg Fixture.max h.fixture).trans (max_evict p now)
  have hsettings : q.settings = p.settings := h.settings.trans (settings_evict p now)
  have hlive : q.live = Max.max (p.evict now).live p.min := by
    rw [h.live, min_evict]
  obtain ⟨fresh, hidle, hcount⟩ := h.idle
  rw [min_evict] at hcount
  refine ⟨by omega, ?_⟩
  by_cases hopened : (p.evict now).live < p.min
  · -- The minimum is open, and at the minimum nothing goes.
    have hexact : q.live = p.min := by omega
    exact sift_eq_self (fun _ => by omega) fun s _ _ => by omega
  · obtain ⟨rfl, hnone⟩ := hagain.resolve_right hopened
    have hsame : q.live = p.live - (p.gone again).length := by
      have hbefore := live_evict hbounds again
      omega
    have hkept : q.idle = p.kept again := by
      rw [hidle, List.length_eq_zero_iff.mp (hcount.trans (by omega)), List.append_nil, idle_evict]
    rw [sift_congr hmin hmax hsettings, hsame, hkept]
    exact sift_eq_self hsifted.fits hsifted.needed

/-- What a look through the idle sessions lets go. It counts as if all that go were the pool's own,
so what it leaves open is off by the strangers among them. -/
structure Evicts (p : Pool) (now : Instant) : Prop where
  /-- What stays and what goes are the idle sessions, in their order. -/
  kept : (p.kept now).Sublist p.idle
  gone : (p.gone now).Sublist p.idle
  split : (p.kept now ++ p.gone now).Perm p.idle
  idle : (p.evict now).idle = p.kept now
  hungUp : (p.evict now).hungUp = p.hungUp ++ (p.gone now).map (·.line)
  live : (p.evict now).live + (p.gone now).length = p.live + p.strangers (p.gone now)
  /-- What is open does not fall below the minimum. -/
  minimum : p.min ≤ p.live → p.min ≤ (p.evict now).live
  /-- A session that is not stale goes only while more than the maximum are open. -/
  excess : ∀ i (h : i < (p.gone now).length),
    ¬ p.IsStale now (p.gone now)[i] → p.max < p.live - i
  /-- No session stays beside more than the maximum, and no stale one beside more than the
  minimum. -/
  fits : p.kept now ≠ [] → (p.evict now).live ≤ p.max + p.strangers (p.gone now)
  needed : ∀ s ∈ p.kept now, p.IsStale now s →
    (p.evict now).live ≤ p.min + p.strangers (p.gone now)
  /-- The next look at that moment finds nothing. -/
  again : ((p.evict now).gone now).length ≤ p.strangers (p.gone now)
  settled : p.strangers (p.gone now) = 0 → (p.evict now).evict now = p.evict now

/-- A round of upkeep has repaired the pool. -/
structure Repaired (p : Pool) (now : Instant) (q : Pool) : Prop where
  waiting : q.upkeep.stage = .waiting
  live : q.live = Nat.max (p.evict now).live p.min
  /-- What was missing to the minimum was opened, and nothing else. -/
  idle : ∃ fresh, q.idle = p.kept now ++ fresh ∧ fresh.length = p.min - (p.evict now).live
  created : q.created = p.created + (p.min - (p.evict now).live)
  /-- A round that let a session go opens none. -/
  opensNone : p.gone now ≠ [] → q = p.tend now ∧ q.created = p.created
  /-- The next round at that moment changes nothing, unless strangers went; and after sessions were
  opened none does at any moment. -/
  again : ∀ again, again = now ∧ p.strangers (p.gone now) = 0 ∨ (p.evict now).live < p.min →
    q.evict again = q ∧ q.fill again = q.restUpkeep ∧
      ∃ u : Upkeep, q.tend again = { q with upkeep := u } ∧ u.stage = .waiting

theorem evicts (hbounds : p.min ≤ p.max) (now : Instant) : p.Evicts now := by
  have hsifted := sifted_idle hbounds now
  obtain ⟨hkept, hgone⟩ := sublist_sift p now p.live p.idle
  have hlive := live_evict hbounds now
  have hagain := length_gone_evict_le hbounds now
  refine ⟨hkept, hgone, perm_sift p now p.live p.idle, idle_evict p now, hungUp_evict p now, hlive,
    ?_, ?_, ?_, ?_, hagain, ?_⟩
  · intro hmin
    exact Nat.le_trans (hsifted.min_le fun _ => hmin) (live_evict_le p now)
  · intro i hi
    exact (hsifted.excess i hi).2
  · intro hsome
    have hfits := hsifted.fits hsome
    omega
  · intro s hs hstale
    have hneeded := hsifted.needed s hs hstale
    omega
  · intro hnone
    rw [hnone] at hagain
    exact evict_eq_self (sift_of_none hagain)

/-- A round of upkeep whose connections succeed repairs an open pool. -/
theorem InOrder.repaired (h : p.InOrder) (hbounds : p.min ≤ p.max)
    (hclosing : p.closing = ⟨false, false, none⟩)
    (hopenings : p.openings = 0) (hrest : p.restUntil? now = none)
    (hneeds : p.needsUpkeep now = true) {opened : List (Instant × LineId)}
    (henough : p.min - (p.evict now).live ≤ opened.length) :
    p.Repaired now (p.run (.tend now :: opened.map opensAhead)) := by
  have hsifted := sifted_idle hbounds now
  have hfilled := h.filled_tend hbounds hclosing hopenings hrest hneeds henough
  obtain ⟨fresh, hjoined, hcount⟩ := hfilled.idle
  rw [idle_evict] at hjoined
  have hcreated := hfilled.created
  rw [min_evict, show (p.evict now).created = p.created from
    congrArg Pacing.created (pacing_evict p now)] at hcreated
  refine ⟨hfilled.waiting, by rw [hfilled.live, min_evict],
    ⟨fresh, hjoined, by rw [hcount, min_evict]⟩, hcreated, fun hsome => ?_,
    fun again hagain => ?_⟩
  · -- Where a session went the minimum is still open.
    have hfull : p.min ≤ (p.evict now).live :=
      Nat.le_trans (hsifted.min_le fun hnone => absurd hnone hsome) (live_evict_le p now)
    have hround : Filled (p.evict now) (p.tend now) :=
      h.filled_tend hbounds hclosing hopenings hrest hneeds
        (show p.min - (p.evict now).live ≤ ([] : List (Instant × LineId)).length from
          Nat.le_of_eq (Nat.sub_eq_zero_of_le hfull))
    exact ⟨run_opensAhead_of_waiting hround.waiting opened, by omega⟩
  · obtain ⟨hfull, hsift⟩ := hfilled.sift_eq hbounds hagain
    have hsame := hfilled.closing.trans (closing_of_frame (frame_evict p now))
    have hopen := congrArg Closing.isClosed (hsame.trans hclosing)
    exact ⟨evict_eq_self hsift, fill_of_full hfull again,
      tend_of_settled hopen hfilled.waiting hfull hsift⟩

/-- One round of upkeep repairs a pool and is done, as long as no stranger goes in it. After any
events a look through the idle sessions takes the pool no lower than its minimum, and lets none go
that it could keep. It lets as many go as it should but for the strangers among them, and there are
none if callers gave back no sessions of other pools. An open pool that nobody opens sessions in and
that does not pause is filled by a round whose connections succeed. -/
theorem run_upkeep_repairs (id : PoolId) (studio : Studio) (settings : PoolSettings)
    (start : Instant) (events : List PoolEvent) (now : Instant) :
    let p := (forStudio id studio settings start).run events
    p.min ≤ p.max ∧ p.Evicts now ∧
      ((∀ event ∈ events, ∀ s ∈ event.guest?, s.pool = none) →
        p.strangers (p.gone now) = 0) ∧
      (p.isClosed = false → p.openings = 0 → p.restUntil? now = none → p.needsUpkeep now = true →
        ∀ opened : List (Instant × LineId), p.min - (p.evict now).live ≤ opened.length →
          p.Repaired now (p.run (.tend now :: opened.map opensAhead))) := by
  intro p
  have hnew := inOrder_forStudio id studio settings start
  have hbounds : p.min ≤ p.max := min_le_max_run (Nat.min_le_right _ _) events
  refine ⟨hbounds, evicts hbounds now, ?_, ?_⟩
  · intro hguests
    apply strangers_eq_zero
    intro s hs
    have hidle : s ∈ p.idle := mem_of_sift p now hs
    exact forall_own_run hnew (fun s hs => by contradiction) hguests s
      (List.mem_append_left _ (List.mem_append_left _ hidle))
  · intro hopen hopenings hrest hneeds opened henough
    have hclosing : p.closing = ⟨false, false, none⟩ :=
      (isClosed_or_open_run (.inr rfl) events).resolve_left
        (by rw [hopen]; exact Bool.false_ne_true)
    exact (hnew.run events).repaired hbounds hclosing hopenings hrest hneeds henough

/-- Three sessions were opened for callers who gave them back; one is the minimum. -/
def lentAndBack : List PoolEvent :=
  [.acquire 1 0, .dialled 1 0 (.ok 7), .acquire 2 0, .dialled 2 0 (.ok 8), .acquire 3 0,
    .dialled 3 0 (.ok 9), .release 1, .release 2, .release 3]

/-- A second later the first two are closed, and nothing is opened. The next look finds nothing. -/
theorem lentAndBack_repairs :
    let p := (forStudio 0 ⟨"s", "h", 1, 1, 3, none, false⟩ { softIdleTimeout := ⟨1000⟩ } 0).run
      lentAndBack
    (p.gone 2000).map (·.line) = [7, 8] ∧ (p.tend 2000).live = 1 ∧ (p.tend 2000).created = 3 ∧
      (p.evict 2000).evict 2000 = p.evict 2000 := by
  obtain ⟨-, hevicts, hstrangers, hround⟩ := run_upkeep_repairs 0
    ⟨"s", "h", 1, 1, 3, none, false⟩ { softIdleTimeout := ⟨1000⟩ } 0 lentAndBack 2000
  have hrepaired := hround rfl (by decide) (by decide) (by decide) [] (by decide)
  refine ⟨by decide, hrepaired.live.trans (by decide), hrepaired.created.trans (by decide), ?_⟩
  exact hevicts.settled (hstrangers (by decide))

/-- Another pool lends its session to a caller. -/
def neighbour : Pool :=
  (forStudio 1 ⟨"t", "h", 2, 0, 1, none, false⟩ {} 0).run [.acquire 9 0, .dialled 9 0 (.ok 90)]

/-- The session that the neighbour has lent. -/
def visitor : Session := { Session.opened 1 90 (.ofSecs 5) 0 with pool := some 1 }

/-- The session that the first round opens is lent, and another one is opened and lent. The visitor
is given back to this pool, and then the first session is. -/
def visited : List PoolEvent :=
  [.tend 0, .upkeepDialled 0 (.ok 7), .acquire 1 0, .hearCheck 1 0 (.accepted 1),
    .hearCheck 1 0 .flushed, .hearCheck 1 0 (.received [0x0A, 0x61, 0x72, 0x73, 0x3E]),
    .acquire 2 0, .dialled 2 0 (.ok 8), .takeGuest visitor, .release 1]

/-- The visitor goes and is counted as one of the pool's own. So a stale session stays beside more
than the minimum, and a second round at the same moment closes it. -/
theorem visited_needs_another_round :
    neighbour.loans.get? 9 = some visitor ∧
      let p := (forStudio 0 ⟨"s", "h", 1, 1, 3, none, false⟩
        { softIdleTimeout := ⟨1000⟩, evictionInterval := ⟨2000⟩ } 0).run visited
      p.isClosed = false ∧ p.openings = 0 ∧ p.restUntil? 2000 = none ∧
        p.needsUpkeep 2000 = true ∧
        (∃ s ∈ p.kept 2000, p.IsStale 2000 s ∧ p.min < (p.evict 2000).live) ∧
        ((p.evict 2000).gone 2000).map (·.line) = [7] ∧
        (p.tend 2000).live = 2 ∧ ((p.tend 2000).tend 2000).live = 1 := by
  decide

end Pool

end BroadcastLink
