import BroadcastLink.Proofs.Pool.Commons
import Mathlib.Data.List.Induction

/-!
# Whose sessions a pool keeps

A session keeps the place it was opened on, whichever pool it is given to, and a pool keeps none
that has no place. But a pool does not look whose place it is: a session that another pool lent is
kept like one of its own, and lent on to whoever wants to talk to its own studio. Only so does a
pool come by a session that it did not open.
-/

namespace BroadcastLink

namespace Commons

/-- Where pools connect, and the connections there are. -/
structure Layout where
  dialOf : PoolId → Option Dial
  dials : Roster LineId Dial

def layout (c : Commons) : Layout := ⟨fun id => (c.pools.get? id).map Pool.ownDial, c.dials⟩

namespace Layout

/-- A session takes up a place of a pool, and this pool opened its connection. -/
def Places (l : Layout) (s : Session) : Prop :=
  ∃ owner dial, s.pool = some owner ∧ l.dialOf owner = some dial ∧ l.dials.get? s.line = some dial

/-- Pools and connections may have come. -/
structure Grows (l m : Layout) : Prop where
  dialOf : ∀ id dial, l.dialOf id = some dial → m.dialOf id = some dial
  dials : ∀ line dial, l.dials.get? line = some dial → m.dials.get? line = some dial

theorem Places.grows {l m : Layout} {s : Session} (h : l.Places s) (hgrows : Grows l m) :
    m.Places s := by
  obtain ⟨owner, dial, howner, hdial, hline⟩ := h
  exact ⟨owner, dial, howner, hgrows.dialOf _ _ hdial, hgrows.dials _ _ hline⟩

end Layout

/-- All is well with a pool and its sessions; those of other pools came in on lines that were handed
to it. -/
structure Housed (l : Layout) (handed : PoolId → LineId → Prop) (id : PoolId) (p : Pool) :
    Prop where
  id_eq : p.id = id
  apart : p.Apart
  kept : ∀ s ∈ p.sessions, l.Places s ∧ (s.pool = some id ∨ handed id s.line)

/-- All is well with all pools, and what callers connected on their own has no place. -/
structure Orderly (c : Commons) (handed : PoolId → LineId → Prop) : Prop where
  pools : ∀ id p, c.pools.get? id = some p → Housed c.layout handed id p ∧ p.acts = []
  own : ∀ call s, c.own.get? call = some s → s.pool = none

variable {c d : Commons} {handed handed' : PoolId → LineId → Prop} {id : PoolId} {p q : Pool}
  {s : Session} {l m : Layout} {opened : Option LineId} {take : Pool → Session → Pool}

theorem Housed.grows (h : Housed l handed id p) (hgrows : l.Grows m) : Housed m handed id p :=
  ⟨h.id_eq, h.apart, fun s hs => (h.kept s hs).imp_left (·.grows hgrows)⟩

theorem Orderly.mono (h : c.Orderly handed) (hmore : ∀ id line, handed id line → handed' id line) :
    c.Orderly handed' := by
  refine ⟨fun id p hp => ?_, h.own⟩
  obtain ⟨hhoused, hdone⟩ := h.pools id p hp
  exact ⟨⟨hhoused.id_eq, hhoused.apart, fun s hs =>
    (hhoused.kept s hs).imp_right (·.imp_right (hmore id s.line))⟩, hdone⟩

/-! ## Putting pools back -/

theorem layout_put (hp : c.pools.get? id = some p) (hq : q.ownDial = p.ownDial) :
    { c with pools := c.pools.put id q }.layout = c.layout := by
  have hsame : (fun other => ((c.pools.put id q).get? other).map Pool.ownDial) =
      fun other => (c.pools.get? other).map Pool.ownDial := by
    funext other
    rw [Roster.get?_put]
    split
    · rename_i heq
      rw [heq, hp, Option.map_some, Option.map_some, hq]
    · rfl
  exact congrArg (Layout.mk · c.dials) hsame

/-- A pool takes the place of what it was before. -/
theorem Orderly.put (h : c.Orderly handed) (hp : c.pools.get? id = some p)
    (hq : q.ownDial = p.ownDial) (hhoused : Housed c.layout handed id q) (hdone : q.acts = []) :
    { c with pools := c.pools.put id q }.Orderly handed := by
  refine ⟨fun other r hr => ?_, h.own⟩
  rw [layout_put hp hq]
  change (c.pools.put id q).get? other = some r at hr
  rw [Roster.get?_put] at hr
  split at hr
  · rename_i heq
    obtain rfl := Option.some.inj hr
    exact ⟨heq ▸ hhoused, hdone⟩
  · exact h.pools other r hr

theorem ownDial_freePlace (p : Pool) :
    ({ p.freePlace true with acts := [] } : Pool).ownDial = p.ownDial := by
  have hframe := Pool.frame_freePlace p true
  exact Pool.ownDial_of_fixture (q := p.freePlace true) (Pool.fixture_of_frame hframe)

theorem layout_doAct (c : Commons) (act : PoolAct) : (c.doAct act).layout = c.layout := by
  cases act with
  | freeIn other =>
    unfold doAct
    dsimp only
    split
    · rfl
    · rename_i p hp
      exact layout_put hp (ownDial_freePlace p)
  | _ => rfl

theorem Orderly.doAct (h : c.Orderly handed) (act : PoolAct) : (c.doAct act).Orderly handed := by
  cases act with
  | freeIn other =>
    unfold Commons.doAct
    dsimp only
    split
    · exact h
    · rename_i p hp
      -- A place comes free: sessions and callers stay what they are.
      obtain ⟨hid, hapart, hkept⟩ := (h.pools other p hp).1
      have hsame := ownDial_freePlace p
      obtain ⟨places, owed, hfreed⟩ := Pool.freePlace_eq p true
      refine h.put hp hsame ?_ rfl
      rw [hfreed]
      exact ⟨hid, hapart, hkept⟩
  | hangUp line =>
    obtain ⟨hpools, hown⟩ := h
    exact ⟨hpools, hown⟩
  | _ => exact h

theorem layout_foldl (acts : List PoolAct) (c : Commons) :
    (acts.foldl doAct c).layout = c.layout := by
  induction acts generalizing c with
  | nil => rfl
  | cons act rest ih => rw [List.foldl_cons, ih, layout_doAct]

theorem Orderly.foldl (h : c.Orderly handed) (acts : List PoolAct) :
    (acts.foldl Commons.doAct c).Orderly handed := by
  induction acts generalizing c with
  | nil => exact h
  | cons act rest ih => exact ih (h.doAct act)

theorem layout_settle (hp : c.pools.get? id = some p) (hq : q.ownDial = p.ownDial) :
    (c.settle id q).layout = c.layout := by
  have hput : q.ownDial = ({ q with acts := [] } : Pool).ownDial := rfl
  rw [settle, layout_foldl, layout_put hp (hput ▸ hq)]

/-- A pool that has acted is put back, and what it asks for is done. -/
theorem Orderly.settle (h : c.Orderly handed) (hp : c.pools.get? id = some p)
    (hq : q.ownDial = p.ownDial) (hhoused : Housed c.layout handed id q) :
    (c.settle id q).Orderly handed := by
  obtain ⟨hid, hapart, hkept⟩ := hhoused
  have hput : { c with pools := c.pools.put id { q with acts := [] } }.Orderly handed :=
    h.put hp hq ⟨hid, hapart, hkept⟩ rfl
  exact hput.foldl q.acts

/-! ## What happens within a pool -/

theorem dialled_of_get? (h : c.pools.get? id = some p) (line : LineId) :
    c.dialled id (some line) = { c with dials := c.dials.put line p.ownDial } := by
  unfold dialled
  rw [h]

theorem pools_dialled (c : Commons) (id : PoolId) (opened : Option LineId) :
    (c.dialled id opened).pools = c.pools := by
  unfold dialled
  split <;> rfl

theorem own_dialled (c : Commons) (id : PoolId) (opened : Option LineId) :
    (c.dialled id opened).own = c.own := by
  unfold dialled
  split <;> rfl

/-- What is put under a new key hides nothing. -/
theorem get?_put_of_new {dials : Roster LineId Dial} {line other : LineId} {dial found : Dial}
    (hnew : dials.get? line = none) (h : dials.get? other = some found) :
    (dials.put line dial).get? other = some found := by
  have hother : other ≠ line := fun heq => by
    rw [heq, hnew] at h
    contradiction
  rw [Roster.get?_put, if_neg hother]
  exact h

theorem grows_dialled (id : PoolId) (hnew : ∀ line, opened = some line → c.dials.get? line = none) :
    c.layout.Grows (c.dialled id opened).layout := by
  unfold dialled
  split
  · exact ⟨fun _ _ h => h, fun _ _ h => get?_put_of_new (hnew _ rfl) h⟩
  · exact ⟨fun _ _ h => h, fun _ _ h => h⟩

theorem Orderly.dialled (h : c.Orderly handed) (id : PoolId)
    (hnew : ∀ line, opened = some line → c.dials.get? line = none) :
    (c.dialled id opened).Orderly handed := by
  refine ⟨fun other p hp => ?_, fun call s hs => h.own call s (own_dialled c id opened ▸ hs)⟩
  obtain ⟨hhoused, hdone⟩ := h.pools other p (pools_dialled c id opened ▸ hp)
  exact ⟨hhoused.grows (grows_dialled id hnew), hdone⟩

/-- A pool that no session comes into from outside keeps what it had and what it opens. -/
theorem Housed.perform (h : Housed l handed id p) {event : PoolEvent} (hguest : event.guest? = none)
    (hthere : l.dialOf id = some p.ownDial)
    (hopened : ∀ line, event.line? = some line → l.dials.get? line = some p.ownDial) :
    Housed l handed id (p.perform event) := by
  have hpassage : Account.Passage (fun _ => True) p.toAccount (p.perform event).toAccount :=
    Pool.passage_perform h.apart event fun _ _ _ => trivial
  have hlater : ∀ {s t : Session}, s.Later t → l.Places s ∧ (s.pool = some id ∨ handed id s.line) →
      l.Places t ∧ (t.pool = some id ∨ handed id t.line) := by
    intro s t hlater hs
    rw [Layout.Places, hlater.pool, hlater.line]
    exact hs
  refine ⟨hpassage.id_eq.trans h.id_eq, h.apart.perform event, ?_⟩
  refine Pool.forall_perform h.apart
    (fun _ _ _ hs hcheck => hlater (Session.later_of_check hcheck) hs)
    (fun s e _ hs => hlater (Session.later_undergo s e) hs) (fun s hcame => ?_) h.kept
  -- What comes in was opened just now, on a place of the pool and to where it connects.
  rcases Pool.opened_or_guest_of_arrival hcame with ⟨-, number, line, now, hline, rfl⟩ | hcameIn
  · have hown : (p.openedSession number line now).pool = some id := congrArg some h.id_eq
    exact ⟨⟨id, p.ownDial, hown, hthere, hopened line hline⟩, .inl hown⟩
  · rw [hguest] at hcameIn
    contradiction

theorem Orderly.within (h : c.Orderly handed) {event : PoolEvent} (hguest : event.guest? = none)
    (hnew : ∀ line, event.line? = some line → c.dials.get? line = none) :
    ((c.dialled id event.line?).onPool id (·.perform event)).Orderly handed := by
  have hdialled := h.dialled id hnew
  cases hp : c.pools.get? id with
  | none =>
    rw [onPool, pools_dialled, hp]
    exact hdialled
  | some p =>
    have hthere : (c.dialled id event.line?).pools.get? id = some p := by rw [pools_dialled, hp]
    have hdialOf : (c.dialled id event.line?).layout.dialOf id = some p.ownDial :=
      congrArg (Option.map Pool.ownDial) hthere
    rw [onPool_of_get? hthere]
    refine hdialled.settle hthere (Pool.ownDial_perform p event)
      ((hdialled.pools id p hthere).1.perform hguest hdialOf fun line hline => ?_)
    rw [hline, dialled_of_get? hp]
    exact (Roster.get?_put c.dials line line p.ownDial).trans (if_pos rfl)

/-! ## What is given to a pool -/

theorem layout_letGo (c : Commons) (held : Held) : (c.letGo held).layout = c.layout := by
  cases held with
  | lent other loan =>
    show (c.onPool other _).layout = c.layout
    unfold onPool
    split
    · rfl
    · rename_i p hp
      exact layout_settle hp rfl
  | own call => rfl

theorem Orderly.letGo (h : c.Orderly handed) (held : Held) : (c.letGo held).Orderly handed := by
  cases held with
  | lent other loan =>
    show (c.onPool other _).Orderly handed
    unfold onPool
    split
    · exact h
    · rename_i p hp
      obtain ⟨hid, hapart, hkept⟩ := (h.pools other p hp).1
      refine h.settle hp rfl ⟨hid, ?_, fun s hs => hkept s (Pool.mem_sessions_endLoan hs)⟩
      exact hapart.onLoan (Pool.onLoan_ended ⟨rfl, rfl⟩)
  | own call =>
    obtain ⟨hpools, hown⟩ := h
    refine ⟨hpools, fun other s hs => ?_⟩
    change (c.own.erase call).get? other = some s at hs
    rw [Roster.get?_erase] at hs
    split at hs
    · contradiction
    · exact hown other s hs

/-- A session in hand has no place, or is placed and was lent by a pool: one whose place it takes
up, or to which it was handed. -/
theorem Orderly.held (h : c.Orderly handed) {held : Held} (hs : c.held? held = some s)
    (hpool : s.pool ≠ none) :
    c.layout.Places s ∧ ∃ other loan, held = .lent other loan ∧
      (s.pool = some other ∨ handed other s.line) := by
  cases held with
  | lent other loan =>
    obtain ⟨p, hp, hloan⟩ := Option.bind_eq_some_iff.mp hs
    obtain ⟨hplaced, hwhose⟩ := (h.pools other p hp).1.kept s (Pool.mem_sessions_of_lent hloan)
    exact ⟨hplaced, other, loan, rfl, hwhose⟩
  | own call => exact absurd (h.own call s hs) hpool

/-- However a pool takes what it is given, all is well if it keeps no more than that, and that only
if it takes up a place somewhere; then it may have been handed to the pool. -/
theorem Orderly.give (h : c.Orderly handed) (held : Held)
    (hframe : ∀ p s, (take p s).frame = p.frame) (hholders : ∀ p s, Pool.SameHolders p (take p s))
    (htake : ∀ p s, c.held? held = some s → ∀ t ∈ (take p s).sessions, t ∈ p.sessions ∨
      t = s ∧ s.pool ≠ none ∧ ∀ other loan, held = .lent other loan → other ≠ id →
        handed id s.line) :
    (c.give held id take).Orderly handed := by
  unfold Commons.give
  split
  · exact h
  · rename_i s hs
    have hletGo := h.letGo held
    unfold onPool
    split
    · exact hletGo
    · rename_i p hp
      obtain ⟨hid, hapart, hkept⟩ := (hletGo.pools id p hp).1
      have hfixture := Pool.fixture_of_frame (hframe p s)
      refine hletGo.settle hp (Pool.ownDial_of_fixture hfixture)
        ⟨(congrArg Pool.Fixture.id hfixture).trans hid, hapart.sameHolders (hholders p s),
          fun t ht => ?_⟩
      rcases htake p s hs t ht with hold | ⟨rfl, hpool, hhanded⟩
      · exact hkept t hold
      -- It was lent by this pool, or by another one and is handed to this one now.
      · obtain ⟨hplaced, other, loan, rfl, hwhose⟩ := h.held hs hpool
        refine ⟨layout_letGo c _ ▸ hplaced, ?_⟩
        by_cases hother : other = id
        · exact hother ▸ hwhose
        · exact .inr (hhanded other loan rfl hother)

/-! ## Runs -/

theorem orderly_found (h : c.Orderly handed) (hnew : c.pools.get? id = none) (studio : Studio)
    (settings : PoolSettings) (now : Instant) :
    (c.perform (.found id studio settings now)).Orderly handed := by
  have hgrows : c.layout.Grows (c.perform (.found id studio settings now)).layout := by
    refine ⟨fun other dial hdial => ?_, fun _ _ hdial => hdial⟩
    obtain ⟨p, hp, heq⟩ := Option.map_eq_some_iff.mp hdial
    have hother : other ≠ id := fun heq => by
      rw [heq, hnew] at hp
      contradiction
    refine Option.map_eq_some_iff.mpr ⟨p, ?_, heq⟩
    exact (Roster.get?_put c.pools other id _).trans ((if_neg hother).trans hp)
  refine ⟨fun other r hr => ?_, h.own⟩
  change (c.pools.put id _).get? other = some r at hr
  rw [Roster.get?_put] at hr
  split at hr
  · rename_i heq
    obtain rfl := Option.some.inj hr
    refine ⟨⟨heq.symm, (Pool.inOrder_forStudio id studio settings now).apart, fun s hs => ?_⟩, rfl⟩
    contradiction
  · exact ⟨(h.pools other r hr).1.grows hgrows, (h.pools other r hr).2⟩

theorem orderly_connect (h : c.Orderly handed) {line : LineId} (hnew : c.dials.get? line = none)
    (call : CallId) (number : Nat) (host : String) (port : UInt16) (patience : Duration)
    (now : Instant) :
    (c.perform (.connect call number host port line patience now)).Orderly handed := by
  have hgrows : c.layout.Grows
      (c.perform (.connect call number host port line patience now)).layout :=
    ⟨fun _ _ hdial => hdial, fun _ _ hdial => get?_put_of_new hnew hdial⟩
  refine ⟨fun other r hr => ⟨(h.pools other r hr).1.grows hgrows, (h.pools other r hr).2⟩,
    fun other s hs => ?_⟩
  change (c.own.put call _).get? other = some s at hs
  rw [Roster.get?_put] at hs
  split at hs
  · rw [← Option.some.inj hs]
    rfl
  · exact h.own other s hs

/-- Whatever happens, all stays well, if what is released to another pool than the one that lent it
counts as handed to it. -/
theorem Orderly.step (h : c.Orderly handed) (event : CommonsEvent)
    (hhanded : ∀ other loan id s, event = .giveBack (.lent other loan) id →
      c.held? (.lent other loan) = some s → other ≠ id → handed id s.line) :
    (c.step event).Orderly handed := by
  unfold Commons.step
  split
  case isFalse => exact h
  case isTrue hadmits =>
    cases event with
    | found id studio settings now =>
      refine orderly_found h (Roster.get?_of_not_has fun hhas => ?_) studio settings now
      rw [Admits, hhas] at hadmits
      contradiction
    | within id event =>
      obtain ⟨hguest, hline⟩ := Bool.and_eq_true_iff.mp hadmits
      refine h.within (Option.isNone_iff_eq_none.mp hguest) fun line hopened => ?_
      rw [hopened] at hline
      refine Roster.get?_of_not_has fun hhas => ?_
      rw [Option.all_some, hhas] at hline
      contradiction
    | connect call number host port line patience now =>
      obtain ⟨-, hline⟩ := Bool.and_eq_true_iff.mp hadmits
      refine orderly_connect h (Roster.get?_of_not_has fun hhas => ?_) call number host port
        patience now
      rw [hhas] at hline
      contradiction
    | use call event =>
      obtain ⟨hpools, hown⟩ := h
      refine ⟨hpools, fun other s hs => ?_⟩
      change (c.own.modify call _).get? other = some s at hs
      rw [Roster.get?_modify] at hs
      split at hs
      · obtain ⟨t, ht, rfl⟩ := Option.map_eq_some_iff.mp hs
        exact (Session.later_undergo t event).pool.trans (hown other t ht)
      · exact hown other s hs
    | lose call =>
      unfold Commons.perform
      dsimp only
      split
      · exact h
      · exact ⟨(h.letGo (.own call)).pools, (h.letGo (.own call)).own⟩
    | giveBack held id =>
      refine h.give held Pool.frame_takeBack Pool.sameHolders_takeBack fun p s hs t ht => ?_
      refine (Pool.mem_sessions_takeBack ht).imp_right fun ⟨heq, hpool⟩ =>
        ⟨heq, hpool, fun other loan hheld hother => ?_⟩
      subst hheld
      exact hhanded other loan id s rfl hs hother
    | giveUp held id =>
      refine h.give held Pool.frame_destroy Pool.sameHolders_destroy fun p s hs t ht => .inl ?_
      rwa [Pool.sessions_destroy] at ht

/-- Something that was lent by another pool was released to the pool, and it was on this line. -/
def HandedIn (events : List CommonsEvent) (id : PoolId) (line : LineId) : Prop :=
  ∃ before after other loan s, events = before ++ .giveBack (.lent other loan) id :: after ∧
    other ≠ id ∧ (({} : Commons).run before).held? (.lent other loan) = some s ∧ s.line = line

theorem HandedIn.concat {events : List CommonsEvent} {line : LineId} (h : HandedIn events id line)
    (event : CommonsEvent) : HandedIn (events ++ [event]) id line := by
  obtain ⟨before, after, other, loan, s, rfl, hrest⟩ := h
  refine ⟨before, after ++ [event], other, loan, s, ?_, hrest⟩
  rw [List.append_assoc, List.cons_append]

theorem orderly_run (events : List CommonsEvent) :
    (({} : Commons).run events).Orderly (HandedIn events) := by
  induction events using List.reverseRecOn with
  | nil => exact ⟨fun _ _ hp => by contradiction, fun _ _ hs => by contradiction⟩
  | append_singleton events event ih =>
    rw [run_concat]
    -- What was handed over before counts as such later, and so does what is handed over now.
    refine (ih.mono fun id line h => h.concat event).step event ?_
    intro other loan id s heq hs hother
    exact ⟨events, [], other, loan, s, heq ▸ rfl, hother, hs, rfl⟩

/-! ## What becomes of a stranger -/

/-- A pool turned a session away: its connection was hung up, and the pool is what it was but that
its upkeep was asked to make up for a session. -/
structure TurnedAway (c d : Commons) (p : Pool) (s : Session) : Prop where
  hungUp : d.hungUp = c.hungUp ++ [s.line]
  pool : ∃ q, d.pools.get? p.id = some q ∧ q.sessions = p.sessions ∧ p.SameCapacity q ∧
    q.upkeep = if p.isClosed then p.upkeep else p.upkeep.ask

/-- A pool took a session in: nothing was hung up, and it is idle there, with no place taken up. -/
structure TakenIn (c d : Commons) (p : Pool) (s : Session) : Prop where
  hungUp : d.hungUp = c.hungUp
  pool : ∃ q, d.pools.get? p.id = some q ∧ q.idle = p.idle ++ [s] ∧ p.SameCapacity q

theorem turnedAway_settle (hdone : p.acts = []) (h : p.TurnsAway q s) :
    c.TurnedAway (c.settle p.id q) p s := by
  have hfree : .freeIn p.id ∉ q.acts := fun hmem => by
    have hnone := h.frees hmem
    rw [hdone] at hnone
    contradiction
  obtain ⟨hsessions, ⟨hplaces, howed, hlive, hmax⟩, hupkeep, hhung, -⟩ := h
  refine ⟨?_, { q with acts := [] }, get?_settle hfree, hsessions,
    ⟨hplaces, howed, hlive, hmax⟩, hupkeep⟩
  rw [hungUp_settle, hhung, Pool.hungUp, hdone]
  rfl

theorem takenIn_settle (hdone : p.acts = []) (hkeeps : p.keeps s = true) (hpool : s.pool ≠ none) :
    c.TakenIn (c.settle p.id (p.takeBack s)) p s := by
  rw [Pool.takeBack_of_keeps hpool hkeeps]
  -- All that the pool asks for is to wake somebody.
  have hacts : ∀ act ∈ ({ p with idle := p.idle ++ [s] } : Pool).tellOne.acts,
      ∃ w, act = .wake w := by
    intro act hmem
    rcases List.mem_append.mp hmem with hold | hwake
    · rw [show ({ p with idle := p.idle ++ [s] } : Pool).acts = [] from hdone] at hold
      contradiction
    · obtain ⟨w, -, rfl⟩ := List.mem_map.mp hwake
      exact ⟨w, rfl⟩
  have hfree : .freeIn p.id ∉ ({ p with idle := p.idle ++ [s] } : Pool).tellOne.acts := by
    intro hmem
    obtain ⟨w, hw⟩ := hacts _ hmem
    contradiction
  refine ⟨?_, _, get?_settle hfree, rfl, ⟨rfl, rfl, rfl, rfl⟩⟩
  rw [hungUp_settle, Pool.hungUp, List.filterMap_eq_nil_iff.mpr, List.append_nil]
  intro act hmem
  obtain ⟨w, rfl⟩ := hacts act hmem
  rfl

/-- What leaves a caller's hands is not missed elsewhere. -/
theorem letGo_elsewhere (h : c.Orderly handed) {held : Held}
    (hother : ∀ loan, held ≠ .lent id loan) :
    (c.letGo held).pools.get? id = c.pools.get? id ∧ (c.letGo held).hungUp = c.hungUp := by
  cases held with
  | lent other loan =>
    show (c.onPool other _).pools.get? id = c.pools.get? id ∧ (c.onPool other _).hungUp = c.hungUp
    unfold onPool
    split
    · exact ⟨rfl, rfl⟩
    · rename_i q hq
      have hne : id ≠ other := fun heq => hother loan (heq ▸ rfl)
      have hdone : (q.endLoan loan).acts = [] := (h.pools other q hq).2
      refine ⟨get?_settle_of_ne hne (by rw [hdone]; exact List.not_mem_nil), ?_⟩
      rw [hungUp_settle, Pool.hungUp, hdone]
      exact List.append_nil _
  | own call => exact ⟨rfl, rfl⟩

/-- What is released to a pool that neither opened nor lent it is taken in if it has a place and the
pool would keep one of its own, and turned away otherwise. -/
theorem step_giveBack (h : c.Orderly handed) (hp : c.pools.get? id = some p) {held : Held}
    (hs : c.held? held = some s) (hother : ∀ loan, held ≠ .lent id loan)
    (howner : s.pool ≠ some id) :
    if s.pool ≠ none ∧ p.keeps s = true then c.TakenIn (c.step (.giveBack held id)) p s
    else c.TurnedAway (c.step (.giveBack held id)) p s := by
  obtain ⟨hthere, hsame⟩ := letGo_elsewhere h hother
  obtain ⟨⟨rfl, -, -⟩, hdone⟩ := h.pools id p hp
  have hhas : c.Admits (.giveBack held p.id) = true := Option.isSome_iff_exists.mpr ⟨p, hp⟩
  have hstep : c.step (.giveBack held p.id) = (c.letGo held).settle p.id (p.takeBack s) := by
    rw [step, if_pos hhas, perform, give, hs]
    exact onPool_of_get? (hthere.trans hp) _
  rw [hstep]
  split
  · rename_i hkept
    -- The lender only forgets the loan, so nothing else was hung up.
    obtain ⟨hhung, hpool⟩ := takenIn_settle (c := c.letGo held) hdone hkept.2 hkept.1
    exact ⟨hhung.trans hsame, hpool⟩
  · rename_i hgone
    have hdestroyed : p.takeBack s = p.destroy s := by
      by_cases hpool : s.pool = none
      · exact Pool.takeBack_unpooled hpool
      · exact Pool.takeBack_of_not_keeps (Bool.eq_false_iff.mpr fun hkeeps => hgone ⟨hpool, hkeeps⟩)
    obtain ⟨hhung, hpool⟩ :=
      turnedAway_settle (c := c.letGo held) hdone (Pool.turnsAway_destroy howner)
    rw [hdestroyed]
    exact ⟨hhung.trans (congrArg (· ++ [s.line]) hsame), hpool⟩

/-! ## Whose sessions there are -/

/-- In every run of any number of pools, each session in a pool's hands takes up a place of some
pool, which opened it and connects to where it leads; and if that is another pool, something on its
line was released to this one although another had lent it. So a pool to which nothing is released
but what it lent has its own sessions only. A session without a place is turned away, and one that
another pool lent is kept where one of the pool's own would be. Neither changes the capacity. -/
theorem run_keeps_own (events : List CommonsEvent) :
    let c := ({} : Commons).run events
    ∀ id p, c.pools.get? id = some p →
      ((∀ other loan, .giveBack (.lent other loan) id ∈ events → other = id) →
        ∀ s ∈ p.sessions, s.pool = some id ∧ c.dials.get? s.line = some ⟨some id, p.host, p.port⟩) ∧
      (∀ s ∈ p.sessions, ∃ owner q, s.pool = some owner ∧ c.pools.get? owner = some q ∧
        c.dials.get? s.line = some ⟨some owner, q.host, q.port⟩ ∧
          (owner = id ∨ HandedIn events id s.line)) ∧
      (∀ call s, c.own.get? call = some s →
        c.TurnedAway (c.step (.giveBack (.own call) id)) p s) ∧
      ∀ other loan s, other ≠ id → c.held? (.lent other loan) = some s → s.pool ≠ some id →
        if p.keeps s then c.TakenIn (c.step (.giveBack (.lent other loan) id)) p s
        else c.TurnedAway (c.step (.giveBack (.lent other loan) id)) p s := by
  intro c id p hp
  have h : c.Orderly (HandedIn events) := orderly_run events
  have hkept : ∀ s ∈ p.sessions, ∃ owner q, s.pool = some owner ∧ c.pools.get? owner = some q ∧
      c.dials.get? s.line = some ⟨some owner, q.host, q.port⟩ ∧
        (owner = id ∨ HandedIn events id s.line) := by
    intro s hs
    obtain ⟨⟨owner, dial, howner, hdial, hline⟩, hwhose⟩ := (h.pools id p hp).1.kept s hs
    obtain ⟨q, hq, rfl⟩ := Option.map_eq_some_iff.mp hdial
    obtain rfl := (h.pools owner q hq).1.id_eq
    refine ⟨q.id, q, howner, hq, hline, hwhose.imp_left fun hown => ?_⟩
    exact Option.some.inj (howner.symm.trans hown)
  refine ⟨fun hfaithful s hs => ?_, hkept, fun call s hs => ?_,
    fun other loan s hother hs howner => ?_⟩
  · obtain ⟨owner, q, howner, hq, hline, rfl | hhanded⟩ := hkept s hs
    · obtain rfl := Option.some.inj (hp.symm.trans hq)
      exact ⟨howner, hline⟩
    · obtain ⟨before, after, other, loan, _, rfl, hother, -⟩ := hhanded
      refine absurd (hfaithful other loan ?_) hother
      exact List.mem_append_right before List.mem_cons_self
  · have hnone := h.own call s hs
    have hheld : c.held? (.own call) = some s := hs
    have hgiven := step_giveBack h hp hheld (fun _ => Held.noConfusion)
      (by rw [hnone]; exact (Option.some_ne_none id).symm)
    rwa [if_neg fun hkept => hkept.1 hnone] at hgiven
  · obtain ⟨q, hq, hloan⟩ := Option.bind_eq_some_iff.mp hs
    obtain ⟨_, _, hpool, -⟩ :=
      ((h.pools other q hq).1.kept s (Pool.mem_sessions_of_lent hloan)).1
    have hgiven := step_giveBack h hp hs
      (fun _ heq => hother (Held.lent.inj heq).1) howner
    have hplaced : s.pool ≠ none := by
      rw [hpool]
      exact Option.some_ne_none _
    simpa only [hplaced, ne_eq, not_false_eq_true, true_and] using hgiven

/-- Pools of two studios. The first lends a session, and another is connected without a pool. -/
def twoStudios : List CommonsEvent :=
  [.found 0 ⟨"a", "left", 1, 0, 2, none, false⟩ { softIdleTimeout := .ofMillis 50 } 0,
    .found 1 ⟨"b", "right", 2, 0, 1, none, false⟩ {} 0, .within 0 (.tend 0),
    .within 0 (.acquire 1 0), .within 0 (.dialled 1 0 (.ok 7)), .connect 2 1 "right" 2 8 ⟨0⟩ 0]

/-- Given back to where it was lent, the session is one of that pool's own. -/
theorem twoStudios_keep_own :
    let c := ({} : Commons).run (twoStudios ++ [.giveBack (.lent 0 1) 0])
    (∃ p, c.pools.get? 0 = some p ∧ p.idle.length = 1 ∧ ∀ s ∈ p.sessions, s.pool = some 0 ∧
      c.dials.get? s.line = some ⟨some 0, p.host, p.port⟩) ∧
    (c.step (.giveBack (.own 2) 1)).hungUp = [8] := by
  intro c
  obtain ⟨p, hp⟩ : ∃ p, c.pools.get? 0 = some p := Option.isSome_iff_exists.mp (by decide)
  obtain ⟨q, hq⟩ : ∃ q, c.pools.get? 1 = some q := Option.isSome_iff_exists.mp (by decide)
  obtain ⟨s, hs⟩ : ∃ s, c.own.get? 2 = some s := Option.isSome_iff_exists.mp (by decide)
  have hown := run_keeps_own (twoStudios ++ [.giveBack (.lent 0 1) 0]) 0 p hp
  have hgone := (run_keeps_own (twoStudios ++ [.giveBack (.lent 0 1) 0]) 1 q hq).2.2.1 2 s hs
  refine ⟨⟨p, hp, ?_, hown.1 ?_⟩, ?_⟩
  · have hlength : (c.pools.get? 0).any (·.idle.length = 1) = true := by decide
    rw [hp] at hlength
    exact of_decide_eq_true hlength
  · intro other loan hmem
    have hlast : other = 0 ∧ loan = 1 := by simpa [twoStudios] using hmem
    exact hlast.1
  · have hthere : (c.own.get? 2).map (·.line) = some 8 := by decide
    have hnone : c.hungUp = [] := by decide
    rw [hs] at hthere
    have hline : s.line = 8 := Option.some.inj hthere
    rw [hgone.hungUp, hnone, hline]
    rfl

/-- The session of the first pool is released to the second, which lends it to the next caller. -/
def straying : List CommonsEvent :=
  twoStudios ++ [.giveBack (.lent 0 1) 1, .within 1 (.acquire 3 0),
    .within 1 (.hearCheck 3 0 (.accepted 1)), .within 1 (.hearCheck 3 0 .flushed),
    .within 1 (.hearCheck 3 0 (.received [0x0A, 0x61, 0x72, 0x73, 0x3E]))]

/-- A pool keeps and lends a session of another pool, connected elsewhere. And where a session
without a place is released, an idle one goes at once that would have stayed for longer. -/
theorem straying_lends_elsewhere :
    (let c := ({} : Commons).run straying
    (c.held? (.lent 1 3)).map (fun s => (s.pool, c.dials.get? s.line)) =
        some (some 0, some ⟨some 0, "left", 1⟩) ∧
      (c.pools.get? 1).map Pool.ownDial = some ⟨some 1, "right", 2⟩) ∧
    (let c := ({} : Commons).run (twoStudios ++ [.giveBack (.lent 0 1) 0])
    let later := CommonsEvent.within 0 (.tend (Duration.ofMillis 51).nanos)
    ((c.step later).pools.get? 0).map Pool.live = some 1 ∧
      (((c.step (.giveBack (.own 2) 0)).step later).pools.get? 0).map Pool.live = some 0) := by
  decide

end Commons

end BroadcastLink
