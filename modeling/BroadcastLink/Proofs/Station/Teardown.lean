import BroadcastLink.Proofs.Station.Launches
import BroadcastLink.Proofs.Station.Succession

/-!
# A link is taken down before the next one comes up

Over every history of a station in which links are drained and shut down by the registry alone: the
channel of a link is shut down, and another pool or channel for its studio or a launch of the studio
begins, only after the pool of the link was drained, which is when everything is back that the pool
lent, or when its drain timeout has passed. No studio ever has two pools that are open, or two
channels that are running.
-/

namespace BroadcastLink.Station

variable {settings : RegistrySettings} {events : List StationEvent} {event : StationEvent}
  {s : Station} {id : PoolId} {p q : Pool} {name : String} {link : Link}

/-! ## Drains in a history -/

/-- The drain of a pool begins with an event: the pool was open before it and is closed after it. -/
structure DrainBegins (settings : RegistrySettings) (id : PoolId) (before : List StationEvent)
    (first : StationEvent) (q : Pool) : Prop where
  isOpen : ∃ p, ((opened settings).run before).pools.get? id = some p ∧ p.isClosed = false
  pool : ((opened settings).run (before ++ [first])).pools.get? id = some q
  closed : q.isClosed = true

/-- The drain of a pool has begun, to wait until the deadline. -/
def Draining (settings : RegistrySettings) (events : List StationEvent) (id : PoolId)
    (deadline : Instant) : Prop :=
  ∃ before first waiting q, events = before ++ first :: waiting ∧
    DrainBegins settings id before first q ∧
    deadline = q.settings.drainTimeout.after ((opened settings).run (before ++ [first])).now

/-- A pool was drained: at some time after its drain began, nothing that it had lent was out any
more, or its drain timeout had passed since. -/
def Drained (settings : RegistrySettings) (events : List StationEvent) (id : PoolId) : Prop :=
  ∃ before first waiting after q r, events = before ++ first :: (waiting ++ after) ∧
    DrainBegins settings id before first q ∧
    ((opened settings).run (before ++ first :: waiting)).pools.get? id = some r ∧
    (r.loans.values = [] ∨
      q.settings.drainTimeout.after ((opened settings).run (before ++ [first])).now ≤
        ((opened settings).run (before ++ first :: waiting)).now)

theorem Draining.later {deadline : Instant} (h : Draining settings events id deadline)
    (event : StationEvent) : Draining settings (events ++ [event]) id deadline := by
  obtain ⟨before, first, waiting, q, rfl, hbegins, hdeadline⟩ := h
  exact ⟨before, first, waiting ++ [event], q, by simp, hbegins, hdeadline⟩

theorem Drained.later (h : Drained settings events id) (event : StationEvent) :
    Drained settings (events ++ [event]) id := by
  obtain ⟨before, first, waiting, after, q, r, rfl, hbegins, hpool, hreason⟩ := h
  exact ⟨before, first, waiting, after ++ [event], q, r, by simp, hbegins, hpool, hreason⟩

/-- A drain ends with everything back, or at its deadline. -/
theorem Draining.ends {deadline : Instant} (h : Draining settings events id deadline)
    (hpool : ((opened settings).run events).pools.get? id = some q)
    (hreason : q.loans.values = [] ∨ deadline ≤ ((opened settings).run events).now) :
    Drained settings events id := by
  obtain ⟨before, first, waiting, began, rfl, hbegins, rfl⟩ := h
  exact ⟨before, first, waiting, [], began, q, by simp, hbegins, hpool, hreason⟩

/-- Whatever drains has begun to, and whatever is drained was. -/
structure Recorded (settings : RegistrySettings) (events : List StationEvent) : Prop where
  draining : ∀ id p d, ((opened settings).run events).pools.get? id = some p → p.drain = some d →
    Draining settings events id d.deadline
  drained : ∀ id p, ((opened settings).run events).pools.get? id = some p → p.IsDrained →
    Drained settings events id

/-- What has come of a drain stands in the history. -/
theorem Draining.recorded {deadline : Instant} (h : Draining settings events id deadline)
    (hpool : ((opened settings).run events).pools.get? id = some q)
    (hdrains : q.Drains deadline ((opened settings).run events).now) :
    (∀ d, q.drain = some d → Draining settings events id d.deadline) ∧
      (q.IsDrained → Drained settings events id) := by
  cases hdrains with
  | on drain same =>
    refine ⟨fun d hd => ?_, fun hdrained => ?_⟩
    · obtain rfl := Option.some.inj (drain.symm.trans hd)
      rw [same]
      exact h
    · rw [hdrained.drain] at drain
      contradiction
  | ended drain reason =>
    refine ⟨fun d hd => ?_, fun _ => h.ends hpool reason⟩
    rw [drain] at hd
    contradiction

/-- One more event. -/
theorem Recorded.step (h : Recorded settings events)
    (hsuccession : ((opened settings).run events).InSuccession)
    (hcloses : event.closes = false) : Recorded settings (events ++ [event]) := by
  have htends := tends_perform hsuccession.housed hsuccession.orderly hsuccession.accounted hcloses
  have hrun : ((opened settings).run events).perform event =
      (opened settings).run (events ++ [event]) := by
    rw [run_append]
    rfl
  rw [hrun] at htends
  have hpools : ∀ id q, ((opened settings).run (events ++ [event])).pools.get? id = some q →
      (∀ d, q.drain = some d → Draining settings (events ++ [event]) id d.deadline) ∧
        (q.IsDrained → Drained settings (events ++ [event]) id) := by
    intro id q hq
    cases hp : ((opened settings).run events).pools.get? id with
    | none =>
      -- A new pool is open, and no drain goes on in it.
      have hopen := htends.news id q hp hq
      refine ⟨fun d hd => ?_, fun hdrained => ?_⟩
      · have hclosed := (htends.housed.pools id q hq).closed (hd ▸ Option.some_ne_none d)
        rw [hopen] at hclosed
        contradiction
      · have hclosed := hdrained.closed
        rw [hopen] at hclosed
        contradiction
    | some p =>
      obtain ⟨r, hr, hfares⟩ := htends.pools id p hp
      obtain rfl := Option.some.inj (hr.symm.trans hq)
      cases hfares with
      | rests door =>
        have hclosing := Pool.closing_of_door door
        refine ⟨fun d hd => ?_, fun hdrained => ?_⟩
        · rw [Pool.drain_of_closing hclosing] at hd
          exact (h.draining id p d hp hd).later event
        · refine (h.drained id p hp ⟨?_, ?_⟩).later event
          · exact (Pool.isClosed_of_closing hclosing).symm.trans hdrained.closed
          · exact (Pool.drain_of_closing hclosing).symm.trans hdrained.drain
      | starts isOpen _ hsettings closed drains =>
        have hbegun : Draining settings (events ++ [event]) id (p.settings.drainTimeout.after
            ((opened settings).run (events ++ [event])).now) :=
          ⟨events, event, [], r, rfl, ⟨⟨p, hp, isOpen⟩, hq, closed⟩, by rw [hsettings]⟩
        exact hbegun.recorded hq drains
      | goesOn drain _ _ _ drains =>
        exact ((h.draining id p _ hp drain).later event).recorded hq drains
  exact ⟨fun id p d hp hd => (hpools id p hp).1 d hd, fun id p hp => (hpools id p hp).2⟩

/-! ## Every history -/

theorem inSuccession_opened (settings : RegistrySettings) : (opened settings).InSuccession := by
  refine ⟨orderly_opened settings, accounted_opened Nobody settings, ⟨?_, ?_, ?_, ?_, ?_⟩,
    ⟨fun _ => rfl, rfl, ?_, ?_, ?_, ?_⟩, ⟨?_, ?_, ?_⟩⟩
  · intro id p hp
    contradiction
  · intro id p call hp
    contradiction
  · intro call session hown
    contradiction
  · intro id p d hp
    contradiction
  · intro call pool hcall
    contradiction
  · intro id hlt
    contradiction
  · intro id c hc
    contradiction
  · intro id c hc
    contradiction
  · intro id id' p p' hp
    contradiction
  · rintro call link (⟨name, hlink⟩ | ⟨job, phase, hwork, -⟩) <;> contradiction
  · intro call job link hwork
    contradiction
  · intro call job studio hwork
    contradiction

/-- Every history keeps the links in succession, and pools stay those of their studios. -/
theorem InSuccession.run (h : s.InSuccession) (hcloses : ∀ event ∈ events, event.closes = false) :
    (s.run events).InSuccession ∧ ∀ id p, s.pools.get? id = some p →
      ∃ q, (s.run events).pools.get? id = some q ∧ q.studio = p.studio := by
  induction events generalizing s with
  | nil => exact ⟨h, fun id p hp => ⟨p, hp, rfl⟩⟩
  | cons event rest ih =>
    have hnow := hcloses event List.mem_cons_self
    obtain ⟨hlater, hpools⟩ := ih (h.perform hnow) fun e he =>
      hcloses e (List.mem_cons_of_mem event he)
    refine ⟨hlater, fun id p hp => ?_⟩
    have htends := tends_perform h.housed h.orderly h.accounted hnow
    obtain ⟨q, hq, hfares⟩ := htends.pools id p hp
    obtain ⟨r, hr, hstudio⟩ := hpools id q hq
    exact ⟨r, hr, hstudio.trans hfares.studio⟩

theorem recorded_run (settings : RegistrySettings) (events : List StationEvent)
    (hcloses : ∀ event ∈ events, event.closes = false) : Recorded settings events := by
  induction events using List.reverseRecOn with
  | nil => exact ⟨fun id p d hp => by contradiction, fun id p hp => by contradiction⟩
  | append_singleton events event ih =>
    have hbefore : ∀ e ∈ events, e.closes = false := fun e he =>
      hcloses e (List.mem_append_left _ he)
    have hsuccession := ((inSuccession_opened settings).run hbefore).1
    exact (ih hbefore).step hsuccession
      (hcloses event (List.mem_append_right _ List.mem_cons_self))

/-! ## What comes after a link -/

/-- A station has moved on from a link that it had earlier: the channel of the link is shut down, or
there is another pool or channel for its studio, or that is being launched. -/
inductive MovedOn (earlier s : Station) (name : String) (link : Link) : Prop where
  | stopped {c : Channel} (hc : s.channels.get? link.channel = some c)
    (hcancelled : c.isCancelled = true)
  | pool {id : PoolId} {p : Pool} (hnew : earlier.pools.get? id = none)
    (hp : s.pools.get? id = some p) (hstudio : p.studio = name)
  | channel {id : ChannelId} {c : Channel} (hnew : earlier.channels.get? id = none)
    (hc : s.channels.get? id = some c) (hstudio : c.studio = name)
  | launch {task : Task} {studio : Studio} (hwant : s.want task = .launch studio)
    (hname : studio.name = name)

/-- A station that moved on from a link has the pool of the link drained. -/
theorem InSuccession.isDrained_of_movedOn {earlier : Station} (hearlier : earlier.InSuccession)
    (h : s.InSuccession) (hpools : ∀ id p, earlier.pools.get? id = some p →
      ∃ q, s.pools.get? id = some q ∧ q.studio = p.studio)
    (hlink : earlier.registry.links.get? name = some link) (hmoved : MovedOn earlier s name link) :
    ∃ q, s.pools.get? link.pool = some q ∧ q.IsDrained := by
  have hpaired : link.channel = link.pool :=
    hearlier.committed.paired 0 link (.inl ⟨name, hlink⟩)
  have hnamed := hearlier.accounted.named name link hlink
  rw [hpaired, ← hearlier.matched.studios] at hnamed
  obtain ⟨p, hp, hstudio⟩ := Option.map_eq_some_iff.mp hnamed
  obtain ⟨q, hq, hsame⟩ := hpools link.pool p hp
  have hname : q.studio = name := hsame.trans hstudio
  refine ⟨q, hq, ?_⟩
  have hnewer {id : PoolId} {r : Pool} (hnew : earlier.pools.get? id = none)
      (hr : s.pools.get? id = some r) (hrname : r.studio = name) : q.IsDrained := by
    -- All numbers below the next one are given, so a new pool has a higher number.
    have hlt : link.pool < earlier.pools.size :=
      hearlier.orderly.ground.pools link.pool fun hnone => by
        rw [hp] at hnone
        contradiction
    have hge : earlier.pools.size ≤ id := by
      by_contra hless
      exact hearlier.matched.dense id (Nat.lt_of_not_le hless) hnew
    exact h.matched.newest link.pool id q r hq hr (hname.trans hrname.symm)
      (Nat.lt_of_lt_of_le hlt hge)
  cases hmoved with
  | stopped hc hcancelled =>
    rw [hpaired] at hc
    exact h.matched.cancelled link.pool _ hc hcancelled q hq
  | pool hnew hr hrname => exact hnewer hnew hr hrname
  | @channel id c hnew hc hcname =>
    have hbefore := hearlier.matched.studios id
    rw [hnew] at hbefore
    have hafter := h.matched.studios id
    rw [hc] at hafter
    obtain ⟨r, hr, hsame'⟩ := Option.map_eq_some_iff.mp hafter
    exact hnewer (Option.map_eq_none_iff.mp hbefore) hr (hsame'.trans hcname)
  | launch hwant hlaunched =>
    obtain ⟨c, job, -, hwork⟩ := work_of_want_launch hwant
    exact h.committed.vacated c job _ hwork link.pool q hq (hname.trans hlaunched.symm)

/-- As long as callers drain no pool and shut no channel down themselves, the channel of a link is
shut down, a pool or a channel for its studio is made, or the studio is launched, only after the
pool of the link was drained: everything that it had lent when its drain began was back then, or its
drain timeout had passed since. And no studio has two open pools or two running channels at a
time. -/
theorem teardown_precedes_replacement (settings : RegistrySettings) (events : List StationEvent)
    (hcloses : ∀ event ∈ events, event.closes = false) :
    (∀ earlier, earlier <+: events → ∀ name link,
      ((opened settings).run earlier).registry.links.get? name = some link →
      MovedOn ((opened settings).run earlier) ((opened settings).run events) name link →
      Drained settings events link.pool) ∧
    (∀ id id' p p', ((opened settings).run events).pools.get? id = some p →
      ((opened settings).run events).pools.get? id' = some p' →
      p.isClosed = false → p'.isClosed = false → p.studio = p'.studio → id = id') ∧
    (∀ id id' c c', ((opened settings).run events).channels.get? id = some c →
      ((opened settings).run events).channels.get? id' = some c' →
      c.listener ≠ .over → c'.listener ≠ .over → c.studio = c'.studio → id = id') := by
  have hsuccession := ((inSuccession_opened settings).run hcloses).1
  refine ⟨?_, ?_, ?_⟩
  · rintro earlier ⟨later, rfl⟩ name link hlink hmoved
    have hearlier := ((inSuccession_opened settings).run fun event hevent =>
      hcloses event (List.mem_append_left later hevent)).1
    have hlater := hearlier.run fun event hevent =>
      hcloses event (List.mem_append_right earlier hevent)
    rw [← run_append] at hlater
    obtain ⟨q, hq, hdrained⟩ := hearlier.isDrained_of_movedOn hsuccession hlater.2 hlink hmoved
    exact (recorded_run settings _ hcloses).drained link.pool q hq hdrained
  · intro id id' p p' hp hp' hopen hopen' hstudio
    have hopens {older newer : PoolId} {p p' : Pool}
        (hp : ((opened settings).run events).pools.get? older = some p)
        (hp' : ((opened settings).run events).pools.get? newer = some p')
        (hopen : p.isClosed = false) (hstudio : p.studio = p'.studio) : ¬ older < newer := by
      intro hlt
      have hclosed := (hsuccession.matched.newest older newer p p' hp hp' hstudio hlt).closed
      rw [hopen] at hclosed
      contradiction
    exact Nat.le_antisymm (Nat.le_of_not_lt (hopens hp' hp hopen' hstudio.symm))
      (Nat.le_of_not_lt (hopens hp hp' hopen hstudio))
  · intro id id' c c' hc hc' hrunning hrunning' hstudio
    exact hsuccession.accounted.single id id' c c' hc hc' hrunning hrunning' (fun h => h)
      (fun h => h) hstudio

/-! A session of the camera's pool is out when the camera moves to another host. Its link is taken
down, and the pool for the new host is made when the session is back and the old channel is over. -/

def lentOut : List StationEvent :=
  .configure 1 onlyCamera :: List.replicate 3 (.resume (.call 1)) ++
    [.acquire 2 0, .resume (.call 2), .hear (.call 2) (.dialled (.ok 0))]

def movedAway : List StationEvent :=
  lentOut ++ .configure 3 (({} : Fleet).add { camera with host := "10.0.0.9" }) ::
    List.replicate 3 (.resume (.call 3)) ++
    [.release (.lent 0 2) none, .resume (.call 3), .resume (.call 3), .resume (.listener 0)] ++
    List.replicate 3 (.resume (.call 3))

theorem movedAway_follows_drain :
    MovedOn ((opened {}).run lentOut) ((opened {}).run movedAway) camera.name
        ⟨camera, 0, 0, 1, 0⟩ ∧
      Drained {} movedAway 0 := by
  have hlink : ((opened {}).run lentOut).registry.links.get? camera.name =
      some ⟨camera, 0, 0, 1, 0⟩ := by cbv
  have hnew : ((opened {}).run lentOut).pools.get? 1 = none := by cbv
  have hpool : (((opened {}).run movedAway).pools.get? 1).map Pool.studio = some camera.name := by
    cbv
  obtain ⟨p, hp, hstudio⟩ := Option.map_eq_some_iff.mp hpool
  have hmoved : MovedOn ((opened {}).run lentOut) ((opened {}).run movedAway) camera.name
      ⟨camera, 0, 0, 1, 0⟩ := .pool hnew hp hstudio
  have hprefix : lentOut <+: movedAway := ⟨_, (List.append_assoc _ _ _).symm⟩
  exact ⟨hmoved, (teardown_precedes_replacement {} movedAway (by decide)).1 lentOut hprefix
    camera.name ⟨camera, 0, 0, 1, 0⟩ hlink hmoved⟩

end BroadcastLink.Station
