import BroadcastLink.Proofs.Station.Teardown

/-!
# How many places the pools have

A pool takes its maximum over from the definition of its studio, when it is made and whenever it is
resized, and never has more free places than that, whatever is lent meanwhile. So the places of all
pools stay within what a counter of places can hold as long as all configured sizes do. The check of
a configuration does not see to that.
-/

namespace BroadcastLink

/-- The most places that a counter of places can hold: it keeps three of its 64 bits to itself. -/
def placeLimit : Nat := (UInt64.size - 1) / 8

/-- No pool of the configuration is to have more than so many sessions. -/
def Fleet.Within (largest : Nat) (f : Fleet) : Prop :=
  ∀ entry ∈ f.entries, entry.2.maxPool.toNat ≤ largest

/-- The studios that a call at work may yet link or give other bounds. -/
def Job.studios (job : Job) (phase : JobPhase) : List Studio :=
  let planned := match job with
    | .configure w => (w.desired.entries ++ w.coming).map (·.2)
    | .launch _ | .shutdown _ => []
  match phase with
  | .up studio => studio :: planned
  | _ => planned

namespace Station

variable {largest : Nat} {s s' : Station} {call : CallId} {job : Job} {phase : JobPhase}
  {stage : JobStage} {name : String} {studio : Studio} {link : Link} {w : Reconfiguration}
  {rest : List (String × Link)} {event : StationEvent} {events : List StationEvent}
  {settings : RegistrySettings}

/-- Every size is at most this, of the pools there are, of the configuration in force, and of the
studios that calls at work deal with. A pool has at least one place. -/
structure Sized (largest : Nat) (s : Station) : Prop where
  pools : ∀ id p, s.pools.get? id = some p → p.max ≤ Nat.max largest 1
  desired : s.registry.desired.Within largest
  studios : ∀ call job phase, s.work? call = some (job, phase) →
    ∀ studio ∈ job.studios phase, studio.maxPool.toNat ≤ largest

theorem max_size_le (h : studio.maxPool.toNat ≤ largest) :
    Nat.max studio.maxPool.toNat 1 ≤ Nat.max largest 1 :=
  Nat.max_le.mpr ⟨Nat.le_trans h (Nat.le_max_left largest 1), Nat.le_max_right largest 1⟩

theorem sized_opened (largest : Nat) (settings : RegistrySettings) :
    (opened settings).Sized largest := by
  refine ⟨?_, ?_, ?_⟩
  · intro id p hp
    contradiction
  · intro entry hentry
    contradiction
  · intro call job phase hwork
    contradiction

namespace Sized

/-! ## Small steps -/

theorem aside (h : s.Sized largest) (haside : Aside s s') : s'.Sized largest := by
  refine ⟨?_, ?_, ?_⟩
  · -- The maximum belongs to what is fixed about a pool.
    intro id p hp
    have hsame := haside.pools id
    rw [hp] at hsame
    obtain ⟨q, hq, hfixture⟩ := Option.map_eq_some_iff.mp hsame.symm
    rw [← show q.max = p.max from congrArg Pool.Fixture.max hfixture]
    exact h.pools id q hq
  · rw [haside.registry]
    exact h.desired
  · intro c job phase hc
    rw [haside.work] at hc
    exact h.studios c job phase hc

theorem onRegistry (h : s.Sized largest) {f : Registry → Registry}
    (hdesired : (f s.registry).desired.Within largest) : (s.onRegistry f).Sized largest :=
  ⟨h.pools, hdesired, h.studios⟩

theorem putJob (h : s.Sized largest)
    (hstudios : ∀ studio ∈ job.studios stage.phase, studio.maxPool.toNat ≤ largest) :
    (s.putJob call job stage).Sized largest := by
  refine ⟨h.pools, h.desired, ?_⟩
  intro c job' phase hc
  rw [work_putJob] at hc
  split at hc
  · obtain ⟨rfl, rfl⟩ := Prod.mk.inj (Option.some.inj hc)
    exact hstudios
  · exact h.studios c job' phase hc

theorem finishJob (h : s.Sized largest) (a : Answer) : (s.finishJob call a).Sized largest := by
  have hgiven : (s.giveUpTurn call).Sized largest := by
    refine Sized.aside ?_ (aside_giveUpTurn s call)
    exact h.onRegistry h.desired
  refine ⟨hgiven.pools, hgiven.desired, ?_⟩
  intro c job phase hc
  rw [work_finishJob] at hc
  split at hc
  · contradiction
  · exact h.studios c job phase hc

theorem takeDown (h : s.Sized largest) (htidy : s.Tidy)
    (hstudios : ∀ studio ∈ job.studios (.down link), studio.maxPool.toNat ≤ largest) :
    (s.takeDown call job link).Sized largest := by
  have hput : (s.putJob call job (.draining link)).Sized largest := h.putJob hstudios
  exact hput.aside (aside_takeDown htidy call job link)

theorem insertLink (h : s.Sized largest) (hstudio : studio.maxPool.toNat ≤ largest) :
    (s.insertLink studio).Sized largest := by
  have hlinked : (s.withLink studio).Sized largest := by
    refine ⟨?_, h.desired, h.studios⟩
    intro id p hp
    rw [pools_withLink] at hp
    split at hp
    · obtain rfl := Option.some.inj hp
      exact max_size_le hstudio
    · exact h.pools id p hp
  exact hlinked.aside (aside_insertLink s studio)

theorem resize (h : s.Sized largest) (htidy : s.Tidy) (hstudio : studio.maxPool.toNat ≤ largest)
    (id : PoolId) (min : Nat) :
    (s.onPool id (·.resize min studio.maxPool.toNat s.now)).Sized largest := by
  cases hp : s.pools.get? id with
  | none =>
    rw [onPool, hp]
    exact h
  | some p =>
    refine Sized.aside ?_ (aside_resizePool htidy hp min studio.maxPool.toNat)
    refine ⟨?_, h.desired, h.studios⟩
    intro other q hq
    replace hq := (Roster.get?_put _ _ _ _).symm.trans hq
    split at hq
    · obtain rfl := Option.some.inj hq
      have hmax := congrArg (·.fixture.max) (Pool.frame_resize p min studio.maxPool.toNat s.now)
      exact Nat.le_trans (Nat.le_of_eq hmax) (max_size_le hstudio)
    · exact h.pools other q hq

/-! ## The pieces of a call's work -/

/-- The studios that a configuration wants, and those it has yet to deal with, are in bounds. -/
theorem of_planned (h : s.Sized largest) (hwork : s.work? call = some (.configure w, phase))
    {entry : String × Studio} (hentry : entry ∈ w.desired.entries ++ w.coming) :
    entry.2.maxPool.toNat ≤ largest := by
  apply h.studios call _ phase hwork entry.2
  have hplanned : entry.2 ∈ (w.desired.entries ++ w.coming).map (·.2) :=
    List.mem_map_of_mem hentry
  cases phase with
  | up studio => exact List.mem_cons_of_mem studio hplanned
  | queued | next | down => exact hplanned

theorem of_desired (h : s.Sized largest) (hwork : s.work? call = some (.configure w, phase)) :
    w.desired.Within largest :=
  fun _ hentry => h.of_planned hwork (List.mem_append_left w.coming hentry)

theorem of_coming (h : s.Sized largest) (hwork : s.work? call = some (.configure w, phase)) :
    ∀ entry ∈ w.coming, entry.2.maxPool.toNat ≤ largest :=
  fun _ hentry => h.of_planned hwork (List.mem_append_right w.desired.entries hentry)

/-- The studio that a call launched is one of those it deals with. -/
theorem of_up (h : s.Sized largest) (hwork : s.work? call = some (job, .up studio)) :
    studio.maxPool.toNat ≤ largest :=
  h.studios call job _ hwork studio List.mem_cons_self

/-- All studios of a configuration are in bounds if those are that it wants, those it has yet to
deal with, and the one it launches. -/
theorem studios_configure {w' : Reconfiguration} (hdesired : w'.desired.Within largest)
    (hcoming : ∀ entry ∈ w'.coming, entry.2.maxPool.toNat ≤ largest)
    (hphase : ∀ studio, phase = .up studio → studio.maxPool.toNat ≤ largest) :
    ∀ studio ∈ (Job.configure w').studios phase, studio.maxPool.toNat ≤ largest := by
  have hplanned : ∀ studio ∈ (w'.desired.entries ++ w'.coming).map (·.2),
      studio.maxPool.toNat ≤ largest := by
    intro studio hmem
    obtain ⟨entry, hentry, rfl⟩ := List.mem_map.mp hmem
    rcases List.mem_append.mp hentry with hwanted | hlater
    · exact hdesired entry hwanted
    · exact hcoming entry hlater
  cases phase with
  | up studio =>
    intro other hmem
    rcases List.mem_cons.mp hmem with rfl | hother
    · exact hphase other rfl
    · exact hplanned other hother
  | queued | next | down => exact hplanned

/-- A configuration goes on with no more studios than it had. -/
theorem goOn (h : s.Sized largest) {w' : Reconfiguration} (hdesired : w'.desired.Within largest)
    (hcoming : ∀ entry ∈ w'.coming, entry.2.maxPool.toNat ≤ largest) :
    (s.putJob call (.configure w') .next).Sized largest :=
  h.putJob (studios_configure hdesired hcoming fun _ heq => by contradiction)

theorem configureNext (h : s.Sized largest) (htidy : s.Tidy)
    (hwork : s.work? call = some (.configure w, .next)) :
    (s.configureNext call w).Sized largest := by
  have hdesired := h.of_desired hwork
  have hcoming := h.of_coming hwork
  have hdown (link : Link) : ∀ studio ∈ (Job.configure w).studios (.down link),
      studio.maxPool.toNat ≤ largest :=
    studios_configure hdesired hcoming fun _ heq => by contradiction
  cases hgone : w.gone with
  | cons first gone =>
    obtain ⟨name, link⟩ := first
    unfold Station.configureNext
    simp only [hgone]
    exact Sized.takeDown (h.onRegistry h.desired) htidy (hdown link)
  | nil =>
    cases hlist : w.coming with
    | nil =>
      rw [configureNext_of_done s call hgone hlist]
      exact Sized.finishJob (h.onRegistry hdesired) _
    | cons first coming =>
      obtain ⟨name, studio⟩ := first
      have hfirst : studio.maxPool.toNat ≤ largest :=
        hcoming (name, studio) (hlist ▸ List.mem_cons_self)
      have hrest (entry : String × Studio) (hentry : entry ∈ coming) :
          entry.2.maxPool.toNat ≤ largest :=
        hcoming entry (hlist ▸ List.mem_cons_of_mem _ hentry)
      unfold Station.configureNext
      simp only [hgone, hlist]
      split
      · -- A link that stays, or is resized, or goes down to be built anew.
        split
        · exact h.goOn hdesired hrest
        · split
          · have hnoted : (s.onRegistry (·.setState name .reconfiguring)).Sized largest :=
              h.onRegistry h.desired
            have hresized := hnoted.resize htidy hfirst
            refine Sized.goOn ?_ hdesired hrest
            exact (hresized _ _).onRegistry (hresized _ _).desired
          · exact Sized.takeDown (h.onRegistry h.desired) htidy (hdown _)
      · -- A new studio, which is launched or linked at once.
        split
        · refine Sized.putJob (h.onRegistry h.desired) (studios_configure hdesired hcoming ?_)
          intro other heq
          obtain rfl := JobPhase.up.inj heq
          exact hfirst
        · exact Sized.goOn (h.insertLink hfirst) hdesired hrest

theorem configureStopped (h : s.Sized largest)
    (hwork : s.work? call = some (.configure w, .down link)) :
    (s.configureStopped call w).Sized largest := by
  have hdesired := h.of_desired hwork
  have hcoming := h.of_coming hwork
  unfold Station.configureStopped
  split
  · exact Sized.goOn (h.onRegistry h.desired) hdesired hcoming
  · rename_i name studio coming _ hlist
    have hfirst : studio.maxPool.toNat ≤ largest :=
      hcoming (name, studio) (hlist ▸ List.mem_cons_self)
    refine Sized.goOn (h.insertLink hfirst) hdesired ?_
    intro entry hentry
    exact hcoming entry (hlist ▸ List.mem_cons_of_mem _ hentry)
  · exact h.goOn hdesired hcoming

theorem configureLaunched (h : s.Sized largest)
    (hwork : s.work? call = some (.configure w, .up studio)) (fault : Option Fault) :
    (s.configureLaunched call w studio fault).Sized largest := by
  have hdesired := h.of_desired hwork
  have hlater (entry : String × Studio) (hentry : entry ∈ w.coming.tail) :
      entry.2.maxPool.toNat ≤ largest := h.of_coming hwork entry (List.mem_of_mem_tail hentry)
  unfold Station.configureLaunched
  dsimp only
  split
  · exact Sized.goOn (h.insertLink (h.of_up hwork)) hdesired hlater
  · exact Sized.goOn (h.onRegistry h.desired) hdesired hlater

/-- A call that launches a studio deals with that one alone. -/
theorem putLaunch (h : s.Sized largest) (hfound : s.registry.desired.get? name = some studio) :
    (s.putJob call (.launch name) (.launching studio)).Sized largest := by
  apply h.putJob
  intro other hother
  obtain rfl := List.mem_singleton.mp hother
  exact h.desired (name, other) (Fleet.mem_entries_iff.mpr hfound)

theorem launchNext (h : s.Sized largest) (htidy : s.Tidy) :
    (s.launchNext call name).Sized largest := by
  unfold Station.launchNext
  split
  · exact h.finishJob _
  · rename_i hfound
    split
    · exact h.finishJob _
    · split
      · exact Sized.takeDown (h.onRegistry h.desired) htidy fun _ hother => by contradiction
      · exact Sized.putLaunch (h.onRegistry h.desired) hfound

theorem launchStopped (h : s.Sized largest) : (s.launchStopped call name).Sized largest := by
  unfold Station.launchStopped
  split
  · exact h.finishJob _
  · rename_i hfound
    exact Sized.putLaunch (h.onRegistry h.desired) hfound

theorem launchLaunched (h : s.Sized largest)
    (hwork : s.work? call = some (.launch name, .up studio)) (fault : Option Fault) :
    (s.launchLaunched call name studio fault).Sized largest := by
  unfold Station.launchLaunched
  split
  · exact Sized.finishJob (h.insertLink (h.of_up hwork)) _
  · exact Sized.finishJob (h.onRegistry h.desired) _

/-- A shutdown deals with no studios between two links. -/
theorem putShutdown (h : s.Sized largest) :
    (s.putJob call (.shutdown rest) .next).Sized largest :=
  h.putJob fun _ hother => by contradiction

theorem shutdownNext (h : s.Sized largest) (htidy : s.Tidy) :
    (s.shutdownNext call rest).Sized largest := by
  cases rest with
  | nil => exact Sized.finishJob (h.onRegistry fun _ hentry => by contradiction) _
  | cons first rest =>
    exact Sized.takeDown (h.onRegistry h.desired) htidy fun _ hother => by contradiction

theorem shutdownStopped (h : s.Sized largest) : (s.shutdownStopped call rest).Sized largest := by
  cases rest with
  | nil => exact h.putShutdown
  | cons first rest => exact Sized.putShutdown (h.onRegistry h.desired)

theorem beginJob (h : s.Sized largest) (hwork : s.work? call = some (job, .queued)) :
    (s.beginJob call job).Sized largest := by
  cases job with
  | configure w =>
    -- The plan has yet to deal with all that the configuration wants.
    have hdesired := h.of_desired hwork
    exact Sized.goOn h hdesired hdesired
  | launch name => exact h.putJob fun _ hother => by contradiction
  | shutdown rest => exact Sized.putShutdown (h.onRegistry h.desired)

/-! ## Every event -/

/-- A call starts with the studios that it was given. -/
theorem startJob (h : s.Sized largest)
    (hstudios : ∀ studio ∈ job.studios .queued, studio.maxPool.toNat ≤ largest) :
    (s.startJob call job).Sized largest := by
  have hput : ((s.onRegistry fun r => { r with turn := r.turn.request call }).putJob call job
      .queued).Sized largest := Sized.putJob (h.onRegistry h.desired) hstudios
  exact hput.aside (aside_startJob s call job)

/-- What starts no call that changes the links leaves the sizes in bounds. -/
theorem advance (h : s.Sized largest) (htidy : s.Tidy) (hadvance : Advance s event s')
    (hquiet : event.changesLinks = false) : s'.Sized largest := by
  cases hadvance with
  | aside haside => exact h.aside haside
  | starts _ _ hchanges => exact absurd hchanges (Bool.eq_false_iff.mp hquiet)
  | begins hwork _ => exact h.beginJob hwork
  | @next call job hwork =>
    cases job with
    | configure w => exact h.configureNext htidy hwork
    | launch name => exact h.launchNext htidy
    | shutdown rest => exact h.shutdownNext htidy
  | @stopped call job link hwork =>
    cases job with
    | configure w => exact h.configureStopped hwork
    | launch name => exact h.launchStopped
    | shutdown rest => exact h.shutdownStopped
  | @launched call job studio fault hwork =>
    cases job with
    | configure w => exact h.configureLaunched hwork fault
    | launch name => exact h.launchLaunched hwork fault
    | shutdown rest => exact h.putShutdown

/-- A configuration that is refused starts nothing, so only one that is accepted has to be in
bounds. -/
theorem configure (h : s.Sized largest) {desired : Fleet}
    (hdesired : desired.validate = .ok () → desired.Within largest) :
    (s.configure call desired).Sized largest := by
  unfold Station.configure
  split
  · exact h.aside (aside_answer s call fun _ heq => by contradiction)
  · rename_i hsound
    refine h.startJob (studios_configure (hdesired hsound) ?_ ?_)
    · intro entry hentry
      contradiction
    · intro studio heq
      contradiction

/-- A call is made only if its number is new. -/
theorem ifNew (h : s.Sized largest) (hmade : s'.Sized largest) :
    (if s.IsNew call then s' else s).Sized largest := by
  split
  · exact hmade
  · exact h

/-- Sizes stay in bounds if the event wants none beyond them. -/
theorem perform (h : s.Sized largest) (htidy : s.Tidy)
    (hwithin : ∀ call desired, event = .configure call desired →
      desired.validate = .ok () → desired.Within largest) :
    (s.perform event).Sized largest := by
  cases event with
  | configure call desired => exact h.ifNew (h.configure (hwithin call desired rfl))
  | launch call name => exact h.ifNew (h.startJob fun _ hother => by contradiction)
  | shutdown call => exact h.ifNew (h.startJob fun _ hother => by contradiction)
  | _ => exact h.advance htidy (advance_perform htidy _) rfl

theorem run {low floor : Nat} (h : s.Sized largest) (horderly : s.Orderly low floor)
    (hwithin : ∀ call desired, .configure call desired ∈ events →
      desired.validate = .ok () → desired.Within largest) :
    (s.run events).Sized largest := by
  induction events generalizing s with
  | nil => exact h
  | cons event rest ih =>
    have hnow : (s.perform event).Sized largest := by
      apply h.perform horderly.ground.tidy
      intro call desired heq
      exact hwithin call desired (heq ▸ List.mem_cons_self)
    apply ih hnow (horderly.perform event)
    intro call desired hmem
    exact hwithin call desired (List.mem_cons_of_mem event hmem)

/-- A pool has at most as many free places as its maximum, whatever is lent, owed or being opened.
-/
theorem places_le (h : s.Sized largest) (hhoused : s.Housed) {id : PoolId} {p : Pool}
    (hp : s.pools.get? id = some p) : p.places ≤ Nat.max largest 1 :=
  calc
    p.places = p.max - p.slots := (hhoused.pools id p hp).counted.places
    _ ≤ p.max := Nat.sub_le p.max p.slots
    _ ≤ Nat.max largest 1 := h.pools id p hp

end Sized

/-! ## What a counter can hold -/

/-- A configuration with one studio, of this size. -/
def cameraOf (size : UInt64) : Fleet :=
  ({} : Fleet).add { camera with minPool := 0, maxPool := size }

theorem within_cameraOf {size : UInt64} (h : size.toNat ≤ largest) :
    (cameraOf size).Within largest := by
  intro entry hentry
  obtain rfl := List.mem_singleton.mp hentry
  exact h

/-- Every size but none at all is accepted. -/
theorem validate_cameraOf {size : UInt64} (h : size ≠ 0) : (cameraOf size).validate = .ok () := by
  have hmin : ¬ size < 0 := UInt64.not_lt_zero
  have hsound : ({ camera with minPool := 0, maxPool := size } : Studio).validate = .ok () := by
    simp [Studio.validate, Studio.defect?, camera, h, hmin]
  exact congrArg (· >>= fun _ => Except.ok ()) hsound

/-- A call configures one studio, of this size. -/
def configuring (call : CallId) (size : UInt64) : List StationEvent :=
  .configure call (cameraOf size) :: List.replicate 3 (.resume (.call call))

/-- All places of the new pool are free. -/
theorem places_configuring (settings : RegistrySettings) {size : UInt64} (h : size ≠ 0) :
    (((opened settings).run (configuring 1 size)).pools.get? 0).map Pool.places =
      some (Nat.max size.toNat 1) := by
  have hstarted : (opened settings).perform (.configure 1 (cameraOf size)) =
      (opened settings).startJob 1 (.configure { desired := cameraOf size }) := by
    have hnew : (opened settings).IsNew 1 := ⟨rfl, fun _ hmem => by contradiction⟩
    simp only [perform, if_pos hnew, Station.configure, validate_cameraOf h]
  show ((((opened settings).perform _).run _).pools.get? 0).map Pool.places = _
  rw [hstarted]
  cbv

/-- As long as callers drain no pool and shut no channel down themselves, the free places of every
pool are within what a counter of places can hold, in every run whose accepted configurations want
no pool larger than a given size, just if that size is within it. The check of a configuration
refuses no size for being too large. -/
theorem places_within_limit_iff (settings : RegistrySettings) (largest : UInt64) :
    (∀ events : List StationEvent, (∀ event ∈ events, event.closes = false) →
      (∀ call desired, .configure call desired ∈ events → desired.validate = .ok () →
        desired.Within largest.toNat) →
      ∀ id p, ((opened settings).run events).pools.get? id = some p → p.places ≤ placeLimit) ↔
    largest.toNat ≤ placeLimit := by
  constructor
  · -- One studio of the given size shows it: nothing is lent from its pool yet.
    intro hwithin
    by_cases hzero : largest = 0
    · rw [hzero]
      exact Nat.zero_le placeLimit
    · obtain ⟨p, hp, hplaces⟩ := Option.map_eq_some_iff.mp (places_configuring settings hzero)
      have hle := hwithin (configuring 1 largest) ?_ ?_ 0 p hp
      · rw [hplaces] at hle
        exact Nat.le_trans (Nat.le_max_left _ _) hle
      · intro event hmem
        simp only [configuring, List.replicate, List.mem_cons, List.not_mem_nil, or_false] at hmem
        rcases hmem with rfl | rfl | rfl | rfl <;> rfl
      · intro call desired hmem _
        simp only [configuring, List.replicate, List.mem_cons, List.not_mem_nil, or_false,
          StationEvent.configure.injEq, reduceCtorEq] at hmem
        obtain ⟨-, rfl⟩ := hmem
        exact within_cameraOf (Nat.le_refl _)
  · -- Sizes stay in bounds, and no pool has more free places than its size.
    intro hlargest events hcloses hwithin id p hp
    have hhoused := ((inSuccession_opened settings).run hcloses).1.housed
    have hsized := (sized_opened largest.toNat settings).run (orderly_opened settings) hwithin
    exact Nat.le_trans (hsized.places_le hhoused hp) (Nat.max_le.mpr ⟨hlargest, by decide⟩)

/-! Two sessions are out when the camera's pool is shrunk to one place and then grows to five: the
place that was owed is made up for first, so three are free. -/

def resizedWhileLent : List StationEvent :=
  configuring 1 2 ++
    [.acquire 2 0, .resume (.call 2), .hear (.call 2) (.dialled (.ok 0)),
      .acquire 3 0, .resume (.call 3), .hear (.call 3) (.dialled (.ok 1))] ++
    configuring 4 1 ++ configuring 5 5

theorem resizedWhileLent_within_limit :
    (((opened {}).run resizedWhileLent).pools.get? 0).map Pool.places = some 3 ∧
      ∀ id p, ((opened {}).run resizedWhileLent).pools.get? id = some p →
        p.places ≤ placeLimit := by
  refine ⟨by cbv, ?_⟩
  refine (places_within_limit_iff {} 5).mpr (by decide) resizedWhileLent (by decide) ?_
  intro call desired hmem _
  simp only [resizedWhileLent, configuring, List.replicate, List.cons_append, List.nil_append,
    List.mem_cons, List.not_mem_nil, or_false, StationEvent.configure.injEq, reduceCtorEq,
    false_or] at hmem
  rcases hmem with ⟨-, rfl⟩ | ⟨-, rfl⟩ | ⟨-, rfl⟩ <;> exact within_cameraOf (by decide)

/-! Two configurations that the check accepts, and the second makes the one place of the camera's
pool into one more than a counter can hold. -/

def overgrown : List StationEvent := configuring 1 1 ++ configuring 2 2305843009213693952

theorem overgrown_exceeds_limit :
    (cameraOf 1).validate = .ok () ∧ (cameraOf 2305843009213693952).validate = .ok () ∧
      (∀ event ∈ overgrown, event.closes = false) ∧
      ∃ p, ((opened {}).run overgrown).pools.get? 0 = some p ∧ placeLimit < p.places := by
  have hplaces : (((opened {}).run overgrown).pools.get? 0).map Pool.places =
      some 2305843009213693952 := by cbv
  obtain ⟨p, hp, hp'⟩ := Option.map_eq_some_iff.mp hplaces
  refine ⟨validate_cameraOf (by decide), validate_cameraOf (by decide), by decide, p, hp, ?_⟩
  rw [hp']
  decide

end Station

end BroadcastLink
