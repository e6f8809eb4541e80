import BroadcastLink.Proofs.Station.Orphans

/-!
# Whose pools are open

A pool that is open belongs to a link, or a shutdown that has taken out all links has it in hand and
has yet to close it: whoever else takes a link out begins at once to drain its pool, which closes
it. Callers may close pools themselves; none opens again.
-/

namespace BroadcastLink

/-- The pools that a call has in hand and has yet to close. -/
def Job.pools (job : Job) (phase : JobPhase) : List PoolId :=
  match phase, job with
  | .down _, .shutdown rest => rest.tail.map (·.2.pool)
  | .next, .shutdown rest | .up _, .shutdown rest => rest.map (·.2.pool)
  | _, _ => []

namespace Station

variable {callers : ChannelId → Prop} {low floor : Nat} {s s' : Station} {call : CallId}
  {id : PoolId} {job : Job} {phase : JobPhase} {stage : JobStage} {hands : List PoolId}
  {name : String} {studio : Studio} {link : Link} {w : Reconfiguration} {fault : Option Fault}
  {rest : List (String × Link)}

/-- The pool belongs to a link. -/
def HasLink (s : Station) (id : PoolId) : Prop :=
  ∃ name link, s.registry.links.get? name = some link ∧ link.pool = id

/-- Every open pool belongs to a link, or a call has it in hand and has yet to close it. -/
def Sheltered (s : Station) : Prop :=
  ∀ id, s.IsOpen id → s.HasLink id ∨
    ∃ call job phase, s.work? call = some (job, phase) ∧ id ∈ job.pools phase

/-- In the middle of a piece of work of the call with the turn, every open pool belongs to a link or
is one of these. -/
structure Shelters (call : CallId) (s : Station) (hands : List PoolId) : Prop where
  others : s.OthersQueued call
  opens : ∀ id, s.IsOpen id → s.HasLink id ∨ id ∈ hands

theorem Sheltered.aside (h : s.Sheltered) (haside : Aside s s') : s'.Sheltered := by
  intro id hid
  rcases h id (haside.opens id hid) with hlinked | ⟨call, job, phase, hwork, hmem⟩
  · refine .inl ?_
    rw [HasLink, haside.registry]
    exact hlinked
  · exact .inr ⟨call, job, phase, (haside.work call).trans hwork, hmem⟩

/-- A piece of work begins. -/
theorem Sheltered.shelters (h : s.Sheltered) (hothers : s.OthersQueued call)
    (hwork : s.work? call = some (job, phase)) : Shelters call s (job.pools phase) := by
  refine ⟨hothers, fun id hid => ?_⟩
  rcases h id hid with hlinked | ⟨other, job', phase', hother, hmem⟩
  · exact .inl hlinked
  · by_cases heq : other = call
    · rw [heq, hwork] at hother
      obtain ⟨rfl, rfl⟩ := Prod.mk.inj (Option.some.inj hother)
      exact .inr hmem
    · -- Any other call waits for its turn and has nothing in hand.
      rw [hothers other job' phase' heq hother] at hmem
      contradiction

/-! ## What opens and closes -/

/-- Taking a link down closes its pool, if it was open, and opens none. -/
theorem isOpen_of_takeDown (htidy : s.Tidy) (h : (s.takeDown call job link).IsOpen id) :
    s.IsOpen id ∧ id ≠ link.pool := by
  cases hp : s.pools.get? link.pool with
  | none =>
    have hopen := (aside_takeDown htidy call job link).opens id h
    refine ⟨hopen, fun heq => ?_⟩
    obtain ⟨p, hpool, -⟩ := hopen
    rw [heq] at hpool
    exact absurd (hp.symm.trans hpool) (Option.some_ne_none p).symm
  | some p =>
    have hnobody : p.refused = [] := congrArg (List.filterMap PoolAct.refused?) (htidy _ p hp)
    have hdrain := Pool.onlyCloses_startDrain p call s.now
    have haside := aside_onPool_settled (s := s.putJob call job (.draining link))
      (f := (·.startDrain call s.now)) htidy hp fun c hc => by
        rw [hdrain.refused, hnobody] at hc
        contradiction
    have hopen := (isOpen_putBack _ link.pool _ id).mp (haside.opens id h)
    split at hopen
    · rw [Pool.isClosed_startDrain] at hopen
      contradiction
    · rename_i hne
      exact ⟨hopen, hne⟩

/-- Linking a studio opens the pool of the new link. -/
theorem isOpen_of_insertLink (h : (s.insertLink studio).IsOpen id) :
    id = s.nextPool ∨ s.IsOpen id := by
  obtain ⟨p, hp, hopen⟩ := (aside_insertLink s studio).opens id h
  rw [pools_withLink] at hp
  split at hp
  · rename_i heq
    exact .inl heq
  · exact .inr ⟨p, hp, hopen⟩

namespace Shelters

/-! ## Within a piece of work -/

/-- The registry changes, and what had a link has one still or is held. -/
theorem onRegistry {hands' : List PoolId} (h : Shelters call s hands) (f : Registry → Registry)
    (hlinks : ∀ name link, s.registry.links.get? name = some link →
      (s.onRegistry f).HasLink link.pool ∨ link.pool ∈ hands')
    (hhands : ∀ id ∈ hands, id ∈ hands') : Shelters call (s.onRegistry f) hands' := by
  refine ⟨h.others.onRegistry f, fun id hid => ?_⟩
  rcases h.opens id hid with ⟨name, link, hlink, rfl⟩ | hheld
  · exact hlinks name link hlink
  · exact .inr (hhands id hheld)

theorem sameLinks (h : Shelters call s hands) {f : Registry → Registry}
    (hf : (f s.registry).links = s.registry.links) : Shelters call (s.onRegistry f) hands :=
  h.onRegistry f (fun name link hlink => .inl ⟨name, link, hf ▸ hlink, rfl⟩) fun _ hid => hid

/-- A link is taken out, and its pool is held. -/
theorem removeLink (h : Shelters call s hands) {f : Registry → Registry}
    (hlink : s.registry.links.get? name = some link)
    (hf : (f s.registry).links = s.registry.links.erase name) :
    Shelters call (s.onRegistry f) (link.pool :: hands) := by
  refine h.onRegistry f ?_ fun _ hid => List.mem_cons_of_mem _ hid
  intro other found hfound
  by_cases heq : other = name
  · rw [heq, hlink] at hfound
    obtain rfl := Option.some.inj hfound
    exact .inr List.mem_cons_self
  · have hkept : (f s.registry).links.get? other = some found := by
      rw [hf, Roster.get?_erase, if_neg heq]
      exact hfound
    exact .inl ⟨other, found, hkept, rfl⟩

/-- All links are taken out, and all their pools are held. -/
theorem removeAll (h : Shelters call s []) :
    Shelters call (s.onRegistry fun r => { r with links := {} })
      ((Registry.byName s.registry.links.entries).map (·.2.pool)) := by
  refine h.onRegistry _ ?_ fun _ hid => by contradiction
  intro name link hlink
  have hentry : (name, link) ∈ Registry.byName s.registry.links.entries :=
    List.mem_mergeSort.mpr (Roster.mem_entries_iff.mpr hlink)
  exact .inr (List.mem_map.mpr ⟨(name, link), hentry, rfl⟩)

/-- A studio without a link gets one, over a new pool. -/
theorem insertLink (h : Shelters call s hands)
    (habsent : s.registry.links.get? studio.name = none) :
    Shelters call (s.insertLink studio) hands := by
  refine ⟨h.others.insertLink studio, fun id hid => ?_⟩
  rcases isOpen_of_insertLink hid with rfl | hopen
  · exact .inl ⟨studio.name, _, (links_insertLink s studio _).trans (if_pos rfl), rfl⟩
  · refine (h.opens id hopen).imp_left ?_
    rintro ⟨name, link, hlink, rfl⟩
    have hne : name ≠ studio.name := by
      rintro rfl
      rw [habsent] at hlink
      contradiction
    exact ⟨name, link, (links_insertLink s studio _).trans ((if_neg hne).trans hlink), rfl⟩

/-- A link is put in the place of one with the same pool. -/
theorem replaceLink (h : Shelters call s hands)
    (hlink : s.registry.links.get? name = some link) (studio : Studio) :
    Shelters call (s.onRegistry (·.replaceLink name { link with studio := studio })) hands := by
  have hget : ∀ other, (s.registry.links.put name { link with studio := studio }).get? other =
      if other = name then some { link with studio := studio } else s.registry.links.get? other :=
    fun other => Roster.get?_put _ _ _ _
  refine h.onRegistry _ (fun other found hfound => .inl ?_) fun _ hid => hid
  by_cases heq : other = name
  · rw [heq, hlink] at hfound
    obtain rfl := Option.some.inj hfound
    exact ⟨name, _, (hget name).trans (if_pos rfl), rfl⟩
  · exact ⟨other, found, (hget other).trans ((if_neg heq).trans hfound), rfl⟩

/-- Other bounds open no pool. -/
theorem resizePool (h : Shelters call s hands) (htidy : s.Tidy) {p : Pool}
    (hp : s.pools.get? id = some p) (min max : Nat) :
    Shelters call (s.onPool id (·.resize min max s.now)) hands := by
  have haside := aside_resizePool htidy hp min max
  refine ⟨fun c job phase hne hc => ?_, fun other hother => ?_⟩
  · rw [haside.work] at hc
    exact h.others c job phase hne hc
  · rw [HasLink, haside.registry]
    refine h.opens other ?_
    have hopen := (isOpen_putBack s id _ other).mp (haside.opens other hother)
    split at hopen
    · rename_i heq
      have hsame := congrArg (·.closing.isClosed) (Pool.frame_resize p min max s.now)
      exact ⟨p, heq ▸ hp, hsame.symm.trans hopen⟩
    · exact hopen

/-- A linked studio gets other bounds. -/
theorem resize (h : Shelters call s hands) (htidy : s.Tidy)
    (hlink : s.registry.links.get? name = some link) {p : Pool}
    (hp : s.pools.get? link.pool = some p) (studio : Studio) :
    Shelters call (((s.onRegistry (·.setState name .reconfiguring)).onPool link.pool
      (·.resize studio.minPool.toNat studio.maxPool.toNat s.now)).onRegistry
        (·.replaceLink name { link with studio := studio })) hands := by
  have hnoted := h.sameLinks (f := (·.setState name .reconfiguring)) rfl
  have haside := aside_resizePool (s := s.onRegistry (·.setState name .reconfiguring)) htidy hp
    studio.minPool.toNat studio.maxPool.toNat
  refine (hnoted.resizePool htidy hp _ _).replaceLink ?_ studio
  rw [haside.registry]
  exact hlink

/-! ### How a piece of work ends -/

theorem putJob (h : Shelters call s hands)
    (hhands : ∀ id ∈ hands, id ∈ job.pools stage.phase) :
    (s.putJob call job stage).Sheltered := by
  intro id hid
  have hown : (s.putJob call job stage).work? call = some (job, stage.phase) :=
    (work_putJob s call job stage call).trans (if_pos rfl)
  exact (h.opens id hid).imp_right fun hheld => ⟨call, job, stage.phase, hown, hhands id hheld⟩

/-- The piece of work ends with the beginning of a drain, which closes the pool of the link. -/
theorem takeDown (h : Shelters call s hands) (htidy : s.Tidy)
    (hhands : ∀ id ∈ hands, id = link.pool ∨ id ∈ job.pools (.down link)) :
    (s.takeDown call job link).Sheltered := by
  have haside := aside_takeDown htidy call job link
  have hown : (s.takeDown call job link).work? call = some (job, .down link) :=
    (haside.work call).trans ((work_putJob s call job _ call).trans (if_pos rfl))
  intro id hid
  obtain ⟨hopen, hne⟩ := isOpen_of_takeDown htidy hid
  rw [HasLink, haside.registry]
  exact (h.opens id hopen).imp_right fun hheld =>
    ⟨call, job, .down link, hown, (hhands id hheld).resolve_left hne⟩

/-- The piece of work ends the call, which holds nothing. -/
theorem finishJob (h : Shelters call s []) (a : Answer) : (s.finishJob call a).Sheltered := by
  have hgiven := aside_giveUpTurn s call
  intro id hid
  refine .inl ?_
  rw [HasLink, registry_finishJob]
  exact (h.opens id (hgiven.opens id hid)).resolve_right fun hheld => by contradiction

end Shelters

namespace Sheltered

/-! ## A configuration -/

/-- A configuration deals with a studio that has a link. -/
theorem configureFound {coming : List (String × Studio)} (h : s.Sheltered)
    (horderly : s.Orderly low floor) (hwork : s.work? call = some (.configure w, .next))
    (hgone : w.gone = []) (hcoming : w.coming = (name, studio) :: coming)
    (hfound : w.current.get? name = some link) : (s.configureNext call w).Sheltered := by
  obtain ⟨hat, -, hprogress, -⟩ := horderly.configuring hwork fun heq => by contradiction
  have hshelters := h.shelters (horderly.othersQueued hwork fun heq => by contradiction) hwork
  have hsame := (hprogress.coming name studio (hcoming ▸ List.mem_cons_self)).2
  have hlink : s.registry.links.get? name = some link := (hsame List.not_mem_nil).trans hfound
  unfold Station.configureNext
  simp only [hgone, hcoming, hfound]
  split
  · exact hshelters.putJob fun _ hid => hid
  · split
    · obtain ⟨p, hp⟩ := Option.ne_none_iff_exists'.mp
        (hat.inLine.linked name link hlink).pool_ne_none
      exact (hshelters.resize hat.ground.tidy hlink hp studio).putJob fun _ hid => hid
    · have htaken := hshelters.removeLink
        (f := fun r => (r.setState name .reconfiguring).removeLink name) hlink rfl
      exact htaken.takeDown hat.ground.tidy fun id hid => .inl (List.mem_singleton.mp hid)

/-- The next piece of work of a configuration. -/
theorem configureNext (h : s.Sheltered) (horderly : s.Orderly low floor)
    (haccounted : s.Accounted callers) (hwork : s.work? call = some (.configure w, .next)) :
    (s.configureNext call w).Sheltered := by
  obtain ⟨hat, hsound, hprogress, -⟩ := horderly.configuring hwork fun heq => by contradiction
  have hshelters := h.shelters (horderly.othersQueued hwork fun heq => by contradiction) hwork
  cases hgone : w.gone with
  | cons first gone =>
    obtain ⟨name, link⟩ := first
    have hfinds : w.Finds s.registry.links [] :=
      haccounted.found call (.configure w) .next hwork fun heq => by contradiction
    have hlink := hfinds name link (hgone ▸ List.mem_cons_self) List.not_mem_nil
    have htaken := hshelters.removeLink
      (f := fun r => (r.setState name .reconfiguring).removeLink name) hlink rfl
    unfold Station.configureNext
    simp only [hgone]
    exact htaken.takeDown hat.ground.tidy fun id hid => .inl (List.mem_singleton.mp hid)
  | nil =>
    cases hcoming : w.coming with
    | nil =>
      rw [configureNext_of_done s call hgone hcoming]
      exact (hshelters.sameLinks rfl).finishJob _
    | cons first coming =>
      obtain ⟨name, studio⟩ := first
      cases hfound : w.current.get? name with
      | some link => exact h.configureFound horderly hwork hgone hcoming hfound
      | none =>
        obtain ⟨hwanted, hsame⟩ := hprogress.coming name studio (hcoming ▸ List.mem_cons_self)
        obtain ⟨rfl, -⟩ := Fleet.sound_of_validate hsound hwanted
        have habsent := (hsame List.not_mem_nil).trans hfound
        unfold Station.configureNext
        simp only [hgone, hcoming, hfound]
        split
        · exact (hshelters.sameLinks rfl).putJob fun _ hid => hid
        · exact (hshelters.insertLink habsent).putJob fun _ hid => hid

/-- A configuration goes on when a link was taken down. -/
theorem configureStopped (h : s.Sheltered) (horderly : s.Orderly low floor)
    (hwork : s.work? call = some (.configure w, .down link)) :
    (s.configureStopped call w).Sheltered := by
  obtain ⟨hat, hsound, hprogress, -⟩ := horderly.configuring hwork fun heq => by contradiction
  have hshelters := h.shelters (horderly.othersQueued hwork fun heq => by contradiction) hwork
  replace hat : AtWork low floor call s s w.upNext := hat
  unfold Station.configureStopped
  cases hgone : w.gone with
  | cons first gone => exact (hshelters.sameLinks rfl).putJob fun _ hid => hid
  | nil =>
    cases hcoming : w.coming with
    | nil => exact hshelters.putJob fun _ hid => hid
    | cons first coming =>
      obtain ⟨name, studio⟩ := first
      obtain ⟨hwanted, -⟩ := hprogress.coming name studio (hcoming ▸ List.mem_cons_self)
      obtain ⟨rfl, -⟩ := Fleet.sound_of_validate hsound hwanted
      rw [upNext_of_coming hgone hcoming] at hat
      have habsent := hat.inLine.away studio.name List.mem_cons_self
      exact (hshelters.insertLink habsent).putJob fun _ hid => hid

/-- A configuration goes on when a studio was launched or its launch failed. -/
theorem configureLaunched (h : s.Sheltered) (horderly : s.Orderly low floor)
    (hwork : s.work? call = some (.configure w, .up studio)) (fault : Option Fault) :
    (s.configureLaunched call w studio fault).Sheltered := by
  obtain ⟨hat, -, -, hgone, -, coming, hcoming⟩ :=
    horderly.configuring hwork fun heq => by contradiction
  have hshelters := h.shelters (horderly.othersQueued hwork fun heq => by contradiction) hwork
  replace hat : AtWork low floor call s s w.upNext := hat
  rw [upNext_of_coming hgone hcoming] at hat
  cases fault with
  | none =>
    have habsent := hat.inLine.away studio.name List.mem_cons_self
    exact (hshelters.insertLink habsent).putJob fun _ hid => hid
  | some fault => exact (hshelters.sameLinks rfl).putJob fun _ hid => hid

/-! ## A launch -/

/-- The next piece of work of a launch. -/
theorem launchNext (h : s.Sheltered) (horderly : s.Orderly low floor)
    (hwork : s.work? call = some (.launch name, .next)) : (s.launchNext call name).Sheltered := by
  have hshelters := h.shelters (horderly.othersQueued hwork fun heq => by contradiction) hwork
  unfold Station.launchNext
  split
  · exact hshelters.finishJob _
  · split
    · exact hshelters.finishJob _
    · split
      · rename_i link hlink
        have htaken := hshelters.removeLink
          (f := fun r => (r.removeLink name).setState name .reconfiguring) hlink rfl
        exact htaken.takeDown horderly.ground.tidy fun id hid => .inl (List.mem_singleton.mp hid)
      · exact (hshelters.sameLinks rfl).putJob fun _ hid => hid

/-- A launch goes on when the link was taken down. -/
theorem launchStopped (h : s.Sheltered) (horderly : s.Orderly low floor)
    (hwork : s.work? call = some (.launch name, .down link)) :
    (s.launchStopped call name).Sheltered := by
  have hshelters := h.shelters (horderly.othersQueued hwork fun heq => by contradiction) hwork
  unfold Station.launchStopped
  split
  · exact hshelters.finishJob _
  · exact (hshelters.sameLinks rfl).putJob fun _ hid => hid

/-- A launch goes on when the studio was launched or its launch failed. -/
theorem launchLaunched (h : s.Sheltered) (horderly : s.Orderly low floor)
    (hwork : s.work? call = some (.launch name, .up studio)) (fault : Option Fault) :
    (s.launchLaunched call name studio fault).Sheltered := by
  have hat := horderly.working hwork fun heq => by contradiction
  have hshelters := h.shelters (horderly.othersQueued hwork fun heq => by contradiction) hwork
  obtain ⟨rfl, -⟩ : studio.name = name ∧ studio.validate = .ok () :=
    horderly.plans call _ _ hwork
  cases fault with
  | none =>
    have habsent := hat.inLine.away studio.name List.mem_cons_self
    exact (hshelters.insertLink habsent).finishJob _
  | some fault => exact (hshelters.sameLinks rfl).finishJob _

/-! ## A shutdown -/

/-- The next piece of work of a shutdown. -/
theorem shutdownNext (h : s.Sheltered) (horderly : s.Orderly low floor)
    (hwork : s.work? call = some (.shutdown rest, .next)) :
    (s.shutdownNext call rest).Sheltered := by
  have hshelters := h.shelters (horderly.othersQueued hwork fun heq => by contradiction) hwork
  cases rest with
  | nil => exact (hshelters.sameLinks rfl).finishJob _
  | cons first rest =>
    exact (hshelters.sameLinks rfl).takeDown horderly.ground.tidy fun _ => List.mem_cons.mp

/-- A shutdown goes on when a link was taken down. -/
theorem shutdownStopped (h : s.Sheltered) (horderly : s.Orderly low floor)
    (hwork : s.work? call = some (.shutdown rest, .down link)) :
    (s.shutdownStopped call rest).Sheltered := by
  have hshelters := h.shelters (horderly.othersQueued hwork fun heq => by contradiction) hwork
  cases rest with
  | nil => exact hshelters.putJob fun _ hid => hid
  | cons first rest => exact (hshelters.sameLinks rfl).putJob fun _ hid => hid

/-! ## Every event -/

/-- A new call has nothing in hand. -/
theorem startJob (h : s.Sheltered) (hnew : s.IsNew call) (job : Job) :
    (s.startJob call job).Sheltered := by
  refine Sheltered.aside ?_ (aside_startJob s call job)
  intro id hid
  refine (h id hid).imp_right ?_
  rintro ⟨other, job', phase, hother, hmem⟩
  have hne : other ≠ call := by
    rintro rfl
    rw [work_of_new hnew] at hother
    contradiction
  refine ⟨other, job', phase, ?_, hmem⟩
  exact (work_putJob _ call job .queued other).trans ((if_neg hne).trans hother)

/-- A call whose turn it is sees what there is to do. -/
theorem beginJob (h : s.Sheltered) (hturns : s.InTurn) (hwork : s.work? call = some (job, .queued))
    (hturn : s.registry.turn.heldBy call = true) : (s.beginJob call job).Sheltered := by
  have hholder := Lock.holder_of_heldBy hturn
  have hshelters : Shelters call s [] :=
    h.shelters (fun _ _ _ hne hc => hturns.queued hholder hne hc) hwork
  cases job with
  | configure w => exact hshelters.putJob fun _ hid => hid
  | launch name => exact hshelters.putJob fun _ hid => hid
  | shutdown rest => exact hshelters.removeAll.putJob fun _ hid => hid

/-- Every event leaves every open pool with a link or in hand. -/
theorem advance (h : s.Sheltered) (horderly : s.Orderly low floor)
    (haccounted : s.Accounted callers) {event : StationEvent} (hadvance : Advance s event s') :
    s'.Sheltered := by
  cases hadvance with
  | aside haside => exact h.aside haside
  | starts hnew _ _ => exact h.startJob hnew _
  | begins hwork hturn => exact h.beginJob horderly.turns hwork hturn
  | @next call job hwork =>
    cases job with
    | configure w => exact h.configureNext horderly haccounted hwork
    | launch name => exact h.launchNext horderly hwork
    | shutdown rest => exact h.shutdownNext horderly hwork
  | @stopped call job link hwork =>
    cases job with
    | configure w => exact h.configureStopped horderly hwork
    | launch name => exact h.launchStopped horderly hwork
    | shutdown rest => exact h.shutdownStopped horderly hwork
  | @launched call job studio fault hwork =>
    cases job with
    | configure w => exact h.configureLaunched horderly hwork fault
    | launch name => exact h.launchLaunched horderly hwork fault
    | shutdown rest =>
      have hothers := horderly.othersQueued hwork fun heq => by contradiction
      exact (h.shelters hothers hwork).putJob fun _ hid => hid

/-! ## Every history -/

/-- A call that has no pool in hand may be over. -/
theorem finishJob (h : s.Sheltered)
    (hhands : ∀ job phase, s.work? call = some (job, phase) → job.pools phase = []) (a : Answer) :
    (s.finishJob call a).Sheltered := by
  have hgiven := aside_giveUpTurn s call
  intro id hid
  rw [HasLink, registry_finishJob]
  refine (h id (hgiven.opens id hid)).imp_right ?_
  rintro ⟨other, job, phase, hother, hmem⟩
  have hne : other ≠ call := by
    rintro rfl
    rw [hhands job phase hother] at hmem
    contradiction
  exact ⟨other, job, phase, (work_finishJob s call a other).trans ((if_neg hne).trans hother), hmem⟩

/-- A call with nothing in hand has no pool in hand. -/
theorem pools_of_emptyHanded (hempty : s.emptyHanded call = true)
    (hwork : s.work? call = some (job, phase)) : job.pools phase = [] := by
  obtain ⟨hphase, hhand, -⟩ := phase_of_emptyHanded hempty hwork
  rcases hphase with rfl | rfl
  · rfl
  · cases job with
    | configure w => rfl
    | launch name => rfl
    | shutdown rest =>
      obtain rfl : rest = [] := List.map_eq_nil_iff.mp hhand
      rfl

theorem giveUp (h : s.Sheltered) (htidy : s.Tidy) (hempty : s.emptyHanded call = true) :
    (s.cancel call).Sheltered := by
  cases hwork : s.work? call with
  | none => exact h.aside (aside_cancel htidy hwork)
  | some work =>
    obtain ⟨job, phase⟩ := work
    rw [cancel_eq_finishJob hempty hwork]
    exact h.finishJob (fun _ _ hwork' => pools_of_emptyHanded hempty hwork') _

end Sheltered

/-- Whatever happens, every open pool has a link or is in hand, as long as calls are given up with
nothing in hand. -/
theorem live_sheltered (h : s.Orderly low floor) (haccounted : s.Accounted callers)
    (hnoted : s.Noted) (hsheltered : s.Sheltered) {history : List StationHappening}
    (hempty : s.givesUpEmptyHanded history = true)
    (hcallers : ∀ id, ShutDownIn history id → callers id) : (s.live history).Sheltered := by
  induction history using List.reverseRecOn with
  | nil => exact hsheltered
  | append_singleton earlier last ih =>
    rw [givesUpEmptyHanded_append] at hempty
    obtain ⟨hbefore, hlast⟩ := Bool.and_eq_true_iff.mp hempty
    have hcallers' : ∀ id, ShutDownIn earlier id → callers id := by
      rintro id ⟨call, hmem⟩
      exact hcallers id ⟨call, List.mem_append_left _ hmem⟩
    obtain ⟨horderly, haccounted', -⟩ := live_accounted h haccounted hnoted hbefore hcallers'
    rw [live_append]
    cases last with
    | event event =>
      exact (ih hbefore hcallers').advance horderly haccounted'
        (advance_perform horderly.ground.tidy event)
    | giveUp call =>
      exact (ih hbefore hcallers').giveUp horderly.ground.tidy (Bool.and_eq_true_iff.mp hlast).1

end Station

end BroadcastLink
