import BroadcastLink.Proofs.Station.Orphans
import BroadcastLink.Proofs.Station.Pairing

/-!
# One link after another

A call that takes a link down has closed its pool, and one that launches a studio has found the
pools of that studio drained. Every deed keeps to that, since whoever is not at work waits for the
turn; so does every event, as long as callers drain no pool and shut no channel down. The channel of
a link is shut down when no drain goes on any more: one that did would be that of another call which
has the turn.
-/

namespace BroadcastLink.Station

variable {asked : ChannelId → Prop} {low floor : Nat} {s s' : Station} {call : CallId}
  {job : Job} {phase : JobPhase} {stage : JobStage} {name : String} {link : Link}
  {event : StationEvent}

/-! ## What the calls on the links are committed to -/

/-- The links that there are and those in hand have a pool and a channel of one number. A call takes
down links whose pools are closed, and launches studios whose pools are drained. -/
structure Committed (s : Station) : Prop where
  paired : ∀ call link, s.Finds call link → link.channel = link.pool
  closed : ∀ call job link, s.work? call = some (job, .down link) →
    ∀ p, s.pools.get? link.pool = some p → p.isClosed = true
  vacated : ∀ call job studio, s.work? call = some (job, .up studio) → s.IsVacated studio.name

/-- Calls that do the work they did, or wait for their turn, stay committed. -/
theorem Committed.carry (h : s.Committed) (hcarries : Carries asked s s')
    (hlinks : s'.registry.links = s.registry.links)
    (hwork : ∀ c job phase, s'.work? c = some (job, phase) →
      phase = .queued ∨ s.work? c = some (job, phase)) : s'.Committed := by
  refine ⟨?_, ?_, ?_⟩
  · rintro c link (⟨name, hlink⟩ | ⟨job, phase, hc, hmem⟩)
    · rw [hlinks] at hlink
      exact h.paired c link (.inl ⟨name, hlink⟩)
    · rcases hwork c job phase hc with rfl | hbefore
      · contradiction
      · exact h.paired c link (.inr ⟨job, phase, hbefore, hmem⟩)
  · intro c job link hc q hq
    obtain ⟨p, hp, hfares⟩ := hcarries.pool_before hq
    rcases hwork c job _ hc with heq | hbefore
    · contradiction
    · exact hfares.closed (h.closed c job link hbefore p hp)
  · intro c job studio hc
    rcases hwork c job _ hc with heq | hbefore
    · contradiction
    · exact hcarries.isVacated (h.vacated c job studio hbefore)

/-- While everybody else waits for the turn, only what the call at work is committed to matters. -/
theorem committed_of_own (call : CallId)
    (hqueued : ∀ c job phase, c ≠ call → s.work? c = some (job, phase) → phase = .queued)
    (hlinks : ∀ name link, s.registry.links.get? name = some link → link.channel = link.pool)
    (htaken : ∀ job phase, s.work? call = some (job, phase) →
      ∀ link ∈ job.taken phase, link.channel = link.pool)
    (hdown : ∀ job link, s.work? call = some (job, .down link) →
      ∀ p, s.pools.get? link.pool = some p → p.isClosed = true)
    (hup : ∀ job studio, s.work? call = some (job, .up studio) → s.IsVacated studio.name) :
    s.Committed := by
  refine ⟨?_, ?_, ?_⟩
  · rintro c link (⟨name, hlink⟩ | ⟨job, phase, hc, hmem⟩)
    · exact hlinks name link hlink
    · by_cases heq : c = call
      · exact htaken job phase (heq ▸ hc) link hmem
      · rw [hqueued c job phase heq hc] at hmem
        contradiction
  · intro c job link hc
    by_cases heq : c = call
    · exact hdown job link (heq ▸ hc)
    · have hphase := hqueued c job _ heq hc
      contradiction
  · intro c job studio hc
    by_cases heq : c = call
    · exact hup job studio (heq ▸ hc)
    · have hphase := hqueued c job _ heq hc
      contradiction

theorem work_insertLink (s : Station) (studio : Studio) (c : CallId) :
    (s.insertLink studio).work? c = s.work? c :=
  (aside_insertLink s studio).work c

theorem paired_insertLink (h : s.Committed) (hmatched : s.Matched) (studio : Studio) :
    ∀ name link, (s.insertLink studio).registry.links.get? name = some link →
      link.channel = link.pool := by
  intro name link hlink
  obtain ⟨-, -, hregistry⟩ := pools_insertLink s studio
  rw [hregistry, links_withLink] at hlink
  split at hlink
  · obtain rfl := Option.some.inj hlink
    exact hmatched.count.symm
  · exact h.paired 0 link (.inl ⟨name, hlink⟩)

/-- A call that has come to an end is committed to nothing. -/
theorem committed_finishJob
    (hqueued : ∀ c job phase, c ≠ call → s.work? c = some (job, phase) → phase = .queued)
    (hlinks : ∀ name link, s.registry.links.get? name = some link → link.channel = link.pool)
    (a : Answer) : (s.finishJob call a).Committed := by
  have hover : (s.finishJob call a).work? call = none :=
    (work_finishJob s call a call).trans (if_pos rfl)
  refine committed_of_own call (fun c job phase hne hc => ?_) ?_ ?_ ?_ ?_
  · rw [work_finishJob, if_neg hne] at hc
    exact hqueued c job phase hne hc
  · rw [registry_finishJob]
    exact hlinks
  all_goals
    intro job other hc
    rw [hover] at hc
    contradiction

/-- A call that goes on with its work is committed to what it has in hand. -/
theorem committed_putJob
    (hqueued : ∀ c job phase, c ≠ call → s.work? c = some (job, phase) → phase = .queued)
    (hlinks : ∀ name link, s.registry.links.get? name = some link → link.channel = link.pool)
    (htaken : ∀ link ∈ job.taken stage.phase, link.channel = link.pool)
    (hstage : stage = .next ∨ ∃ studio, stage = .launching studio ∧ s.IsVacated studio.name) :
    (s.putJob call job stage).Committed := by
  have hown : (s.putJob call job stage).work? call = some (job, stage.phase) :=
    (work_putJob s call job stage call).trans (if_pos rfl)
  refine committed_of_own call (fun c job' phase hne hc => ?_) hlinks ?_ ?_ ?_
  · rw [work_putJob, if_neg hne] at hc
    exact hqueued c job' phase hne hc
  · intro job' phase hc
    rw [hown] at hc
    obtain ⟨rfl, rfl⟩ := Prod.mk.inj (Option.some.inj hc)
    exact htaken
  · intro job' other hc
    rw [hown] at hc
    have hphase := (Prod.mk.inj (Option.some.inj hc)).2
    rcases hstage with rfl | ⟨studio, rfl, -⟩ <;> contradiction
  · intro job' other hc
    rw [hown] at hc
    have hphase := (Prod.mk.inj (Option.some.inj hc)).2
    rcases hstage with rfl | ⟨studio, rfl, hvacated⟩
    · contradiction
    · obtain rfl := JobPhase.up.inj hphase
      exact hvacated

/-- A call that begins to take a link down is committed to it, and closes its pool. -/
theorem committed_takeDown (htidy : s.Tidy)
    (hqueued : ∀ c job phase, c ≠ call → s.work? c = some (job, phase) → phase = .queued)
    (hlinks : ∀ name link, s.registry.links.get? name = some link → link.channel = link.pool)
    (htaken : ∀ other ∈ job.taken (.down link), other.channel = other.pool)
    (hcloses : Closes link.pool s (s.takeDown call job link)) :
    (s.takeDown call job link).Committed := by
  have haside := aside_takeDown htidy call job link
  have hown : (s.takeDown call job link).work? call = some (job, .down link) :=
    (haside.work call).trans ((work_putJob s call job _ call).trans (if_pos rfl))
  refine committed_of_own call (fun c job' phase hne hc => ?_) ?_ ?_ ?_ ?_
  · rw [haside.work, work_putJob, if_neg hne] at hc
    exact hqueued c job' phase hne hc
  · rw [haside.registry]
    exact hlinks
  · intro job' phase hc
    rw [hown] at hc
    obtain ⟨rfl, rfl⟩ := Prod.mk.inj (Option.some.inj hc)
    exact htaken
  · intro job' other hc
    rw [hown] at hc
    obtain ⟨rfl, hphase⟩ := Prod.mk.inj (Option.some.inj hc)
    obtain rfl := JobPhase.down.inj hphase
    exact hcloses.closed
  · intro job' studio hc
    rw [hown] at hc
    have hphase := (Prod.mk.inj (Option.some.inj hc)).2
    contradiction

/-- Everybody but the call at work waits for the turn, so after a deed of that call everybody is
committed. -/
theorem Committed.deed (h : s.Committed) (hmatched : s.Matched) (hhoused : s.Housed)
    (hground : s.Ground) (hqueued : ∀ c job phase, c ≠ call → s.work? c = some (job, phase) →
      phase = .queued) (hwork : s.work? call ≠ none)
    (hcall : ∀ job link, s.calls.get? call ≠ some (.reconciling job (.draining link)))
    (hdeed : Deed call s s') : s'.Committed := by
  have hlinks : ∀ name link, s.registry.links.get? name = some link → link.channel = link.pool :=
    fun name link hlink => h.paired call link (.inl ⟨name, hlink⟩)
  have hinserted (studio : Studio) (c : CallId) (job : Job) (phase : JobPhase) (hne : c ≠ call)
      (hc : (s.insertLink studio).work? c = some (job, phase)) : phase = .queued :=
    hqueued c job phase hne ((work_insertLink s studio c).symm.trans hc)
  cases hdeed with
  | @goesOn f job stage hremoves hfinds hstage =>
    refine committed_putJob hqueued (fun name link hlink => hlinks name link (hremoves _ _ hlink))
      (fun link hmem => h.paired call link (hfinds link hmem)) ?_
    rcases hstage with hnext | ⟨studio, hlaunching, hunserved⟩
    · exact .inl hnext
    · exact .inr ⟨studio, hlaunching, hmatched.isVacated hunserved⟩
  | @ends f a hremoves =>
    exact committed_finishJob (s := s.onRegistry f) hqueued
      (fun name link hlink => hlinks name link (hremoves _ _ hlink)) a
  | @takesDown f job link hremoves hfinds =>
    have hcalm := calm_onRegistry hhoused f
    exact committed_takeDown hground.tidy hqueued
      (fun name link hlink => hlinks name link (hremoves _ _ hlink))
      (fun other hmem => h.paired call other (hfinds other hmem))
      (closes_takeDown hcalm.housed hwork hcall job link)
  | @inserts studio w hunserved =>
    exact committed_putJob (hinserted studio) (paired_insertLink h hmatched studio)
      (fun _ hmem => by contradiction) (.inl rfl)
  | @insertsLast studio a hunserved =>
    exact committed_finishJob (hinserted studio) (paired_insertLink h hmatched studio) a
  | @resizes name link studio min max w hlink =>
    let noted := s.onRegistry (·.setState name .reconfiguring)
    have hresized : (noted.onPool link.pool (·.resize min max s.now)).registry = noted.registry ∧
        ∀ c, (noted.onPool link.pool (·.resize min max s.now)).work? c = s.work? c := by
      cases hp : s.pools.get? link.pool with
      | none =>
        have hsame : noted.onPool link.pool (·.resize min max s.now) = noted := by
          rw [onPool, show noted.pools.get? link.pool = none from hp]
        rw [hsame]
        exact ⟨rfl, fun _ => rfl⟩
      | some p =>
        have haside := aside_resizePool (s := noted) hground.tidy hp min max
        exact ⟨haside.registry, haside.work⟩
    refine committed_putJob (fun c job phase hne hc => ?_) (fun other found hfound => ?_)
      (fun _ hmem => by contradiction) (.inl rfl)
    · exact hqueued c job phase hne ((hresized.2 c).symm.trans hc)
    · replace hfound : ((noted.onPool link.pool (·.resize min max s.now)).registry.links.put name
        { link with studio := studio }).get? other = some found := hfound
      rw [hresized.1, Roster.get?_put] at hfound
      split at hfound
      · obtain rfl := Option.some.inj hfound
        exact hlinks name link hlink
      · exact hlinks other found hfound

/-! ## Every event -/

/-- The links of a station follow one another: each is taken down before the next one for its studio
comes up. -/
structure InSuccession (s : Station) : Prop where
  orderly : s.Orderly 0 0
  accounted : s.Accounted Nobody
  housed : s.Housed
  matched : s.Matched
  committed : s.Committed

namespace InSuccession

theorem deed (h : s.InSuccession) (hholder : s.registry.turn.holder = some call)
    (hcall : s.calls.get? call = some (.reconciling job stage))
    (hstage : ∀ link, stage ≠ .draining link) (hdeed : Deed call s s') (htends : Tends s s') :
    s'.Matched ∧ s'.Committed := by
  have hground := h.orderly.ground
  refine ⟨h.matched.deed hground hdeed htends, h.committed.deed h.matched h.housed hground
    (fun c job phase hne hc => h.orderly.turns.queued hholder hne hc) ?_
    (not_draining_of_calls hcall fun _ link heq => ?_) hdeed⟩
  · rw [work_of_calls hcall]
    exact Option.some_ne_none _
  · exact hstage link (Activity.reconciling.inj heq).2

/-- The channel of a link is shut down when the pool of that link is drained. -/
theorem isDrained_of_drained (h : s.InSuccession)
    (hcall : s.calls.get? call = some (.reconciling job (.drained link))) :
    s.IsDrained link.channel := by
  have hwork := work_of_calls hcall
  have hpast : JobPhase.down link ≠ .queued := fun heq => by contradiction
  have hhand : link ∈ job.taken (.down link) := by cases job <;> exact List.mem_cons_self
  rw [h.committed.paired call link (.inr ⟨job, .down link, hwork, hhand⟩)]
  intro p hp
  refine ⟨h.committed.closed call job link hwork p hp, ?_⟩
  -- A drain that goes on would be that of the call with the turn, which waits for none.
  by_contra hne
  obtain ⟨d, hd⟩ := Option.ne_none_iff_exists'.mp hne
  obtain ⟨job', link', hcall', -⟩ := h.housed.drains link.pool p d hp hd
  have hholder := h.orderly.turns.alone call job _ hwork hpast
  have hholder' := h.orderly.turns.alone d.call job' _ (work_of_calls hcall')
    fun heq => by contradiction
  rw [Option.some.inj (hholder'.symm.trans hholder), hcall] at hcall'
  have hstages := (Activity.reconciling.inj (Option.some.inj hcall')).2
  contradiction

/-- Every event keeps the links in succession, unless callers drain a pool or shut a channel
down. -/
theorem perform (h : s.InSuccession) (hcloses : event.closes = false) :
    (s.perform event).InSuccession := by
  have htends := tends_perform h.housed h.orderly h.accounted hcloses
  have hnobody : ∀ id ∈ event.shutDown?, Nobody id := by
    intro id hid
    rw [StationEvent.shutDown_of_not_closes hcloses] at hid
    contradiction
  have hpiece := piece_perform h.orderly.ground.tidy h.accounted.quiet event hnobody
  obtain ⟨hmatched, hcommitted⟩ : (s.perform event).Matched ∧ (s.perform event).Committed := by
    have halone {call : CallId} {job : Job} {stage : JobStage}
        (hcall : s.calls.get? call = some (.reconciling job stage))
        (hphase : stage.phase ≠ .queued) : s.registry.turn.holder = some call :=
      h.orderly.turns.alone call job _ (work_of_calls hcall) hphase
    generalize s.perform event = s' at hpiece htends ⊢
    cases hpiece with
    | waits haside honward =>
      have hcarries : Carries Nobody s s' := ⟨htends, stays_of_aside haside honward⟩
      refine ⟨h.matched.carry hcarries fun _ hcalled => hcalled.elim,
        h.committed.carry hcarries (congrArg Registry.links haside.registry) ?_⟩
      intro c job phase hc
      exact .inr ((haside.work c).symm.trans hc)
    | @starts call job hnew hfresh =>
      have hstarted := aside_startJob s call job
      have hstays : Stays Nobody s (s.startJob call job) :=
        (stays_of_aside hstarted (onward_wake _ _)).along rfl rfl rfl rfl
      have hlinks : (s.startJob call job).registry.links = s.registry.links := by
        rw [hstarted.registry]
        rfl
      refine ⟨h.matched.carry ⟨htends, hstays⟩ fun _ hcalled => hcalled.elim,
        h.committed.carry ⟨htends, hstays⟩ hlinks ?_⟩
      intro c job' phase hc
      rw [hstarted.work, work_putJob] at hc
      split at hc
      · exact .inl (Prod.mk.inj (Option.some.inj hc)).2.symm
      · exact .inr hc
    | begins hcall hturn =>
      exact h.deed (Lock.holder_of_heldBy hturn) hcall (fun _ heq => by contradiction)
        (deed_beginJob s _ _) htends
    | next hcall =>
      exact h.deed (halone hcall fun heq => by contradiction) hcall
        (fun _ heq => by contradiction) (deed_jobNext h.accounted h.orderly hcall) htends
    | @stops call job link hcall =>
      have hstopped : Aside (s.putJob call job (.stopping link)) (s.stopLink call job link) :=
        aside_onChannel _ fun c _ => Channel.target_shutdown c call
      have honward := h.accounted.onward_stopLink h.orderly hcall
      have hstays : Stays (· = link.channel) s (s.stopLink call job link) :=
        (stays_of_aside hstopped honward).along rfl rfl rfl rfl
      refine ⟨h.matched.carry ⟨htends, hstays⟩ ?_,
        h.committed.carry ⟨htends, hstays⟩ (congrArg Registry.links hstopped.registry) ?_⟩
      · rintro id rfl
        exact h.isDrained_of_drained hcall
      · intro c job' phase hc
        rw [hstopped.work, work_putJob] at hc
        split at hc
        · rename_i heq
          refine .inr ?_
          rw [heq, work_of_calls hcall]
          exact hc
        · exact .inr hc
    | stopped hcall =>
      exact h.deed (halone hcall fun heq => by contradiction) hcall
        (fun _ heq => by contradiction) (deed_jobStopped h.accounted h.orderly hcall) htends
    | launched hcall =>
      exact h.deed (halone hcall fun heq => by contradiction) hcall
        (fun _ heq => by contradiction) (deed_jobLaunched h.accounted h.orderly hcall) htends
  exact ⟨h.orderly.perform event, h.accounted.perform h.orderly event hnobody, htends.housed,
    hmatched, hcommitted⟩

end InSuccession

end BroadcastLink.Station
