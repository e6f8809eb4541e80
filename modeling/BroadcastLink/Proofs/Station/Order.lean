import BroadcastLink.Proofs.Station.Configuring

/-!
# The links stay in line

Whatever happens to a station, in whatever order, its links stay in line with their studios and the
calls that change them take turns: every event preserves that, and so does every run.
-/

namespace BroadcastLink.Station

variable {low floor : Nat} {s s' : Station} {call : CallId} {job : Job} {phase : JobPhase}
  {name : String} {studio : Studio} {link : Link}

/-- A call past being queued has the turn and is in the middle of its work. -/
theorem Orderly.working (h : s.Orderly low floor) (hwork : s.work? call = some (job, phase))
    (hphase : phase ≠ .queued) : AtWork low floor call s s (job.atHand phase) :=
  h.atWork (h.turns.alone call job phase hwork hphase) hwork

/-! ## Starting and beginning -/

/-- A queued call does not change what is in hand. -/
theorem atHand_of_start (h : s.InTurn) (hfresh : s.work? call = none)
    (hturn : s'.registry.turn = s.registry.turn.request call)
    (hothers : ∀ c, c ≠ call → s'.work? c = s.work? c)
    (hwork : s'.work? call = some (job, .queued)) : s'.atHand = s.atHand := by
  cases hholder : s.registry.turn.holder with
  | none =>
    -- Nobody is past being queued, and the new call is not either.
    have hqueued : ∀ c job phase, s.work? c = some (job, phase) → phase = .queued := by
      intro c other phase hc
      by_contra hpast
      have hheld := h.alone c other phase hc hpast
      rw [hholder] at hheld
      contradiction
    rw [atHand_of_queued hqueued]
    apply atHand_of_queued
    intro c other phase hc
    by_cases heq : c = call
    · rw [heq, hwork] at hc
      exact (Prod.mk.inj (Option.some.inj hc)).2.symm
    · rw [hothers c heq] at hc
      exact hqueued c other phase hc
  | some other =>
    have hworks := h.works hholder
    have hne : other ≠ call := fun heq => hworks (heq ▸ hfresh)
    have hstill : s'.registry.turn.holder = some other := by
      rw [hturn]
      exact Lock.holder_request hholder
    obtain ⟨⟨job', phase⟩, hjob⟩ := Option.ne_none_iff_exists'.mp hworks
    rw [atHand_of_holder hholder hjob, atHand_of_holder hstill ((hothers other hne).trans hjob)]

/-- A new call waits for its turn. -/
theorem Orderly.startJob (h : s.Orderly low floor) (hnew : s.IsNew call) (hfresh : job.IsFresh) :
    (s.startJob call job).Orderly low floor := by
  have haside := aside_startJob s call job
  let asked := s.onRegistry fun r => { r with turn := r.turn.request call }
  have hown : (asked.putJob call job .queued).work? call = some (job, .queued) :=
    (work_putJob asked call job .queued call).trans (if_pos rfl)
  have hothers : ∀ c, c ≠ call → (asked.putJob call job .queued).work? c = s.work? c :=
    fun c hne => (work_putJob asked call job .queued c).trans (if_neg hne)
  have hturns : (asked.putJob call job .queued).InTurn :=
    h.turns.start (work_of_new hnew) rfl hothers hown
  have hqueued : (asked.putJob call job .queued).Orderly low floor := by
    refine ⟨⟨h.ground.same rfl rfl, hturns, h.desired, h.since, h.fresh⟩, ?_, ?_⟩
    · rw [atHand_of_start h.turns (work_of_new hnew) rfl hothers hown]
      exact h.inLine.shrink (fun _ => rfl) (fun _ => rfl) rfl (fun _ _ hlink => hlink)
        h.inLine.live h.inLine.away
    · intro c other phase hc
      by_cases heq : c = call
      · rw [heq, hown] at hc
        obtain ⟨rfl, rfl⟩ := Prod.mk.inj (Option.some.inj hc)
        exact hfresh.inPlan floor _
      · rw [hothers c heq] at hc
        exact (h.plans c other phase hc).same rfl rfl
  exact hqueued.aside haside

/-- A call whose turn it is sees what there is to do. -/
theorem Orderly.beginJob (h : s.Orderly low floor) (hwork : s.work? call = some (job, .queued))
    (hturn : s.registry.turn.heldBy call = true) : (s.beginJob call job).Orderly low floor := by
  have hholder : s.registry.turn.holder = some call := by
    simpa [Lock.heldBy] using hturn
  have hat := h.atWork hholder hwork
  cases job with
  | configure w =>
    have hsound := (h.plans call _ .queued hwork).1
    exact hat.putJob rfl
      ⟨hsound, fun _ => ⟨Reconfiguration.progress_plan floor s.registry w.desired, trivial⟩⟩
  | launch name => exact hat.putJob rfl trivial
  | shutdown rest =>
    have hremoved := hat.removeAll
    exact hremoved.putJob rfl trivial

/-! ## Launching -/

/-- The next piece of work of a launch. -/
theorem Orderly.launchNext (h : s.Orderly low floor)
    (hwork : s.work? call = some (.launch name, .next)) :
    (s.launchNext call name).Orderly low floor := by
  have hat := h.working hwork fun heq => by contradiction
  unfold Station.launchNext
  split
  · exact hat.finishJob _
  · rename_i studio hdesired
    have hsound := Fleet.sound_of_validate h.desired hdesired
    split
    · exact hat.finishJob _
    · split
      · rename_i link hlink
        have htaken := hat.removeLink name .reconfiguring
        have hconfigured : s.registry.desired.get? name ≠ none := by
          rw [hdesired]
          exact Option.some_ne_none studio
        refine Orderly.aside ?_ (aside_takeDown htaken.ground.tidy call (.launch name) link)
        exact htaken.putJob rfl hconfigured
      · rename_i habsent
        have hstarting := (hat.takeAbsent habsent).setState (List.mem_singleton_self name) .starting
        exact hstarting.putJob rfl hsound

/-- A launch goes on when the link was taken down. -/
theorem Orderly.launchStopped (h : s.Orderly low floor)
    (hwork : s.work? call = some (.launch name, .down link)) :
    (s.launchStopped call name).Orderly low floor := by
  have hat := h.working hwork fun heq => by contradiction
  have hconfigured : s.registry.desired.get? name ≠ none := h.plans call _ _ hwork
  unfold Station.launchStopped
  split
  · rename_i hdesired
    exact absurd hdesired hconfigured
  · rename_i studio hdesired
    have hstarting := hat.setState (List.mem_singleton_self name) .starting
    exact hstarting.putJob rfl (Fleet.sound_of_validate h.desired hdesired)

/-- A launch goes on when the studio was launched or its launch failed. -/
theorem Orderly.launchLaunched (h : s.Orderly low floor)
    (hwork : s.work? call = some (.launch name, .up studio)) (fault : Option Fault) :
    (s.launchLaunched call name studio fault).Orderly low floor := by
  have hat := h.working hwork fun heq => by contradiction
  obtain ⟨rfl, hsound⟩ : studio.name = name ∧ studio.validate = .ok () := h.plans call _ _ hwork
  unfold Station.launchLaunched
  split
  · exact (AtWork.insertLink hat hsound).finishJob _
  · exact (AtWork.clearState hat).finishJob _

/-! ## Shutting down -/

/-- The next piece of work of a shutdown. -/
theorem Orderly.shutdownNext (h : s.Orderly low floor) {rest : List (String × Link)}
    (hwork : s.work? call = some (.shutdown rest, .next)) :
    (s.shutdownNext call rest).Orderly low floor := by
  have hat := h.working hwork fun heq => by contradiction
  cases rest with
  | nil =>
    have hline : (s.onRegistry fun r => { r with desired := {} }).InLine [] :=
      hat.inLine.shrink (fun _ => rfl) (fun _ => rfl) rfl (fun _ _ hlink => hlink) hat.inLine.live
        hat.inLine.away
    exact (hat.onRegistry hline rfl rfl rfl).finishJob _
  | cons first rest =>
    obtain ⟨name, link⟩ := first
    have htaken := hat.setState (List.mem_cons_self : name ∈ name :: rest.map (·.1)) .reconfiguring
    refine Orderly.aside ?_ (aside_takeDown htaken.ground.tidy call _ link)
    exact htaken.putJob rfl trivial

/-- A shutdown goes on when a link was taken down. -/
theorem Orderly.shutdownStopped (h : s.Orderly low floor) {rest : List (String × Link)}
    (hwork : s.work? call = some (.shutdown rest, .down link)) :
    (s.shutdownStopped call rest).Orderly low floor := by
  have hat := h.working hwork fun heq => by contradiction
  cases rest with
  | nil => exact hat.putJob rfl trivial
  | cons first rest => exact (AtWork.clearState hat).putJob rfl trivial

/-! ## Every event, every run -/

theorem Orderly.advance (h : s.Orderly low floor) {event : StationEvent}
    (hadvance : Advance s event s') : s'.Orderly low floor := by
  cases hadvance with
  | aside haside => exact h.aside haside
  | starts hnew hfresh _ => exact h.startJob hnew hfresh
  | begins hwork hturn => exact h.beginJob hwork hturn
  | @next call job hwork =>
    cases job with
    | configure w => exact h.configureNext hwork
    | launch name => exact h.launchNext hwork
    | shutdown rest => exact h.shutdownNext hwork
  | @stopped call job link hwork =>
    cases job with
    | configure w => exact (configureStopped_goesOn h hwork).orderly
    | launch name => exact h.launchStopped hwork
    | shutdown rest => exact h.shutdownStopped hwork
  | @launched call job studio fault hwork =>
    cases job with
    | configure w => exact (configureLaunched_goesOn h hwork fault).orderly
    | launch name => exact h.launchLaunched hwork fault
    | shutdown rest =>
      exact (h.working hwork fun heq => by contradiction).putJob rfl trivial

/-- Every event leaves a station in order. -/
theorem Orderly.perform (h : s.Orderly low floor) (event : StationEvent) :
    (s.perform event).Orderly low floor :=
  h.advance (advance_perform h.ground.tidy event)

/-- Every run leaves a station in order. -/
theorem Orderly.run (h : s.Orderly low floor) (events : List StationEvent) :
    (s.run events).Orderly low floor := by
  induction events generalizing s with
  | nil => exact h
  | cons event rest ih => exact ih (h.perform event)

end BroadcastLink.Station
