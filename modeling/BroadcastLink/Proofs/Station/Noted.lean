import BroadcastLink.Proofs.Station.Order

/-!
# Names in hand have a state

Whoever takes a name in hand notes where its studio stands, and clears the note or replaces it only
when the name is let go. So as long as a call has a name in hand, that studio has a state, and no
link.
-/

namespace BroadcastLink.Station

variable {low floor : Nat} {s s' : Station} {call : CallId} {job : Job} {phase : JobPhase}
  {stage : JobStage} {name : String} {studio : Studio} {link : Link} {w : Reconfiguration}
  {rest : List (String × Link)}

/-- A call's work on the links has names in hand, unless it is between two pieces of work, each of
them once and with a state. -/
structure JobNoted (s : Station) (job : Job) (phase : JobPhase) : Prop where
  something : phase ≠ .next → job.atHand phase ≠ []
  once : (job.atHand phase).Nodup
  states : ∀ name ∈ job.atHand phase, s.registry.states.get? name ≠ none

/-- The names in hand have states. -/
def Noted (s : Station) : Prop :=
  ∀ call job phase, s.work? call = some (job, phase) → phase ≠ .queued → s.JobNoted job phase

/-- Everybody but the given call is queued. -/
def OthersQueued (s : Station) (call : CallId) : Prop :=
  ∀ c job phase, c ≠ call → s.work? c = some (job, phase) → phase = .queued

/-- Between two pieces of work, a call may have nothing in hand. -/
theorem jobNoted_next (hhand : job.atHand .next = []) : s.JobNoted job .next := by
  refine ⟨fun hne => absurd rfl hne, ?_, fun name hmem => ?_⟩
  · rw [hhand]
    exact List.nodup_nil
  · rw [hhand] at hmem
    contradiction

/-- A name is in hand, and its state was just noted. -/
theorem jobNoted_of_state (hhand : job.atHand phase = [name])
    (hstate : s.registry.states.get? name ≠ none) : s.JobNoted job phase := by
  refine ⟨fun _ => ?_, ?_, ?_⟩
  · rw [hhand]
    exact List.cons_ne_nil _ _
  · rw [hhand]
    exact List.nodup_singleton name
  · intro other hother
    rw [hhand] at hother
    rw [List.mem_singleton.mp hother]
    exact hstate

theorem state_of_setState (r : Registry) (name : String) (state : StudioState) :
    (r.setState name state).states.get? name ≠ none := by
  rw [Registry.setState, Roster.get?_put, if_pos rfl]
  exact Option.some_ne_none state

namespace Noted

theorem aside (h : s.Noted) (haside : Aside s s') : s'.Noted := by
  intro c job phase hc hphase
  rw [haside.work] at hc
  have hnoted := h c job phase hc hphase
  refine ⟨hnoted.something, hnoted.once, ?_⟩
  rw [haside.registry]
  exact hnoted.states

/-- A piece of work ends with a wait. -/
theorem putJob (hothers : s.OthersQueued call) (hnoted : s.JobNoted job stage.phase) :
    (s.putJob call job stage).Noted := by
  intro c job' phase hc hphase
  rw [work_putJob] at hc
  split at hc
  · obtain ⟨rfl, rfl⟩ := Prod.mk.inj (Option.some.inj hc)
    exact ⟨hnoted.something, hnoted.once, hnoted.states⟩
  · rename_i hne
    exact absurd (hothers c job' phase hne hc) hphase

/-- A piece of work ends with the beginning of a drain. -/
theorem takeDown (htidy : s.Tidy) (hothers : s.OthersQueued call)
    (hnoted : s.JobNoted job (.down link)) : (s.takeDown call job link).Noted := by
  have hput : (s.putJob call job (.draining link)).Noted := putJob hothers hnoted
  exact hput.aside (aside_takeDown htidy call job link)

/-- A piece of work ends the call. -/
theorem finishJob (hothers : s.OthersQueued call) (a : Answer) : (s.finishJob call a).Noted := by
  intro c job phase hc hphase
  rw [work_finishJob] at hc
  split at hc
  · contradiction
  · rename_i hne
    exact absurd (hothers c job phase hne hc) hphase

end Noted

/-- What is done to the registry leaves the calls as they are. -/
theorem OthersQueued.onRegistry (h : s.OthersQueued call) (f : Registry → Registry) :
    (s.onRegistry f).OthersQueued call :=
  h

theorem OthersQueued.insertLink (h : s.OthersQueued call) (studio : Studio) :
    (s.insertLink studio).OthersQueued call := by
  intro c job phase hne hc
  rw [(aside_insertLink s studio).work] at hc
  exact h c job phase hne hc

/-! ## The pieces -/

namespace Orderly

/-- The call with the turn is at work, and everybody else is queued. -/
theorem othersQueued (h : s.Orderly low floor) (hwork : s.work? call = some (job, phase))
    (hphase : phase ≠ .queued) : s.OthersQueued call :=
  fun _ _ _ hne hc => h.turns.queued (h.turns.alone call job phase hwork hphase) hne hc

theorem noted_configureNext (h : s.Orderly low floor)
    (hwork : s.work? call = some (.configure w, .next)) : (s.configureNext call w).Noted := by
  have hothers := h.othersQueued hwork fun heq => by contradiction
  obtain ⟨hat, hsound, hprogress, -⟩ := h.configuring hwork fun heq => by contradiction
  have htidy := hat.ground.tidy
  cases hgone : w.gone with
  | cons first gone =>
    obtain ⟨name, link⟩ := first
    unfold Station.configureNext
    simp only [hgone]
    exact .takeDown htidy hothers (jobNoted_of_state (upNext_of_gone hgone)
      (state_of_setState s.registry name .reconfiguring))
  | nil =>
    cases hcoming : w.coming with
    | nil =>
      rw [configureNext_of_done s call hgone hcoming]
      exact .finishJob (hothers.onRegistry _) _
    | cons first coming =>
      obtain ⟨name, studio⟩ := first
      obtain ⟨hwanted, hsame⟩ := hprogress.coming name studio (hcoming ▸ List.mem_cons_self)
      have hname := (Fleet.sound_of_validate hsound hwanted).1
      have hnext := upNext_of_coming hgone hcoming
      unfold Station.configureNext
      simp only [hgone, hcoming]
      split
      · rename_i link hfound
        have hlink := (hsame List.not_mem_nil).trans hfound
        split
        · exact .putJob hothers (jobNoted_next rfl)
        · split
          · obtain ⟨p, hp⟩ := Option.ne_none_iff_exists'.mp
              (hat.inLine.linked name link hlink).pool_ne_none
            refine .putJob (fun c job phase hne hc => ?_) (jobNoted_next rfl)
            have hsame := (aside_resize htidy hp name studio).work c
            exact hothers c job phase hne (hsame.symm.trans hc)
          · exact .takeDown htidy hothers (jobNoted_of_state hnext
              (state_of_setState s.registry name .reconfiguring))
      · split
        · rw [← hname] at hnext
          exact .putJob hothers (jobNoted_of_state hnext
            (state_of_setState s.registry studio.name .starting))
        · exact .putJob (hothers.insertLink studio) (jobNoted_next rfl)

theorem noted_configureStopped (h : s.Orderly low floor)
    (hwork : s.work? call = some (.configure w, .down link)) :
    (s.configureStopped call w).Noted := by
  have hothers := h.othersQueued hwork fun heq => by contradiction
  unfold Station.configureStopped
  split
  · exact .putJob hothers (jobNoted_next rfl)
  · exact .putJob (hothers.insertLink _) (jobNoted_next rfl)
  · exact .putJob hothers (jobNoted_next rfl)

theorem noted_configureLaunched (h : s.Orderly low floor)
    (hwork : s.work? call = some (.configure w, .up studio)) (fault : Option Fault) :
    (s.configureLaunched call w studio fault).Noted := by
  have hothers := h.othersQueued hwork fun heq => by contradiction
  unfold Station.configureLaunched
  dsimp only
  split
  · exact .putJob (hothers.insertLink _) (jobNoted_next rfl)
  · exact .putJob hothers (jobNoted_next rfl)

theorem noted_launchNext (h : s.Orderly low floor)
    (hwork : s.work? call = some (.launch name, .next)) : (s.launchNext call name).Noted := by
  have hothers := h.othersQueued hwork fun heq => by contradiction
  unfold Station.launchNext
  split
  · exact .finishJob hothers _
  · split
    · exact .finishJob hothers _
    · split
      · exact .takeDown h.ground.tidy hothers (jobNoted_of_state rfl
          (state_of_setState (s.registry.removeLink name) name .reconfiguring))
      · exact .putJob hothers (jobNoted_of_state rfl
          (state_of_setState s.registry name .starting))

theorem noted_launchStopped (h : s.Orderly low floor)
    (hwork : s.work? call = some (.launch name, .down link)) :
    (s.launchStopped call name).Noted := by
  have hothers := h.othersQueued hwork fun heq => by contradiction
  unfold Station.launchStopped
  split
  · exact .finishJob hothers _
  · exact .putJob hothers (jobNoted_of_state rfl (state_of_setState s.registry name .starting))

theorem noted_launchLaunched (h : s.Orderly low floor)
    (hwork : s.work? call = some (.launch name, .up studio)) (fault : Option Fault) :
    (s.launchLaunched call name studio fault).Noted := by
  have hothers := h.othersQueued hwork fun heq => by contradiction
  unfold Station.launchLaunched
  split
  · exact .finishJob (hothers.insertLink studio) _
  · exact .finishJob (hothers.onRegistry _) _

theorem noted_shutdownNext (h : s.Orderly low floor) (hnoted : s.Noted)
    (hwork : s.work? call = some (.shutdown rest, .next)) : (s.shutdownNext call rest).Noted := by
  have hothers := h.othersQueued hwork fun heq => by contradiction
  have hown := hnoted call _ _ hwork fun heq => by contradiction
  cases rest with
  | nil => exact .finishJob (hothers.onRegistry _) _
  | cons first rest =>
    obtain ⟨name, link⟩ := first
    refine .takeDown h.ground.tidy hothers ⟨fun _ => List.cons_ne_nil _ _, hown.once, ?_⟩
    intro other hother
    show (s.registry.states.put name .reconfiguring).get? other ≠ none
    rw [Roster.get?_put]
    split
    · exact Option.some_ne_none _
    · exact hown.states other hother

theorem noted_shutdownStopped (h : s.Orderly low floor) (hnoted : s.Noted)
    (hwork : s.work? call = some (.shutdown rest, .down link)) :
    (s.shutdownStopped call rest).Noted := by
  have hothers := h.othersQueued hwork fun heq => by contradiction
  have hown := hnoted call _ _ hwork fun heq => by contradiction
  cases rest with
  | nil => exact .putJob hothers (jobNoted_next rfl)
  | cons first rest =>
    obtain ⟨name, link⟩ := first
    obtain ⟨hnew, honce⟩ := List.nodup_cons.mp hown.once
    refine .putJob hothers ⟨fun hne => absurd rfl hne, honce, ?_⟩
    intro other hother
    show (s.registry.states.erase name).get? other ≠ none
    rw [Roster.get?_erase, if_neg fun heq : other = name => hnew (heq ▸ hother)]
    exact hown.states other (List.mem_cons_of_mem _ hother)

theorem noted_beginJob (h : s.Orderly low floor) (hwork : s.work? call = some (job, .queued))
    (hturn : s.registry.turn.heldBy call = true) : (s.beginJob call job).Noted := by
  have hholder := Lock.holder_of_heldBy hturn
  have hothers : s.OthersQueued call := fun _ _ _ hne hc => h.turns.queued hholder hne hc
  cases job with
  | configure w => exact .putJob hothers (jobNoted_next rfl)
  | launch name => exact .putJob hothers (jobNoted_next rfl)
  | shutdown rest =>
    have hline := (h.atWork hholder hwork).inLine
    refine .putJob hothers ⟨fun hne => absurd rfl hne, ?_, ?_⟩
    · exact ((List.mergeSort_perm _ _).map _).nodup_iff.mpr s.registry.links.distinct
    · -- Every link that is taken out was live.
      intro name hname
      obtain ⟨⟨_, link⟩, hentry, rfl⟩ := List.mem_map.mp hname
      have hlink := Roster.mem_entries_iff.mp (List.mem_mergeSort.mp hentry)
      show s.registry.states.get? _ ≠ none
      rw [hline.live _ List.not_mem_nil, hlink]
      exact Option.some_ne_none _

end Orderly

/-! ## Every event -/

/-- A new call is queued. -/
theorem Noted.startJob (h : s.Noted) (call : CallId) (job : Job) :
    (s.startJob call job).Noted := by
  refine Noted.aside ?_ (aside_startJob s call job)
  intro c job' phase hc hphase
  rw [work_putJob] at hc
  split at hc
  · obtain ⟨-, rfl⟩ := Prod.mk.inj (Option.some.inj hc)
    exact absurd rfl hphase
  · have hnoted := h c job' phase hc hphase
    exact ⟨hnoted.something, hnoted.once, hnoted.states⟩

/-- Every event leaves the names in hand with a state. -/
theorem Noted.advance (h : s.Noted) (horderly : s.Orderly low floor) {event : StationEvent}
    (hadvance : Advance s event s') : s'.Noted := by
  cases hadvance with
  | aside haside => exact h.aside haside
  | starts _ _ _ => exact h.startJob _ _
  | begins hwork hturn => exact horderly.noted_beginJob hwork hturn
  | @next call job hwork =>
    cases job with
    | configure w => exact horderly.noted_configureNext hwork
    | launch name => exact horderly.noted_launchNext hwork
    | shutdown rest => exact horderly.noted_shutdownNext h hwork
  | @stopped call job link hwork =>
    cases job with
    | configure w => exact horderly.noted_configureStopped hwork
    | launch name => exact horderly.noted_launchStopped hwork
    | shutdown rest => exact horderly.noted_shutdownStopped h hwork
  | @launched call job studio fault hwork =>
    cases job with
    | configure w => exact horderly.noted_configureLaunched hwork fault
    | launch name => exact horderly.noted_launchLaunched hwork fault
    | shutdown rest =>
      have hown := h call _ _ hwork fun heq => by contradiction
      exact .putJob (horderly.othersQueued hwork fun heq => by contradiction)
        ⟨fun hne => absurd rfl hne, hown.once, hown.states⟩

end BroadcastLink.Station
