import BroadcastLink.Proofs.Station.Holdings
import BroadcastLink.Proofs.Station.Pieces

/-!
# Every running channel is accounted for

Each piece of work leaves every running channel with a link or in the hands of the call at work: a
configuration, a launch or a shutdown holds the channel of each link it takes out, stops it, and
lets go of it once it has ended. So does every event.
-/

namespace BroadcastLink

variable {links : Roster String Link} {hand : List String} {name : String} {link : Link}
  {w : Reconfiguration} {gone : List (String × Link)}

namespace Reconfiguration.Finds

/-- With nothing left to remove there is nothing to be found. -/
theorem of_gone (h : w.gone = []) (links : Roster String Link) (hand : List String) :
    w.Finds links hand := by
  intro name link hmem
  rw [h] at hmem
  contradiction

/-- The link that is next is taken out. -/
theorem take (h : w.Finds links []) (name : String) : w.Finds (links.erase name) [name] := by
  intro other link hmem hhand
  have hne : other ≠ name := fun heq => hhand (heq ▸ List.mem_cons_self)
  rw [Roster.get?_erase, if_neg hne]
  exact h other link hmem List.not_mem_nil

/-- The link that was next is done with. -/
theorem drop (h : w.Finds links [name]) (hgone : w.gone = (name, link) :: gone)
    (hnodup : (w.gone.map (·.1)).Nodup) (summary : Summary) :
    { w with gone := gone, summary := summary }.Finds links [] := by
  intro other found hmem _
  rw [hgone, List.map_cons, List.nodup_cons] at hnodup
  refine h other found (hgone ▸ List.mem_cons_of_mem _ hmem) fun hhand => ?_
  rw [List.mem_singleton.mp hhand] at hmem
  exact hnodup.1 (List.mem_map.mpr ⟨(name, found), hmem, rfl⟩)

/-- A configuration finds the links that are there when it begins. -/
theorem plan (r : Registry) (desired : Fleet) : (r.plan desired).Finds r.links [] := by
  intro name link hmem _
  have hentry := List.mem_mergeSort.mp (List.mem_filter.mp hmem).1
  exact Roster.mem_entries_iff.mp hentry

end Reconfiguration.Finds

namespace Station

variable {callers : ChannelId → Prop} {low floor : Nat} {s s' : Station} {call : CallId}
  {job : Job} {stage : JobStage} {studio : Studio} {fault : Option Fault}

/-- No link is removed twice. -/
theorem nodup_gone {hands : List String} {links : Roster String Link}
    (h : w.Progress floor links hands) : (w.gone.map (·.1)).Nodup := by
  have hunwanted := Registry.nodup_unwanted w.current w.desired
  rw [← h.removed] at hunwanted
  exact (List.nodup_append.mp hunwanted).2.1

namespace Accounted

/-! ## A configuration -/

/-- A configuration deals with a studio that has a link. -/
theorem configureFound {coming : List (String × Studio)} (h : s.Accounted callers)
    (horderly : s.Orderly low floor)
    (hcall : s.calls.get? call = some (.reconciling (.configure w) .next)) (hgone : w.gone = [])
    (hcoming : w.coming = (name, studio) :: coming) (hfound : w.current.get? name = some link) :
    (s.configureNext call w).Accounted callers := by
  obtain ⟨hat, -, hprogress, -⟩ :=
    horderly.configuring (work_of_calls hcall) fun heq => by contradiction
  have hholds : Holds callers call s [] := h.holds hat.turns hat.holder hcall rfl
  have hsame := (hprogress.coming name studio (hcoming ▸ List.mem_cons_self)).2
  have hlink : s.registry.links.get? name = some link := (hsame List.not_mem_nil).trans hfound
  obtain ⟨desired, current, gone, upcoming, summary⟩ := w
  obtain rfl : gone = [] := hgone
  obtain rfl : upcoming = (name, studio) :: coming := hcoming
  replace hfound : current.get? name = some link := hfound
  simp only [configureNext, hfound]
  split
  · exact hholds.putJob rfl (fun _ hid => hid) (.of_gone rfl _ _)
  · split
    · obtain ⟨p, hp⟩ := Option.ne_none_iff_exists'.mp
        (hat.inLine.linked name link hlink).pool_ne_none
      exact (hholds.resize hat.ground.tidy hlink hp studio).putJob rfl (fun _ hid => hid)
        (.of_gone rfl _ _)
    · have htaken := hholds.removeLink
        (f := fun r => (r.setState name .reconfiguring).removeLink name) hlink rfl
      exact htaken.takeDown hat.ground.tidy (fun _ hid => hid) (.of_gone rfl _ _)

/-- The next piece of work of a configuration. -/
theorem configureNext (h : s.Accounted callers) (horderly : s.Orderly low floor)
    (hcall : s.calls.get? call = some (.reconciling (.configure w) .next)) :
    (s.configureNext call w).Accounted callers := by
  obtain ⟨hat, hsound, hprogress, -⟩ :=
    horderly.configuring (work_of_calls hcall) fun heq => by contradiction
  have hholds : Holds callers call s [] := h.holds hat.turns hat.holder hcall rfl
  have hfinds : w.Finds s.registry.links [] :=
    h.found call (.configure w) .next (work_of_calls hcall) fun heq => by contradiction
  cases hgone : w.gone with
  | cons first gone =>
    obtain ⟨name, link⟩ := first
    have hlink := hfinds name link (hgone ▸ List.mem_cons_self) List.not_mem_nil
    have htaken := hholds.removeLink
      (f := fun r => (r.setState name .reconfiguring).removeLink name) hlink rfl
    unfold Station.configureNext
    simp only [hgone]
    refine htaken.takeDown hat.ground.tidy (fun _ hid => hid) ?_
    show w.Finds (s.registry.links.erase name) w.upNext
    rw [upNext_of_gone hgone]
    exact hfinds.take name
  | nil =>
    cases hcoming : w.coming with
    | nil =>
      rw [configureNext_of_done s call hgone hcoming]
      exact (hholds.sameLinks rfl).finishJob _
    | cons first coming =>
      obtain ⟨name, studio⟩ := first
      cases hfound : w.current.get? name with
      | some link => exact h.configureFound horderly hcall hgone hcoming hfound
      | none =>
        obtain ⟨hwanted, hsame⟩ := hprogress.coming name studio (hcoming ▸ List.mem_cons_self)
        obtain ⟨rfl, -⟩ := Fleet.sound_of_validate hsound hwanted
        have habsent := (hsame List.not_mem_nil).trans hfound
        unfold Station.configureNext
        simp only [hgone, hcoming, hfound]
        split
        · exact (hholds.sameLinks rfl).putJob rfl (fun _ hid => hid)
            (.of_gone hgone _ _)
        · exact (hholds.insertLink hat.ground habsent).putJob rfl (fun _ hid => hid)
            (.of_gone rfl _ _)

/-- A configuration goes on when a link was taken down. -/
theorem configureStopped (h : s.Accounted callers) (horderly : s.Orderly low floor)
    (hcall : s.calls.get? call = some (.reconciling (.configure w) (.stopped link))) :
    (s.configureStopped call w).Accounted callers := by
  obtain ⟨hat, hsound, hprogress, -⟩ :=
    horderly.configuring (work_of_calls hcall) fun heq => by contradiction
  have hholds : Holds callers call s [] := h.holds_stopped hat.turns hcall
  have hfinds : w.Finds s.registry.links w.upNext :=
    h.found call (.configure w) (.down link) (work_of_calls hcall) fun heq => by contradiction
  replace hat : AtWork low floor call s s w.upNext := hat
  unfold Station.configureStopped
  cases hgone : w.gone with
  | cons first gone =>
    obtain ⟨name, found⟩ := first
    rw [upNext_of_gone hgone] at hfinds
    exact (hholds.sameLinks rfl).putJob rfl (fun _ hid => hid)
      (hfinds.drop hgone (nodup_gone hprogress) _)
  | nil =>
    cases hcoming : w.coming with
    | nil =>
      refine hholds.putJob rfl (fun _ hid => hid) ?_
      exact .of_gone hgone _ _
    | cons first coming =>
      obtain ⟨name, studio⟩ := first
      obtain ⟨hwanted, -⟩ := hprogress.coming name studio (hcoming ▸ List.mem_cons_self)
      obtain ⟨rfl, -⟩ := Fleet.sound_of_validate hsound hwanted
      rw [upNext_of_coming hgone hcoming] at hat
      have habsent := hat.inLine.away studio.name List.mem_cons_self
      exact (hholds.insertLink hat.ground habsent).putJob rfl (fun _ hid => hid) (.of_gone rfl _ _)

/-- A configuration goes on when a studio was launched or its launch failed. -/
theorem configureLaunched (h : s.Accounted callers) (horderly : s.Orderly low floor)
    (hcall : s.calls.get? call = some (.reconciling (.configure w) (.launched studio fault))) :
    (s.configureLaunched call w studio fault).Accounted callers := by
  obtain ⟨hat, -, -, hgone, -, coming, hcoming⟩ :=
    horderly.configuring (work_of_calls hcall) fun heq => by contradiction
  have hholds : Holds callers call s [] := h.holds hat.turns hat.holder hcall rfl
  replace hat : AtWork low floor call s s w.upNext := hat
  rw [upNext_of_coming hgone hcoming] at hat
  have habsent := hat.inLine.away studio.name List.mem_cons_self
  unfold Station.configureLaunched
  dsimp only
  split
  · exact (hholds.insertLink hat.ground habsent).putJob rfl (fun _ hid => hid)
      (.of_gone hgone _ _)
  · exact (hholds.sameLinks rfl).putJob rfl (fun _ hid => hid)
      (.of_gone hgone _ _)

/-! ## A launch -/

/-- The next piece of work of a launch. -/
theorem launchNext (h : s.Accounted callers) (horderly : s.Orderly low floor)
    (hcall : s.calls.get? call = some (.reconciling (.launch name) .next)) :
    (s.launchNext call name).Accounted callers := by
  have hat := horderly.working (work_of_calls hcall) fun heq => by contradiction
  have hholds : Holds callers call s [] := h.holds hat.turns hat.holder hcall rfl
  unfold Station.launchNext
  split
  · exact hholds.finishJob _
  · split
    · exact hholds.finishJob _
    · split
      · rename_i link hlink
        have htaken := hholds.removeLink
          (f := fun r => (r.removeLink name).setState name .reconfiguring) hlink rfl
        exact htaken.takeDown hat.ground.tidy (fun _ hid => hid) trivial
      · exact (hholds.sameLinks rfl).putJob rfl (fun _ hid => hid) trivial

/-- A launch goes on when the link was taken down. -/
theorem launchStopped (h : s.Accounted callers) (horderly : s.Orderly low floor)
    (hcall : s.calls.get? call = some (.reconciling (.launch name) (.stopped link))) :
    (s.launchStopped call name).Accounted callers := by
  have hholds : Holds callers call s [] := h.holds_stopped horderly.turns hcall
  unfold Station.launchStopped
  split
  · exact hholds.finishJob _
  · exact (hholds.sameLinks rfl).putJob rfl (fun _ hid => hid) trivial

/-- A launch goes on when the studio was launched or its launch failed. -/
theorem launchLaunched (h : s.Accounted callers) (horderly : s.Orderly low floor)
    (hcall : s.calls.get? call = some (.reconciling (.launch name) (.launched studio fault))) :
    (s.launchLaunched call name studio fault).Accounted callers := by
  have hat := horderly.working (work_of_calls hcall) fun heq => by contradiction
  have hholds : Holds callers call s [] := h.holds hat.turns hat.holder hcall rfl
  obtain ⟨rfl, -⟩ : studio.name = name ∧ studio.validate = .ok () :=
    horderly.plans call _ _ (work_of_calls hcall)
  unfold Station.launchLaunched
  split
  · have habsent := hat.inLine.away studio.name List.mem_cons_self
    exact (hholds.insertLink hat.ground habsent).finishJob _
  · exact (hholds.sameLinks rfl).finishJob _

/-! ## A shutdown -/

/-- The next piece of work of a shutdown. -/
theorem shutdownNext {rest : List (String × Link)} (h : s.Accounted callers)
    (horderly : s.Orderly low floor)
    (hcall : s.calls.get? call = some (.reconciling (.shutdown rest) .next)) :
    (s.shutdownNext call rest).Accounted callers := by
  have hat := horderly.working (work_of_calls hcall) fun heq => by contradiction
  have hholds := h.holds hat.turns hat.holder hcall rfl
  cases rest with
  | nil => exact (hholds.sameLinks rfl).finishJob _
  | cons first rest =>
    exact (hholds.sameLinks rfl).takeDown hat.ground.tidy (fun _ hid => hid) trivial

/-- A shutdown goes on when a link was taken down. -/
theorem shutdownStopped {rest : List (String × Link)} (h : s.Accounted callers)
    (horderly : s.Orderly low floor)
    (hcall : s.calls.get? call = some (.reconciling (.shutdown rest) (.stopped link))) :
    (s.shutdownStopped call rest).Accounted callers := by
  have hholds := h.holds_stopped horderly.turns hcall
  cases rest with
  | nil => exact hholds.putJob rfl (fun _ hid => hid) trivial
  | cons first rest =>
    exact (hholds.sameLinks rfl).putJob rfl (fun _ hid => hid) trivial

/-! ## Starting, beginning and stopping -/

/-- A new call has nothing in hand. -/
theorem startJob (h : s.Accounted callers) (hnew : s.IsNew call) (job : Job) :
    (s.startJob call job).Accounted callers := by
  have hasked : (s.onRegistry fun r => { r with turn := r.turn.request call }).Accounted callers :=
    ⟨h.quiet, h.running, h.cancelled, h.stopped, h.named, h.single, h.found⟩
  have hqueued : ((s.onRegistry fun r => { r with turn := r.turn.request call }).putJob call job
      .queued).Accounted callers := by
    refine hasked.putJob ?_ (fun link heq => by contradiction) fun hne => absurd rfl hne
    intro job' stage' hcall
    have hnone : s.calls.get? call = none := hnew.1
    have hsome := hnone.symm.trans hcall
    contradiction
  have honward : Onward callers callers _ (s.startJob call job) := onward_wake _ _
  exact hqueued.waits (aside_startJob s call job) honward fun _ => .inl

/-- A call whose turn it is sees what there is to do. -/
theorem beginJob (h : s.Accounted callers) (horderly : s.Orderly low floor)
    (hcall : s.calls.get? call = some (.reconciling job .queued))
    (hturn : s.registry.turn.heldBy call = true) : (s.beginJob call job).Accounted callers := by
  have hholds : Holds callers call s [] :=
    h.holds horderly.turns (Lock.holder_of_heldBy hturn) hcall rfl
  cases job with
  | configure w =>
    exact hholds.putJob rfl (fun _ hid => hid)
      (.plan s.registry w.desired)
  | launch name => exact hholds.putJob rfl (fun _ hid => hid) trivial
  | shutdown rest =>
    refine hholds.removeAll.putJob rfl (fun id hid => ?_) trivial
    rwa [List.append_nil] at hid

/-- The pool of a link is drained, and its channel is shut down by the call that stops it. -/
theorem onward_stopLink (h : s.Accounted callers) (horderly : s.Orderly low floor)
    (hcall : s.calls.get? call = some (.reconciling job (.drained link))) :
    Onward (· = link.channel) callers (s.putJob call job (.stopping link))
      (s.stopLink call job link) := by
  have hpast : JobPhase.down link ≠ .queued := fun heq => by contradiction
  have hholder := horderly.turns.alone call job _ (work_of_calls hcall) hpast
  have hholds := h.holds horderly.turns hholder hcall rfl
  have hstopping : (s.putJob call job (.stopping link)).calls.get? call =
      some (.reconciling job (.stopping link)) :=
    (Roster.get?_put _ _ _ _).trans (if_pos rfl)
  refine onward_onChannel (fun c _ => c.onward_shutdown call rfl) ?_
  intro c hc other hother job' link' hlink'
  have hstops : c.stops = [] := by
    rw [Channel.stops, h.quiet _ c hc]
    rfl
  obtain ⟨rfl, htold⟩ := Channel.tells_shutdown hstops hother
  obtain ⟨-, heq⟩ := Activity.reconciling.inj (Option.some.inj (hstopping.symm.trans hlink'))
  obtain rfl := JobStage.stopping.inj heq
  refine ⟨rfl, ?_⟩
  rcases htold with hover | hcancelled
  · exact .inl hover
  · -- Nobody else is stopping the channel, so callers have shut it down, or it is over.
    rcases hholds.cancelled _ c hc hcancelled with hcallers | hover
    · exact .inr ⟨c.isCancelled_shutdown other, hcallers⟩
    · exact .inl ((c.onward_shutdown other trivial).ended hover)

theorem stopLink (h : s.Accounted callers) (horderly : s.Orderly low floor)
    (hcall : s.calls.get? call = some (.reconciling job (.drained link))) :
    (s.stopLink call job link).Accounted callers := by
  have hput : (s.putJob call job (.stopping link)).Accounted callers := by
    refine h.putJob ?_ (fun other heq => by contradiction) fun _ =>
      h.found call job _ (work_of_calls hcall) fun heq => by contradiction
    intro job' stage' hcall'
    obtain ⟨rfl, rfl⟩ := Activity.reconciling.inj (Option.some.inj (hcall.symm.trans hcall'))
    exact ⟨rfl, fun _ hid => hid⟩
  have hstopping : (s.putJob call job (.stopping link)).calls.get? call =
      some (.reconciling job (.stopping link)) :=
    (Roster.get?_put _ _ _ _).trans (if_pos rfl)
  refine hput.waits (aside_onChannel _ fun c _ => Channel.target_shutdown c call)
    (h.onward_stopLink horderly hcall) ?_
  rintro id rfl
  exact .inr ⟨call, job, .stopping link, link, hstopping, rfl, rfl⟩

/-! ## Every event -/

theorem piece (h : s.Accounted callers) (horderly : s.Orderly low floor)
    (hpiece : Piece callers s s') : s'.Accounted callers := by
  cases hpiece with
  | waits haside honward => exact h.waits haside honward fun _ => .inl
  | starts hnew _ => exact h.startJob hnew _
  | begins hcall hturn => exact h.beginJob horderly hcall hturn
  | @next call job hcall =>
    cases job with
    | configure w => exact h.configureNext horderly hcall
    | launch name => exact h.launchNext horderly hcall
    | shutdown rest => exact h.shutdownNext horderly hcall
  | stops hcall => exact h.stopLink horderly hcall
  | @stopped call job link hcall =>
    cases job with
    | configure w => exact h.configureStopped horderly hcall
    | launch name => exact h.launchStopped horderly hcall
    | shutdown rest => exact h.shutdownStopped horderly hcall
  | @launched call job studio fault hcall =>
    cases job with
    | configure w => exact h.configureLaunched horderly hcall
    | launch name => exact h.launchLaunched horderly hcall
    | shutdown rest =>
      have hholds := h.holds horderly.turns
        (horderly.turns.alone call _ _ (work_of_calls hcall) fun heq => by contradiction) hcall rfl
      exact hholds.putJob rfl (fun _ hid => hid) trivial

/-- Every event leaves every running channel accounted for. -/
theorem perform (h : s.Accounted callers) (horderly : s.Orderly low floor) (event : StationEvent)
    (hcallers : ∀ id ∈ event.shutDown?, callers id) : (s.perform event).Accounted callers :=
  h.piece horderly (piece_perform horderly.ground.tidy h.quiet event hcallers)

end Accounted

end Station

end BroadcastLink
