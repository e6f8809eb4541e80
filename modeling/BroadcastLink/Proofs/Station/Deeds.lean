import BroadcastLink.Proofs.Station.Accounting

/-!
# What a piece of work comes to

Whatever a call that changes the set of links does in one piece comes to one of a few deeds: it goes
on, takes a link down, links a studio, gives one other bounds, or is over. It takes down links of
the registry or those it had in hand, and it launches or links a studio only when no running channel
listens to that any more, as long as callers shut no channel down.
-/

namespace BroadcastLink

/-- The links that a call has taken out of the registry and has in hand. -/
def Job.taken (job : Job) (phase : JobPhase) : List Link :=
  match phase, job with
  | .queued, _ => []
  | .down link, .shutdown rest => link :: rest.map (·.2)
  | .down link, _ => [link]
  | _, .shutdown rest => rest.map (·.2)
  | _, _ => []

namespace Station

variable {low floor : Nat} {s s' : Station} {call : CallId} {job : Job} {stage : JobStage}
  {name : String} {studio : Studio} {link : Link} {w : Reconfiguration} {fault : Option Fault}

/-- Nobody shuts a channel down but the calls that change the set of links. -/
def Nobody (_ : ChannelId) : Prop := False

/-- No running channel listens to the studio. -/
def Unserved (s : Station) (name : String) : Prop :=
  ∀ id c, s.channels.get? id = some c → c.studio = name → c.listener = .over

/-- The link is in the registry, or the call has it in hand. -/
def Finds (s : Station) (call : CallId) (link : Link) : Prop :=
  (∃ name, s.registry.links.get? name = some link) ∨
    ∃ job phase, s.work? call = some (job, phase) ∧ link ∈ job.taken phase

/-- Links are only taken out of the registry. -/
def Removes (s : Station) (f : Registry → Registry) : Prop :=
  ∀ name link, (f s.registry).links.get? name = some link → s.registry.links.get? name = some link

/-- What a piece of work of a call comes to. -/
inductive Deed (call : CallId) (s : Station) : Station → Prop where
  | goesOn {f : Registry → Registry} {job : Job} {stage : JobStage} (hremoves : s.Removes f)
    (hfinds : ∀ link ∈ job.taken stage.phase, s.Finds call link)
    (hstage : stage = .next ∨ ∃ studio, stage = .launching studio ∧ s.Unserved studio.name) :
    Deed call s ((s.onRegistry f).putJob call job stage)
  | ends {f : Registry → Registry} {a : Answer} (hremoves : s.Removes f) :
    Deed call s ((s.onRegistry f).finishJob call a)
  | takesDown {f : Registry → Registry} {job : Job} {link : Link} (hremoves : s.Removes f)
    (hfinds : ∀ other ∈ job.taken (.down link), s.Finds call other) :
    Deed call s ((s.onRegistry f).takeDown call job link)
  | inserts {studio : Studio} {w : Reconfiguration} (hunserved : s.Unserved studio.name) :
    Deed call s ((s.insertLink studio).putJob call (.configure w) .next)
  | insertsLast {studio : Studio} {a : Answer} (hunserved : s.Unserved studio.name) :
    Deed call s ((s.insertLink studio).finishJob call a)
  | resizes {name : String} {link : Link} {studio : Studio} {min max : Nat} {w : Reconfiguration}
    (hlink : s.registry.links.get? name = some link) :
    Deed call s ((((s.onRegistry (·.setState name .reconfiguring)).onPool link.pool
      (·.resize min max s.now)).onRegistry
        (·.replaceLink name { link with studio := studio })).putJob call (.configure w) .next)

/-! ## What is found -/

theorem removes_removeLink {f : Registry → Registry}
    (hf : ∀ r, (f r).links = r.links.erase name) : s.Removes f := by
  intro other link hlink
  rw [hf, Roster.get?_erase] at hlink
  split at hlink
  · contradiction
  · exact hlink

theorem removes_of_same {f : Registry → Registry} (hf : ∀ r, (f r).links = r.links) :
    s.Removes f := by
  intro other link hlink
  rwa [hf] at hlink

/-- When no other channel is held, none that runs listens to a studio without a link. -/
theorem Holds.unserved (h : Holds Nobody call s [])
    (habsent : s.registry.links.get? name = none) : s.Unserved name := by
  rintro id c hc rfl
  by_contra hrunning
  exact h.linked_of_running hc hrunning (fun hcalled => hcalled) habsent

/-- A call that goes on with nothing but its stage changed. -/
theorem deed_putJob (s : Station) (call : CallId)
    (hfinds : ∀ link ∈ job.taken stage.phase, s.Finds call link) (hstage : stage = .next) :
    Deed call s (s.putJob call job stage) :=
  .goesOn (f := id) (fun _ _ hlink => hlink) hfinds (.inl hstage)

theorem deed_finishJob (s : Station) (call : CallId) (a : Answer) :
    Deed call s (s.finishJob call a) :=
  .ends (f := id) fun _ _ hlink => hlink

/-- The link that is taken down next is in the registry. -/
theorem deed_takeDown {f : Registry → Registry} (hlink : s.registry.links.get? name = some link)
    (hf : ∀ r, (f r).links = r.links.erase name) (hjob : job.taken (.down link) = [link]) :
    Deed call s ((s.onRegistry f).takeDown call job link) := by
  refine .takesDown (removes_removeLink hf) fun other hmem => ?_
  rw [hjob, List.mem_singleton] at hmem
  exact .inl ⟨name, hmem ▸ hlink⟩

/-! ## A configuration -/

/-- A configuration deals with a studio that has a link. -/
theorem deed_configureFound {coming : List (String × Studio)} (hgone : w.gone = [])
    (hcoming : w.coming = (name, studio) :: coming) (hfound : w.current.get? name = some link)
    (hlink : s.registry.links.get? name = some link) : Deed call s (s.configureNext call w) := by
  unfold configureNext
  simp only [hgone, hcoming, hfound]
  split
  · exact deed_putJob s call (fun _ hmem => by contradiction) rfl
  · split
    · exact .resizes hlink
    · exact deed_takeDown hlink (fun _ => rfl) rfl

theorem deed_configureNext (h : s.Accounted Nobody) (horderly : s.Orderly low floor)
    (hcall : s.calls.get? call = some (.reconciling (.configure w) .next)) :
    Deed call s (s.configureNext call w) := by
  obtain ⟨hat, hsound, hprogress, -⟩ :=
    horderly.configuring (work_of_calls hcall) fun heq => by contradiction
  have hholds : Holds Nobody call s [] := h.holds hat.turns hat.holder hcall rfl
  cases hgone : w.gone with
  | cons first gone =>
    obtain ⟨name, link⟩ := first
    have hfinds : w.Finds s.registry.links [] :=
      h.found call (.configure w) .next (work_of_calls hcall) fun heq => by contradiction
    unfold configureNext
    simp only [hgone]
    exact deed_takeDown (hfinds name link (hgone ▸ List.mem_cons_self) List.not_mem_nil)
      (fun _ => rfl) rfl
  | nil =>
    cases hcoming : w.coming with
    | nil =>
      rw [configureNext_of_done s call hgone hcoming]
      exact .ends (removes_of_same fun _ => rfl)
    | cons first coming =>
      obtain ⟨name, studio⟩ := first
      obtain ⟨hwanted, hsame⟩ := hprogress.coming name studio (hcoming ▸ List.mem_cons_self)
      have hlinks := hsame List.not_mem_nil
      cases hfound : w.current.get? name with
      | some link => exact deed_configureFound hgone hcoming hfound (hlinks.trans hfound)
      | none =>
        obtain ⟨rfl, -⟩ := Fleet.sound_of_validate hsound hwanted
        have hunserved := hholds.unserved (hlinks.trans hfound)
        unfold configureNext
        simp only [hgone, hcoming, hfound]
        split
        · exact .goesOn (removes_of_same fun _ => rfl) (fun _ hmem => by contradiction)
            (.inr ⟨studio, rfl, hunserved⟩)
        · exact .inserts hunserved

theorem deed_configureStopped (h : s.Accounted Nobody) (horderly : s.Orderly low floor)
    (hcall : s.calls.get? call = some (.reconciling (.configure w) (.stopped link))) :
    Deed call s (s.configureStopped call w) := by
  obtain ⟨hat, hsound, hprogress, -⟩ :=
    horderly.configuring (work_of_calls hcall) fun heq => by contradiction
  have hholds : Holds Nobody call s [] := h.holds_stopped hat.turns hcall
  replace hat : AtWork low floor call s s w.upNext := hat
  unfold configureStopped
  cases hgone : w.gone with
  | cons first gone =>
    exact .goesOn (removes_of_same fun _ => rfl) (fun _ hmem => by contradiction) (.inl rfl)
  | nil =>
    cases hcoming : w.coming with
    | nil => exact deed_putJob s call (fun _ hmem => by contradiction) rfl
    | cons first coming =>
      obtain ⟨name, studio⟩ := first
      obtain ⟨hwanted, -⟩ := hprogress.coming name studio (hcoming ▸ List.mem_cons_self)
      obtain ⟨rfl, -⟩ := Fleet.sound_of_validate hsound hwanted
      rw [upNext_of_coming hgone hcoming] at hat
      exact .inserts (hholds.unserved (hat.inLine.away studio.name List.mem_cons_self))

theorem deed_configureLaunched (h : s.Accounted Nobody) (horderly : s.Orderly low floor)
    (hcall : s.calls.get? call = some (.reconciling (.configure w) (.launched studio fault))) :
    Deed call s (s.configureLaunched call w studio fault) := by
  obtain ⟨hat, -, -, hgone, -, coming, hcoming⟩ :=
    horderly.configuring (work_of_calls hcall) fun heq => by contradiction
  have hholds : Holds Nobody call s [] := h.holds hat.turns hat.holder hcall rfl
  replace hat : AtWork low floor call s s w.upNext := hat
  rw [upNext_of_coming hgone hcoming] at hat
  unfold configureLaunched
  dsimp only
  split
  · exact .inserts (hholds.unserved (hat.inLine.away studio.name List.mem_cons_self))
  · exact .goesOn (removes_of_same fun _ => rfl) (fun _ hmem => by contradiction) (.inl rfl)

/-! ## A launch -/

theorem deed_launchNext (h : s.Accounted Nobody) (horderly : s.Orderly low floor)
    (hcall : s.calls.get? call = some (.reconciling (.launch name) .next)) :
    Deed call s (s.launchNext call name) := by
  have hat := horderly.working (work_of_calls hcall) fun heq => by contradiction
  have hholds : Holds Nobody call s [] := h.holds hat.turns hat.holder hcall rfl
  unfold launchNext
  split
  · exact deed_finishJob s call _
  · rename_i studio hdesired
    obtain ⟨rfl, -⟩ := Fleet.sound_of_validate horderly.desired hdesired
    split
    · exact deed_finishJob s call _
    · split
      · rename_i link hlink
        exact deed_takeDown hlink (fun _ => rfl) rfl
      · rename_i habsent
        exact .goesOn (removes_of_same fun _ => rfl) (fun _ hmem => by contradiction)
          (.inr ⟨studio, rfl, hholds.unserved habsent⟩)

theorem deed_launchStopped (h : s.Accounted Nobody) (horderly : s.Orderly low floor)
    (hcall : s.calls.get? call = some (.reconciling (.launch name) (.stopped link))) :
    Deed call s (s.launchStopped call name) := by
  have hat := horderly.working (work_of_calls hcall) fun heq => by contradiction
  have hholds : Holds Nobody call s [] := h.holds_stopped horderly.turns hcall
  unfold launchStopped
  split
  · exact deed_finishJob s call _
  · rename_i studio hdesired
    obtain ⟨rfl, -⟩ := Fleet.sound_of_validate horderly.desired hdesired
    have habsent := hat.inLine.away studio.name List.mem_cons_self
    exact .goesOn (removes_of_same fun _ => rfl) (fun _ hmem => by contradiction)
      (.inr ⟨studio, rfl, hholds.unserved habsent⟩)

theorem deed_launchLaunched (h : s.Accounted Nobody) (horderly : s.Orderly low floor)
    (hcall : s.calls.get? call = some (.reconciling (.launch name) (.launched studio fault))) :
    Deed call s (s.launchLaunched call name studio fault) := by
  have hat := horderly.working (work_of_calls hcall) fun heq => by contradiction
  have hholds : Holds Nobody call s [] := h.holds hat.turns hat.holder hcall rfl
  obtain ⟨rfl, -⟩ : studio.name = name ∧ studio.validate = .ok () :=
    horderly.plans call _ _ (work_of_calls hcall)
  unfold launchLaunched
  split
  · exact .insertsLast (hholds.unserved (hat.inLine.away studio.name List.mem_cons_self))
  · exact .ends (removes_of_same fun _ => rfl)

/-! ## A shutdown -/

/-- What a shutdown has yet to take down it has in hand already. -/
theorem finds_shutdown {rest : List (String × Link)}
    (hcall : s.calls.get? call = some (.reconciling (.shutdown rest) stage))
    (hstage : stage ≠ .queued) : ∀ other ∈ rest.map (·.2), s.Finds call other := by
  intro other hmem
  refine .inr ⟨_, _, work_of_calls hcall, ?_⟩
  cases stage with
  | queued => contradiction
  | next | launching | launched => exact hmem
  | draining | drained | stopping | stopped => exact List.mem_cons_of_mem _ hmem

theorem deed_shutdownNext {rest : List (String × Link)}
    (hcall : s.calls.get? call = some (.reconciling (.shutdown rest) .next)) :
    Deed call s (s.shutdownNext call rest) := by
  have hfinds := finds_shutdown hcall fun heq => by contradiction
  unfold shutdownNext
  cases rest with
  | nil => exact .ends (removes_of_same fun _ => rfl)
  | cons first rest =>
    refine .takesDown (removes_of_same fun _ => rfl) fun other hmem => hfinds other ?_
    rcases List.mem_cons.mp hmem with rfl | hrest
    · exact List.mem_cons_self
    · exact hrest

theorem deed_shutdownStopped {rest : List (String × Link)}
    (hcall : s.calls.get? call = some (.reconciling (.shutdown rest) (.stopped link))) :
    Deed call s (s.shutdownStopped call rest) := by
  have hfinds := finds_shutdown hcall fun heq => by contradiction
  unfold shutdownStopped
  cases rest with
  | nil => exact deed_putJob s call (fun _ hmem => by contradiction) rfl
  | cons first rest =>
    exact .goesOn (removes_of_same fun _ => rfl)
      (fun other hmem => hfinds other (List.mem_cons_of_mem _ hmem)) (.inl rfl)

/-! ## Every piece -/

theorem deed_beginJob (s : Station) (call : CallId) (job : Job) :
    Deed call s (s.beginJob call job) := by
  cases job with
  | configure w => exact deed_putJob s call (fun _ hmem => by contradiction) rfl
  | launch name => exact deed_putJob s call (fun _ hmem => by contradiction) rfl
  | shutdown rest =>
    refine .goesOn (fun _ _ hlink => by contradiction) (fun link hmem => ?_) (.inl rfl)
    obtain ⟨entry, hentry, rfl⟩ := List.mem_map.mp hmem
    exact .inl ⟨entry.1, Roster.mem_entries_iff.mp (List.mem_mergeSort.mp hentry)⟩

theorem deed_jobNext (h : s.Accounted Nobody) (horderly : s.Orderly low floor)
    (hcall : s.calls.get? call = some (.reconciling job .next)) :
    Deed call s (s.jobNext call job) := by
  cases job with
  | configure w => exact deed_configureNext h horderly hcall
  | launch name => exact deed_launchNext h horderly hcall
  | shutdown rest => exact deed_shutdownNext hcall

theorem deed_jobStopped (h : s.Accounted Nobody) (horderly : s.Orderly low floor)
    (hcall : s.calls.get? call = some (.reconciling job (.stopped link))) :
    Deed call s (s.jobStopped call job) := by
  cases job with
  | configure w => exact deed_configureStopped h horderly hcall
  | launch name => exact deed_launchStopped h horderly hcall
  | shutdown rest => exact deed_shutdownStopped hcall

theorem deed_jobLaunched (h : s.Accounted Nobody) (horderly : s.Orderly low floor)
    (hcall : s.calls.get? call = some (.reconciling job (.launched studio fault))) :
    Deed call s (s.jobLaunched call job studio fault) := by
  cases job with
  | configure w => exact deed_configureLaunched h horderly hcall
  | launch name => exact deed_launchLaunched h horderly hcall
  | shutdown rest =>
    exact deed_putJob s call (finds_shutdown hcall fun heq => by contradiction) rfl

end Station

end BroadcastLink
