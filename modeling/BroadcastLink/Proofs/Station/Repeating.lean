import BroadcastLink.Proofs.Station.Convergence
import BroadcastLink.Proofs.Station.Launches

/-!
# The same configuration once more

A configuration that is in force already has nothing to do but to try those studios again whose
launch failed. It takes no link down and gives none other bounds, so it leaves the pools and
channels of all links alone.
-/

namespace BroadcastLink

/-! ## What the summary says -/

/-- The links are those of a configuration, save for the studios whose launch failed. -/
structure InForce (desired : Fleet) (failed : List String) (links : Roster String Link) :
    Prop where
  wanted : ∀ {name link}, links.get? name = some link → desired.get? name = some link.studio
  missing : ∀ {name}, name ∈ failed ↔ name ∈ desired.keys ∧ links.get? name = none
  once : failed.Nodup

/-- A summary that tells of no change but of new attempts to launch what failed. -/
structure Summary.Repeats (summary : Summary) (desired : Fleet) (failed : List String) :
    Prop where
  unchanged : summary.unchanged.Nodup ∧
    ∀ name, name ∈ summary.unchanged ↔ name ∈ desired.keys ∧ name ∉ failed
  removed : summary.removed = []
  recreated : summary.recreated = []
  resized : summary.resized = []
  retried : (summary.added ++ summary.launchFailed).Perm failed

/-- Does a call take a step of its own: does it go on, get what it wanted, or run out of time? -/
def StationEvent.isStepOf (call : CallId) : StationEvent → Bool
  | .resume (.call c) | .hear (.call c) _ | .expire (.call c) => c = call
  | _ => false

namespace InForce

variable {desired : Fleet} {failed : List String} {found now : Roster String Link} {floor : Nat}
  {name : String} {studio : Studio} {link : Link} {change : Change}

theorem linked_iff (h : InForce desired failed found) :
    found.get? name ≠ none ↔ name ∈ desired.keys ∧ name ∉ failed := by
  rw [h.missing]
  constructor
  · intro hsome
    obtain ⟨link, hlink⟩ := Option.ne_none_iff_exists'.mp hsome
    have hname : name ∈ desired.keys := by simp [Fleet.mem_keys_iff, h.wanted hlink]
    exact ⟨hname, fun hfailed => hsome hfailed.2⟩
  · rintro ⟨hname, hnot⟩ hnone
    exact hnot ⟨hname, hnone⟩

/-- No link is unwanted. -/
theorem unwanted (h : InForce desired failed found) : Registry.unwanted found desired = [] := by
  refine List.eq_nil_iff_forall_not_mem.mpr fun name hmem => ?_
  obtain ⟨hsome, hnone⟩ := Registry.mem_unwanted_iff.mp hmem
  exact Fleet.mem_keys_iff.mp (h.linked_iff.mp hsome).1 hnone

/-- A studio that has a link is left as it is, and one that has none is new. -/
theorem change_cases (h : InForce desired failed found) (hstudio : desired.get? name = some studio)
    (hmade : change.Makes floor studio (found.get? name) (now.get? name)) :
    (change = .unchanged ∧ found.get? name ≠ none ∧ now.get? name = found.get? name) ∨
      ((change = .added ∨ change = .launchFailed) ∧ found.get? name = none) := by
  have same {old : Link} (hold : found.get? name = some old) : old.studio = studio :=
    Option.some.inj ((h.wanted hold).symm.trans hstudio)
  cases change with
  | added => exact .inr ⟨.inl rfl, hmade.1⟩
  | launchFailed => exact .inr ⟨.inr rfl, hmade.1⟩
  | unchanged =>
    obtain ⟨old, hold, -, hnow⟩ := hmade
    exact .inl ⟨rfl, by simp [hold], hnow.trans hold.symm⟩
  | recreated =>
    obtain ⟨old, -, hold, htarget, -⟩ := hmade
    rw [same hold] at htarget
    simp [Studio.sameTarget] at htarget
  | resized =>
    obtain ⟨old, hold, hne, -⟩ := hmade
    exact absurd (same hold) hne

end InForce

namespace Station

variable {low floor : Nat} {s s' : Station} {call : CallId} {desired : Fleet} {failed : List String}
  {summary : Summary} {found : Roster String Link} {w : Reconfiguration} {name : String}
  {studio : Studio} {link : Link}

/-- A configuration that is over is in force. -/
theorem Done.inForce (h : Done floor found desired summary s) :
    InForce desired summary.launchFailed s.registry.links where
  wanted hlink := (h.wanted_of_linked hlink).2
  missing {name} := by
    constructor
    · intro hfailed
      have hname : name ∈ desired.keys :=
        h.perm_keys.mem_iff.mp (Summary.mem_settled_iff.mpr ⟨.launchFailed, hfailed⟩)
      refine ⟨hname, ?_⟩
      by_contra hsome
      exact (h.linked_iff.mp hsome).2 hfailed
    · rintro ⟨hname, hnone⟩
      by_contra hnot
      exact h.linked_iff.mpr ⟨hname, hnot⟩ hnone
  once := (h.perm_keys.nodup_iff.mpr desired.nodup_keys).sublist (List.sublist_append_right _ _)

/-- Whatever was noted by a configuration that found itself in force was left as it was, or is
new. -/
theorem Done.noted_cases (h : Done floor found desired summary s)
    (hforce : InForce desired failed found) (change : Change)
    (hmem : name ∈ summary.names change) :
    (change = .unchanged ∧ found.get? name ≠ none ∧
        s.registry.links.get? name = found.get? name) ∨
      ((change = .added ∨ change = .launchFailed) ∧ found.get? name = none) := by
  obtain ⟨studio, hstudio, hmade⟩ := h.progress.made change name hmem
  exact hforce.change_cases hstudio hmade

theorem Done.repeats (h : Done floor found desired summary s)
    (hforce : InForce desired failed found) : summary.Repeats desired failed := by
  have hnodup : summary.settled.Nodup := h.perm_keys.nodup_iff.mpr desired.nodup_keys
  have hnone (change : Change) {name : String} (hnot : change ≠ .unchanged)
      (hname : name ∈ summary.names change) :
      (change = .added ∨ change = .launchFailed) ∧ found.get? name = none := by
    rcases h.noted_cases hforce change hname with ⟨heq, -⟩ | hnew
    · exact absurd heq hnot
    · exact hnew
  refine ⟨⟨?_, fun name => ?_⟩, ?_, ?_, ?_, ?_⟩
  · refine hnodup.sublist ?_
    exact (List.sublist_append_right _ _).trans (List.sublist_append_left _ _)
  · rw [← hforce.linked_iff]
    constructor
    · intro hname
      rcases h.noted_cases hforce .unchanged hname with ⟨-, hsome, -⟩ | ⟨hnew, -⟩
      · exact hsome
      · simp at hnew
    · intro hsome
      obtain ⟨change, _, hname, -⟩ := h.made (hforce.linked_iff.mp hsome).1
      rcases h.noted_cases hforce change hname with ⟨rfl, -⟩ | ⟨-, habsent⟩
      · exact hname
      · exact absurd habsent hsome
  · have hremoved := h.progress.removed
    rw [hforce.unwanted] at hremoved
    exact (List.append_eq_nil_iff.mp hremoved).1
  · refine List.eq_nil_iff_forall_not_mem.mpr fun name hname => ?_
    simpa using (hnone .recreated (by simp) hname).1
  · refine List.eq_nil_iff_forall_not_mem.mpr fun name hname => ?_
    simpa using (hnone .resized (by simp) hname).1
  · have hsublist : (summary.added ++ summary.launchFailed).Sublist summary.settled := by
      refine List.Sublist.append ?_ (List.Sublist.refl _)
      simp [List.append_assoc]
    refine (List.perm_ext_iff_of_nodup (hnodup.sublist hsublist) hforce.once).mpr fun name => ?_
    rw [hforce.missing, List.mem_append]
    constructor
    · intro hname
      have hkeys : name ∈ desired.keys :=
        h.perm_keys.mem_iff.mp (hsublist.subset (List.mem_append.mpr hname))
      rcases hname with hadded | hfailed
      · exact ⟨hkeys, (hnone .added (by simp) hadded).2⟩
      · exact ⟨hkeys, (hnone .launchFailed (by simp) hfailed).2⟩
    · rintro ⟨hkeys, habsent⟩
      obtain ⟨change, _, hname, -⟩ := h.made hkeys
      rcases h.noted_cases hforce change hname with ⟨-, hsome, -⟩ | ⟨rfl | rfl, -⟩
      · exact absurd habsent hsome
      · exact .inl hname
      · exact .inr hname

/-! ## What happens on the way -/

/-- A configuration that found itself in force, and no other such call is made: it takes no link
down, and the links it found are there all along. -/
structure Repeating (low floor : Nat) (found : Roster String Link) (desired : Fleet)
    (failed : List String) (call : CallId) (s : Station) : Prop
    extends Alone low floor found desired call s where
  force : InForce desired failed found
  standing : ∀ job link, s.work? call ≠ some (job, .down link)
  kept : ∀ {name link}, found.get? name = some link → s.registry.links.get? name = some link

/-- A piece of work of such a configuration: it gives its summary, it goes on to the next studio or
to a launch, or it links a studio that had no link. -/
inductive Piecework (found : Roster String Link) (s : Station) (call : CallId) :
    Station → Prop where
  | done (s' : Station) (w : Reconfiguration) (hlinks : s'.registry.links = s.registry.links)
      (hpools : s'.pools = s.pools) (hchannels : s'.channels = s.channels) :
      Piecework found s call (s'.finishJob call (.summary w.summary))
  | goesOn (s' : Station) (job : Job) (stage : JobStage)
      (hstage : ∀ link, stage.phase ≠ .down link) (hlinks : s'.registry.links = s.registry.links)
      (hpools : s'.pools = s.pools) (hchannels : s'.channels = s.channels) :
      Piecework found s call (s'.putJob call job stage)
  | links (studio : Studio) (job : Job) (habsent : found.get? studio.name = none) :
      Piecework found s call ((s.insertLink studio).putJob call job .next)

namespace Repeating

/-- What such a configuration launches has no link. -/
theorem absent_of_up (h : Repeating low floor found desired failed call s) {job : Job}
    (hwork : s.work? call = some (job, .up studio)) :
    found.get? studio.name = none ∧ studio.name ∈ desired.keys := by
  obtain ⟨-, w, rfl, hway⟩ := h.onItsWay hwork
  obtain ⟨-, -, hprogress, -, habsent, coming, hcoming⟩ :=
    h.orderly.configuring hwork fun heq => by contradiction
  rw [hway.current fun heq => by contradiction] at habsent
  have hwanted := (hprogress.coming _ studio (hcoming ▸ List.mem_cons_self)).1
  rw [hway.desired] at hwanted
  exact ⟨habsent, by simp [Fleet.mem_keys_iff, hwanted]⟩

theorem piecework_next (h : Repeating low floor found desired failed call s)
    (hwork : s.work? call = some (.configure w, .next)) :
    Piecework found s call (s.configureNext call w) := by
  obtain ⟨-, _, hjob, hway⟩ := h.onItsWay hwork
  obtain rfl := Job.configure.inj hjob
  obtain ⟨-, hsound, hprogress, -⟩ := h.orderly.configuring hwork fun heq => by contradiction
  have hcurrent : w.current = found := hway.current fun heq => by contradiction
  have hgone : w.gone = [] := by
    have hremoved := hprogress.removed
    rw [hcurrent, hway.desired, h.force.unwanted] at hremoved
    exact List.map_eq_nil_iff.mp (List.append_eq_nil_iff.mp hremoved).2
  unfold configureNext
  rw [hgone]
  cases hcoming : w.coming with
  | nil => exact .done (s.onRegistry _) w rfl rfl rfl
  | cons first coming =>
    obtain ⟨name, studio⟩ := first
    have hwanted := (hprogress.coming name studio (hcoming ▸ List.mem_cons_self)).1
    obtain ⟨rfl, -⟩ := Fleet.sound_of_validate hsound hwanted
    rw [hway.desired] at hwanted
    dsimp only
    split
    · rename_i link hlink
      rw [hcurrent] at hlink
      have hsame : link.studio = studio :=
        Option.some.inj ((h.force.wanted hlink).symm.trans hwanted)
      rw [if_pos hsame]
      exact .goesOn s _ .next (by simp [JobStage.phase]) rfl rfl rfl
    · rename_i habsent
      rw [hcurrent] at habsent
      split
      · exact .goesOn (s.onRegistry _) _ _ (by simp [JobStage.phase]) rfl rfl rfl
      · exact .links studio _ habsent

theorem piecework_launched (h : Repeating low floor found desired failed call s)
    (hwork : s.work? call = some (.configure w, .up studio)) (fault : Option Fault) :
    Piecework found s call (s.configureLaunched call w studio fault) := by
  unfold configureLaunched
  dsimp only
  split
  · exact .links studio _ (h.absent_of_up hwork).1
  · exact .goesOn (s.onRegistry _) _ _ (by simp [JobStage.phase]) rfl rfl rfl

end Repeating

theorem Piecework.standing (h : Piecework found s call s') (job : Job) (link : Link) :
    s'.work? call ≠ some (job, .down link) := by
  cases h with
  | done _ w _ _ _ => simp [work_finishJob]
  | goesOn _ job' stage hstage _ _ _ =>
    rw [work_putJob, if_pos rfl]
    intro heq
    exact hstage link (Prod.mk.inj (Option.some.inj heq)).2
  | links studio job' _ => simp [work_putJob, JobStage.phase]

/-- The links found stay as they are. -/
theorem Piecework.kept (h : Piecework found s call s')
    (hkept : ∀ {name link}, found.get? name = some link → s.registry.links.get? name = some link)
    (hlink : found.get? name = some link) : s'.registry.links.get? name = some link := by
  cases h with
  | done _ w hlinks _ _ =>
    rw [registry_finishJob]
    exact hlinks ▸ hkept hlink
  | goesOn _ job stage _ hlinks _ _ => exact (congrArg (·.get? name) hlinks).trans (hkept hlink)
  | links studio job habsent =>
    have hne : name ≠ studio.name := by
      rintro rfl
      rw [hlink] at habsent
      contradiction
    refine (links_insertLink s studio name).trans ?_
    rw [if_neg hne, hkept hlink]

namespace Repeating

/-- Nothing that happens without another such call makes it take a link down or lose one. -/
theorem perform (h : Repeating low floor found desired failed call s) {event : StationEvent}
    (hquiet : event.changesLinks = false) :
    Repeating low floor found desired failed call (s.perform event) := by
  have halone := h.toAlone.perform hquiet
  have hadvance := advance_perform h.orderly.ground.tidy event
  generalize s.perform event = s' at halone hadvance
  cases hadvance with
  | aside haside =>
    refine ⟨halone, h.force, ?_, ?_⟩
    · rw [haside.work]
      exact h.standing
    · rw [haside.registry]
      exact h.kept
  | starts _ _ hchanges =>
    rw [hquiet] at hchanges
    contradiction
  | begins hwork hturn =>
    obtain ⟨rfl, w, rfl, -⟩ := h.onItsWay hwork
    exact ⟨halone, h.force, by simp [beginJob, work_putJob, JobStage.phase], h.kept⟩
  | next hwork =>
    obtain ⟨rfl, w, rfl, -⟩ := h.onItsWay hwork
    have hpiece := h.piecework_next hwork
    exact ⟨halone, h.force, hpiece.standing, hpiece.kept h.kept⟩
  | stopped hwork =>
    obtain ⟨rfl, -⟩ := h.onItsWay hwork
    exact absurd hwork (h.standing _ _)
  | @launched _ _ studio fault hwork =>
    obtain ⟨rfl, w, rfl, -⟩ := h.onItsWay hwork
    have hpiece := h.piecework_launched hwork fault
    exact ⟨halone, h.force, hpiece.standing, hpiece.kept h.kept⟩

theorem run (h : Repeating low floor found desired failed call s) {events : List StationEvent}
    (hquiet : ∀ event ∈ events, event.changesLinks = false) :
    Repeating low floor found desired failed call (s.run events) := by
  induction events generalizing s with
  | nil => exact h
  | cons event rest ih =>
    exact ih (h.perform (hquiet event List.mem_cons_self))
      fun e he => hquiet e (List.mem_cons_of_mem event he)

end Repeating

/-! ## What it leaves alone -/

/-- Pool and channel of a link are in the second state what they were in the first. -/
def Untouched (link : Link) (s s' : Station) : Prop :=
  s'.pools.get? link.pool = s.pools.get? link.pool ∧
    s'.channels.get? link.channel = s.channels.get? link.channel

theorem untouched_of_same (hpools : s'.pools = s.pools) (hchannels : s'.channels = s.channels) :
    Untouched link s s' :=
  ⟨congrArg (·.get? link.pool) hpools, congrArg (·.get? link.channel) hchannels⟩

/-- A new link has a pool and a channel of its own. -/
theorem Linked.untouched_insertLink (h : s.Linked name link) (hground : s.Ground)
    (studio : Studio) : Untouched link s (s.insertLink studio) := by
  have hpool : link.pool ≠ s.nextPool := Nat.ne_of_lt (hground.pools _ h.pool_ne_none)
  have hchannel : link.channel ≠ s.nextChannel :=
    Nat.ne_of_lt (hground.channels _ h.channel_ne_none)
  obtain ⟨ready, hinsert⟩ := exists_ready_insertLink s studio
  rw [hinsert]
  exact ⟨(pools_withLink s studio _).trans (if_neg hpool),
    (channels_withLink s studio _).trans (if_neg hchannel)⟩

theorem Piecework.untouched (h : Piecework found s call s') (hlinked : s.Linked name link)
    (hground : s.Ground) : Untouched link s s' := by
  cases h with
  | done s' w _ hpools hchannels =>
    have hsame := pools_finishJob s' call (.summary w.summary)
    exact untouched_of_same (hsame.1.trans hpools) (hsame.2.trans hchannels)
  | goesOn _ job stage _ _ hpools hchannels => exact untouched_of_same hpools hchannels
  | links studio job _ => exact hlinked.untouched_insertLink hground studio

/-- No step of a configuration that found itself in force touches a link it found. -/
theorem Repeating.untouched (h : Repeating low floor found desired failed call s)
    {event : StationEvent} (hwork : s.work? call ≠ none) (hstep : event.isStepOf call = true)
    (hlink : found.get? name = some link) : Untouched link s (s.perform event) := by
  have hlinked := h.orderly.inLine.linked name link (h.kept hlink)
  obtain ⟨⟨job, phase⟩, hjob⟩ := Option.ne_none_iff_exists'.mp hwork
  obtain ⟨activity, hcall, hactivity⟩ := Option.bind_eq_some_iff.mp hjob
  obtain ⟨-, w, rfl, -⟩ := h.onItsWay hjob
  -- The call is at one of the stages before, between and after launches.
  obtain ⟨stage, rfl, rfl⟩ :
      ∃ stage, activity = .reconciling (.configure w) stage ∧ stage.phase = phase := by
    cases activity <;> simp [Activity.work?] at hactivity
    obtain ⟨rfl, rfl⟩ := hactivity
    exact ⟨_, rfl, rfl⟩
  have hstage (link : Link) : stage.phase ≠ .down link := by
    intro heq
    exact h.standing _ link (hjob.trans (by rw [heq]))
  unfold StationEvent.isStepOf at hstep
  split at hstep <;> simp at hstep <;> obtain rfl := hstep.symm
  · show Untouched link s (s.resumeCall call)
    rw [resumeCall, hcall]
    dsimp only [resumeJob]
    split
    · split
      · exact untouched_of_same rfl rfl
      · exact ⟨rfl, rfl⟩
    · exact (h.piecework_next hjob).untouched hlinked h.orderly.ground
    · exact absurd rfl (hstage _)
    · exact absurd rfl (hstage _)
    · exact absurd rfl (hstage _)
    · exact absurd rfl (hstage _)
    · exact ⟨rfl, rfl⟩
    · exact (h.piecework_launched hjob _).untouched hlinked h.orderly.ground
  · rename_i outcome
    show Untouched link s (s.callHears call outcome)
    unfold callHears
    rw [hcall]
    cases stage <;> cases outcome <;> exact ⟨rfl, rfl⟩
  · show Untouched link s (s.callExpired call)
    rw [callExpired, hcall]
    cases stage with
    | draining other => exact absurd rfl (hstage other)
    | _ => exact ⟨rfl, rfl⟩

/-! ## Twice the same -/

/-- What has become of a configuration that was repeated: of the first call it is known whose launch
failed, of the second what it found and how things are now. -/
structure Repeated (before : Station) (desired : Fleet) (failed : List String) (call : CallId)
    (s : Station) : Prop where
  /-- The second summary tells of no change but of what became of the failed launches. -/
  summary : ∀ summary, (call, .summary summary) ∈ s.answers → summary.Repeats desired failed
  /-- The launcher has nothing to do but for studios whose launch failed. -/
  launches : ∀ task studio, s.want task = .launch studio → studio.name ∈ failed
  /-- All other studios have the link they had, of the same generation. -/
  links : ∀ name ∈ desired.keys, name ∉ failed → ∃ link,
    before.registry.links.get? name = some link ∧ s.registry.links.get? name = some link
  /-- Making the second call touches no pool and no channel. -/
  started : ∀ link, Untouched link before (before.perform (.configure call desired))
  /-- None of its steps touches the pool or the channel of a link it found. -/
  untouched : s.work? call ≠ none → ∀ event : StationEvent, event.isStepOf call = true →
    ∀ name link, before.registry.links.get? name = some link → Untouched link s (s.perform event)

theorem untouched_configure (s : Station) (call : CallId) (desired : Fleet) (link : Link) :
    Untouched link s (s.perform (.configure call desired)) := by
  rw [perform]
  split
  · unfold configure
    split
    · exact ⟨rfl, rfl⟩
    · obtain ⟨ready, hwake⟩ := exists_ready_wake
        ((s.onRegistry fun r => { r with turn := r.turn.request call }).putCall call
          (.reconciling (.configure { desired := desired }) .queued)) (.call call)
      unfold startJob startCall
      rw [hwake]
      exact ⟨rfl, rfl⟩
  · exact ⟨rfl, rfl⟩

theorem Repeating.repeated {before : Station}
    (h : Repeating low floor before.registry.links desired failed call s) :
    Repeated before desired failed call s where
  started := untouched_configure before call desired
  summary summary hanswer := by
    rcases h.stage with ⟨w, phase, hway⟩ | ⟨-, hdone⟩
    · exact absurd hanswer (hway.unanswered summary)
    · exact (hdone summary hanswer).repeats h.force
  launches task studio hwant := by
    obtain ⟨c, job, -, hwork⟩ := work_of_want_launch hwant
    obtain ⟨rfl, -⟩ := h.onItsWay hwork
    obtain ⟨habsent, hname⟩ := h.absent_of_up hwork
    exact h.force.missing.mpr ⟨hname, habsent⟩
  links name hname hnot := by
    obtain ⟨link, hlink⟩ :=
      Option.ne_none_iff_exists'.mp (h.force.linked_iff.mpr ⟨hname, hnot⟩)
    exact ⟨link, hlink, h.kept hlink⟩
  untouched hwork event hstep name link hlink := h.untouched hwork hstep hlink

/-- A configuration that is made in force already begins so. -/
theorem repeating_configure (h : s.Orderly low floor) (hidle : ∀ c, s.work? c = none)
    (hnew : s.IsNew call) (hsound : desired.validate = .ok ())
    (hforce : InForce desired failed s.registry.links) :
    Repeating low floor s.registry.links desired failed call
      (s.perform (.configure call desired)) := by
  have hstart : s.perform (.configure call desired) =
      s.startJob call (.configure { desired := desired }) := by
    rw [perform, if_pos hnew, configure, hsound]
  have hwake := aside_startJob s call (.configure { desired := desired })
  refine ⟨alone_configure h hidle hnew hsound, hforce, ?_, ?_⟩
  · rw [hstart, hwake.work]
    simp [work_putJob, JobStage.phase]
  · intro name link hlink
    rw [hstart, hwake.registry]
    exact hlink

/-- Repeating a configuration changes nothing. Take any run from the start that left no call at work
that changes the set of links, then a call that configures studios and has given its summary, and,
with no such call in between, another one that configures the same studios. Whatever happens then
without a further such call, the second one has touched nothing that is linked, and tells so. -/
theorem configure_repeated (settings : RegistrySettings) (before between after : List StationEvent)
    (first second : CallId) (desired : Fleet) (summary : Summary)
    (hidle : ∀ c, ((opened settings).run before).work? c = none)
    (hfirst : ((opened settings).run before).IsNew first) (hsound : desired.validate = .ok ())
    (hbetween : ∀ event ∈ between, event.changesLinks = false)
    (hanswer : (first, .summary summary) ∈
      ((opened settings).run (before ++ .configure first desired :: between)).answers)
    (hsecond : ((opened settings).run (before ++ .configure first desired :: between)).IsNew second)
    (hafter : ∀ event ∈ after, event.changesLinks = false) :
    Repeated ((opened settings).run (before ++ .configure first desired :: between)) desired
      summary.launchFailed second
      ((opened settings).run
        (before ++ .configure first desired :: between ++ .configure second desired :: after)) := by
  have hstart := ((orderly_opened settings).run before).refresh hidle (Nat.le_refl _)
  rw [run_append _ (before ++ .configure first desired :: between)]
  rw [run_append _ before] at hanswer hsecond ⊢
  have halone := (alone_configure hstart hidle hfirst hsound).run hbetween
  rcases halone.stage with ⟨w, phase, hway⟩ | ⟨hover, hdone⟩
  · exact absurd hanswer (hway.unanswered summary)
  · have hidle' (c : CallId) : (((opened settings).run before).run
        (.configure first desired :: between)).work? c = none := by
      by_cases hc : c = first
      · exact hc ▸ hover
      · exact halone.others c hc
    have hagain := repeating_configure (halone.orderly.refresh hidle' (Nat.le_refl _)) hidle'
      hsecond hsound (hdone summary hanswer).inForce
    exact (hagain.run hafter).repeated

/-! Of two studios one cannot be launched at first. The second time its launch succeeds. -/

def wall : Studio where
  name := "wall"
  host := "10.0.0.6"
  port := 9000
  launchCommand := some "wall --serve"
  autoStart := true

def wallFleet : Fleet := (({} : Fleet).add camera).add wall

def wallFailed : List StationEvent :=
  List.replicate 3 (.resume (.call 1)) ++
    .hear (.call 1) (.launched (some (.launch "wall" "no such file"))) ::
    List.replicate 2 (.resume (.call 1))

def wallLaunched : List StationEvent :=
  List.replicate 3 (.resume (.call 2)) ++ .hear (.call 2) (.launched none) ::
    List.replicate 2 (.resume (.call 2))

theorem wallFleet_repeated :
    ((opened {}).run (.configure 1 wallFleet :: wallFailed ++
        .configure 2 wallFleet :: wallLaunched)).answers =
      [(1, .summary { added := ["camera"], launchFailed := ["wall"] }),
        (2, .summary { unchanged := ["camera"], added := ["wall"] })] ∧
    Repeated ((opened {}).run ([] ++ .configure 1 wallFleet :: wallFailed)) wallFleet ["wall"] 2
      ((opened {}).run ([] ++ .configure 1 wallFleet :: wallFailed ++
        .configure 2 wallFleet :: wallLaunched)) := by
  have hcalls : ((opened {}).run ([] ++ .configure 1 wallFleet :: wallFailed)).calls.entries =
      [] := by cbv
  have hanswers : ((opened {}).run ([] ++ .configure 1 wallFleet :: wallFailed)).answers =
      [(1, .summary { added := ["camera"], launchFailed := ["wall"] })] := by cbv
  refine ⟨by cbv, configure_repeated {} [] wallFailed wallLaunched 1 2 wallFleet
    { added := ["camera"], launchFailed := ["wall"] } ?_ ?_ ?_ ?_ ?_ ?_ ?_⟩
  · intro c
    rfl
  · exact ⟨rfl, fun e he => by contradiction⟩
  · decide
  · decide
  · rw [hanswers]
    exact List.mem_cons_self
  · refine ⟨by rw [Roster.get?, hcalls]; rfl, fun e he => ?_⟩
    rw [hanswers, List.mem_singleton] at he
    rw [he]
    decide
  · decide

end Station

end BroadcastLink
