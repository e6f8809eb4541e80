import BroadcastLink.Proofs.Station.GivenUp

/-!
# While a call has the turn

From the moment a call has the turn until it is over, nobody else changes what is linked, noted or
configured. So the registry stays as the call found it, but for the names that the call has in hand;
what a launch or the start of a studio leaves behind when it fails can be told from its last piece
of work alone.
-/

namespace BroadcastLink

/-- The two registries agree in all but the turn and what is linked and noted under these names. -/
structure Registry.Keeps (hand : List String) (r r' : Registry) : Prop where
  links : ∀ name, name ∉ hand → r'.links.get? name = r.links.get? name
  states : ∀ name, name ∉ hand → r'.states.get? name = r.states.get? name
  desired : r'.desired = r.desired
  generation : r'.nextGeneration = r.nextGeneration

namespace Registry

variable {hand hand' : List String} {r r' r'' : Registry}

theorem Keeps.refl (hand : List String) (r : Registry) : r.Keeps hand r :=
  ⟨fun _ _ => rfl, fun _ _ => rfl, rfl, rfl⟩

theorem Keeps.trans (h : r.Keeps hand r') (h' : r'.Keeps hand' r'')
    (hmore : ∀ name ∈ hand, name ∈ hand') : r.Keeps hand' r'' := by
  refine ⟨fun name hname => ?_, fun name hname => ?_, h'.desired.trans h.desired,
    h'.generation.trans h.generation⟩
  · exact (h'.links name hname).trans (h.links name fun hmem => hname (hmore name hmem))
  · exact (h'.states name hname).trans (h.states name fun hmem => hname (hmore name hmem))

/-- Somebody takes the turn or gives it up. -/
theorem keeps_turn (hand : List String) (r : Registry) (turn : Lock CallId) :
    r.Keeps hand { r with turn := turn } :=
  ⟨fun _ _ => rfl, fun _ _ => rfl, rfl, rfl⟩

theorem keeps_setState (r : Registry) (name : String) (state : StudioState) :
    r.Keeps [name] (r.setState name state) := by
  refine ⟨fun _ _ => rfl, fun other hother => ?_, rfl, rfl⟩
  exact (Roster.get?_put _ _ _ _).trans (if_neg fun heq => hother (List.mem_singleton.mpr heq))

theorem keeps_clearState (r : Registry) (name : String) : r.Keeps [name] (r.clearState name) := by
  refine ⟨fun _ _ => rfl, fun other hother => ?_, rfl, rfl⟩
  exact (Roster.get?_erase _ _ _).trans (if_neg fun heq => hother (List.mem_singleton.mpr heq))

theorem keeps_removeLink (r : Registry) (name : String) : r.Keeps [name] (r.removeLink name) := by
  refine ⟨fun other hother => ?_, fun _ _ => rfl, rfl, rfl⟩
  exact (Roster.get?_erase _ _ _).trans (if_neg fun heq => hother (List.mem_singleton.mpr heq))

end Registry

namespace Station

variable {low floor : Nat} {s t t' : Station} {call : CallId} {job : Job} {phase : JobPhase}
  {name : String} {studio : Studio} {link : Link} {w : Reconfiguration} {fault : Option Fault}
  {happening : StationHappening} {course earlier later : List StationHappening}

/-- A call is at one job, and as far as it is. -/
theorem work_inj {job' : Job} {phase' : JobPhase} (h : s.work? call = some (job, phase))
    (h' : s.work? call = some (job', phase')) : job = job' ∧ phase = phase' :=
  Prod.mk.inj (Option.some.inj (h.symm.trans h'))

/-! ## Courses -/

/-- Is the call at this job? -/
def isAt (s : Station) (call : CallId) (job : Job) : Bool := (s.work? call).any (·.1 = job)

/-- Is the call at this job at every happening? -/
def staysAt (s : Station) (call : CallId) (job : Job) : List StationHappening → Bool
  | [] => true
  | happening :: later => s.isAt call job && (s.meet happening).staysAt call job later

theorem exists_phase_of_isAt (h : s.isAt call job = true) :
    ∃ phase, s.work? call = some (job, phase) := by
  obtain ⟨⟨job', phase⟩, hwork, heq⟩ := (Option.any_eq_true _ _).mp h
  obtain rfl : job' = job := of_decide_eq_true heq
  exact ⟨phase, hwork⟩

theorem isAt_of_staysAt (h : s.staysAt call job (earlier ++ happening :: later) = true) :
    (s.live earlier).isAt call job = true := by
  induction earlier generalizing s with
  | nil => exact (Bool.and_eq_true_iff.mp h).1
  | cons first rest ih => exact ih (Bool.and_eq_true_iff.mp h).2

/-- What holds at the first happening, and is kept by every happening that leaves the call at its
job, holds at every happening. -/
theorem staysAt_induct {P : Station → Prop} (hstays : s.staysAt call job course = true)
    (hcourse : course = earlier ++ happening :: later) (hstart : P s)
    (hstep : ∀ t happening, P t → (t.meet happening).isAt call job = true → P (t.meet happening)) :
    P (s.live earlier) := by
  induction earlier using List.reverseRecOn generalizing happening later with
  | nil => exact hstart
  | append_singleton before last ih =>
    have hat : (s.live (before ++ [last])).isAt call job = true :=
      isAt_of_staysAt (hcourse ▸ hstays)
    rw [List.append_assoc] at hcourse
    rw [live_append] at hat ⊢
    exact hstep (s.live before) last (ih hcourse) hat

/-! ## Strides -/

/-- What a happening comes to for the call with the turn: it is apart from it, or the call begins,
does its next piece of work, goes on after a link was taken down or a studio was launched, or is
given up. -/
inductive Stride (call : CallId) (s : Station) : Station → Prop where
  | apart {s' : Station} {turn : Lock CallId} (hregistry : s'.registry = { s.registry with turn })
    (hholder : turn.holder = some call) (hwork : s'.work? call = s.work? call) : Stride call s s'
  | begins {job : Job} (hwork : s.work? call = some (job, .queued)) :
    Stride call s (s.beginJob call job)
  | next {job : Job} (hwork : s.work? call = some (job, .next)) : Stride call s (s.jobNext call job)
  | stopped {job : Job} {link : Link} (hwork : s.work? call = some (job, .down link)) :
    Stride call s (s.jobStopped call job)
  | launched {job : Job} {studio : Studio} {fault : Option Fault}
    (hwork : s.work? call = some (job, .up studio)) :
    Stride call s (s.jobLaunched call job studio fault)
  | givenUp : Stride call s (s.cancel call)

/-- Every happening is a stride of the call with the turn. -/
theorem stride_meet (h : s.Rightable low floor) (hholder : s.registry.turn.holder = some call)
    (happening : StationHappening) : Stride call s (s.meet happening) := by
  have hworks := h.turns.works hholder
  have hsame {other : CallId} {job : Job} {phase : JobPhase}
      (hother : s.work? other = some (job, phase)) (hpast : phase ≠ .queued) : other = call :=
    Option.some.inj ((h.turns.alone other job phase hother hpast).symm.trans hholder)
  cases happening with
  | event event =>
    have hadvance := advance_perform h.tidy event
    rw [meet]
    generalize s.perform event = s' at hadvance
    cases hadvance with
    | aside haside => exact .apart haside.registry hholder (haside.work call)
    | @starts other job hnew _ _ =>
      have hne : call ≠ other := by
        rintro rfl
        exact hworks (work_of_new hnew)
      have hstart := aside_startJob s other job
      refine .apart hstart.registry (Lock.holder_request hholder) ?_
      exact (hstart.work call).trans ((work_putJob _ other job .queued call).trans (if_neg hne))
    | begins hwork hturn =>
      obtain rfl := Option.some.inj ((Lock.holder_of_heldBy hturn).symm.trans hholder)
      exact .begins hwork
    | next hwork =>
      obtain rfl := hsame hwork fun heq => by contradiction
      exact .next hwork
    | stopped hwork =>
      obtain rfl := hsame hwork fun heq => by contradiction
      exact .stopped hwork
    | launched hwork =>
      obtain rfl := hsame hwork fun heq => by contradiction
      exact .launched hwork
  | giveUp other =>
    rw [meet]
    by_cases heq : other = call
    · rw [heq]
      exact .givenUp
    · cases hwork : s.work? other with
      | none =>
        have haside := aside_cancel h.tidy hwork
        exact .apart haside.registry hholder (haside.work call)
      | some work =>
        obtain ⟨s', haside, hended⟩ := exists_aside_finishJob h.tidy hwork
        rw [hended]
        have hregistry := registry_finishJob s' other .cancelled
        rw [haside.registry] at hregistry
        refine .apart hregistry (Lock.holder_giveUp_of_ne hholder (Ne.symm heq)) ?_
        exact (work_finishJob s' other _ call).trans
          ((if_neg (Ne.symm heq)).trans (haside.work call))

/-- A call that gets past its turn to wait has it. -/
theorem Rightable.holder (h : s.Rightable low floor) (hwork : s.work? call = some (job, phase))
    (hpast : phase ≠ .queued) : s.registry.turn.holder = some call :=
  h.turns.alone call job phase hwork hpast

/-- A name in hand has no link. -/
theorem Rightable.absent (h : s.Rightable low floor) (hwork : s.work? call = some (job, phase))
    (hpast : phase ≠ .queued) (hname : name ∈ job.atHand phase) :
    s.registry.links.get? name = none := by
  obtain ⟨_, ⟨states, rfl⟩, horderly⟩ := h
  exact (horderly.working (s := s.renote states) hwork hpast).inLine.away name hname

/-- The call's work is as far as its phase says. -/
theorem Rightable.plan (h : s.Rightable low floor) (hwork : s.work? call = some (job, phase)) :
    job.InPlan floor s.registry phase := by
  obtain ⟨_, ⟨states, rfl⟩, horderly⟩ := h
  exact (horderly.plans call job phase hwork).same rfl rfl

theorem getLast_finishJob (s : Station) (call : CallId) (a : Answer) :
    (s.finishJob call a).answers.getLast? = some (call, a) :=
  List.getLast?_concat

/-- A call that changes the set of links and is given up is over, and that is its answer; the others
are where they were. -/
theorem cancel_over (htidy : s.Tidy) (hwork : s.work? call ≠ none) :
    (∀ c, (s.cancel call).work? c = if c = call then none else s.work? c) ∧
      (s.cancel call).answers.getLast? = some (call, .cancelled) := by
  obtain ⟨⟨job, phase⟩, hsome⟩ := Option.ne_none_iff_exists'.mp hwork
  obtain ⟨s', haside, hended⟩ := exists_aside_finishJob htidy hsome
  rw [hended]
  refine ⟨fun c => ?_, getLast_finishJob s' call _⟩
  rw [work_finishJob, haside.work]

/-- A call ended its work with an answer, and that is all. -/
theorem keeps_finishJob {r : Registry} {hand : List String} (h : r.Keeps hand t.registry)
    (call : CallId) (a : Answer) : r.Keeps hand (t.finishJob call a).registry := by
  rw [registry_finishJob]
  exact h.trans (t.registry.keeps_turn hand _) fun _ hname => hname

/-- The name has no link and stands nowhere, and the rest of the registry is as it was. -/
structure LeftAbsent (s s' : Station) (name : String) : Prop where
  keeps : s.registry.Keeps [name] s'.registry
  unlinked : s'.registry.links.get? name = none
  nowhere : s'.registry.states.get? name = none

/-- The state of a name without a link is cleared. -/
theorem leftAbsent_clearState (hkeeps : s.registry.Keeps [name] t.registry)
    (habsent : t.registry.links.get? name = none) :
    LeftAbsent s (t.onRegistry (·.clearState name)) name :=
  ⟨hkeeps.trans (t.registry.keeps_clearState name) fun _ hmem => hmem, habsent,
    (Roster.get?_erase _ _ _).trans (if_pos rfl)⟩

/-! ## A launch -/

/-- The studio is configured, with a command to launch it. -/
def HasCommand (s : Station) (name : String) : Prop :=
  ∃ studio, s.registry.desired.get? name = some studio ∧ studio.launchCommand ≠ none

/-- How a launch ends that fails: the studio is not configured, or without a command, and nothing
changed; or its link was taken down and the command failed, and the studio is absent. -/
inductive LaunchEnds (s s' : Station) (name : String) (fault : Fault) : Prop where
  | unknown (hdesired : s.registry.desired.get? name = none)
    (hfault : fault = .unknownStudio name) (hkeeps : s.registry.Keeps [] s'.registry)
  | commandless {studio : Studio} (hdesired : s.registry.desired.get? name = some studio)
    (hcommand : studio.launchCommand = none) (hfault : fault = .noLaunchCommand name)
    (hkeeps : s.registry.Keeps [] s'.registry)
  | failed (hcommand : s.HasCommand name) (hleft : LeftAbsent s s' name)

/-- A launch that has the turn, and what it changed since the first of the two stations. Once it is
past looking at the configuration, there is a command. -/
structure Launching (call : CallId) (name : String) (s t : Station) : Prop where
  holder : t.registry.turn.holder = some call
  works : ∃ phase, t.work? call = some (.launch name, phase) ∧
    s.registry.Keeps ((Job.launch name).atHand phase) t.registry ∧
    (phase = .queued ∨ phase = .next ∨ s.HasCommand name)

/-- A launch is over, and nobody else has begun; if it was given a fault, it ended in one of the
ways. -/
structure LaunchOver (call : CallId) (name : String) (s t : Station) : Prop where
  ended : t.work? call = none
  others : t.OthersQueued call
  ends : ∀ fault, t.answers.getLast? = some (call, .fault fault) → LaunchEnds s t name fault

theorem launchOver_finishJob {a : Answer} (hothers : t.OthersQueued call)
    (h : ∀ fault, a = .fault fault → LaunchEnds s (t.finishJob call a) name fault) :
    LaunchOver call name s (t.finishJob call a) := by
  have hwork := work_finishJob t call a
  refine ⟨(hwork call).trans (if_pos rfl), fun c job phase hne hc => ?_, fun fault hlast => ?_⟩
  · rw [hwork, if_neg hne] at hc
    exact hothers c job phase hne hc
  · rw [getLast_finishJob] at hlast
    exact h fault (Prod.mk.inj (Option.some.inj hlast)).2

/-- A launch comes to a wait. -/
theorem launching_putJob (stage : JobStage) (hholder : t.registry.turn.holder = some call)
    (hkeeps : s.registry.Keeps ((Job.launch name).atHand stage.phase) t.registry)
    (hphase : stage.phase = .queued ∨ stage.phase = .next ∨ s.HasCommand name) :
    Launching call name s (t.putJob call (.launch name) stage) :=
  ⟨hholder, stage.phase, (work_putJob t call _ stage call).trans (if_pos rfl), hkeeps, hphase⟩

theorem Launching.aside (h : Launching call name s t) (haside : Aside t t') :
    Launching call name s t' := by
  obtain ⟨phase, hwork, hkeeps, hphase⟩ := h.works
  refine ⟨?_, phase, (haside.work call).trans hwork, ?_, hphase⟩ <;> rw [haside.registry]
  · exact h.holder
  · exact hkeeps

/-- A launch sees what there is to do. -/
theorem launchNext_ends (htidy : t.Tidy) (hothers : t.OthersQueued call)
    (hholder : t.registry.turn.holder = some call) (hkeeps : s.registry.Keeps [] t.registry) :
    Launching call name s (t.launchNext call name) ∨
      LaunchOver call name s (t.launchNext call name) := by
  have hmore {r : Registry} (h : t.registry.Keeps [name] r) : s.registry.Keeps [name] r :=
    hkeeps.trans h fun _ hname => by contradiction
  unfold launchNext
  rw [hkeeps.desired]
  split
  · rename_i hdesired
    refine .inr (launchOver_finishJob hothers fun fault heq => ?_)
    exact .unknown hdesired (Answer.fault.inj heq).symm (keeps_finishJob hkeeps call _)
  · rename_i studio hdesired
    split
    · rename_i hcommand
      refine .inr (launchOver_finishJob hothers fun fault heq => ?_)
      exact .commandless hdesired (Option.isNone_iff_eq_none.mp hcommand)
        (Answer.fault.inj heq).symm (keeps_finishJob hkeeps call _)
    · rename_i hcommand
      have hhas : s.HasCommand name :=
        ⟨studio, hdesired, fun hnone => hcommand (Option.isNone_iff_eq_none.mpr hnone)⟩
      split
      · rename_i link _
        have hremoved := (t.registry.keeps_removeLink name).trans
          (Registry.keeps_setState _ name .reconfiguring) fun _ hname => hname
        have hput := launching_putJob
          (t := t.onRegistry fun r => (r.removeLink name).setState name .reconfiguring)
          (.draining link) hholder (hmore hremoved) (.inr (.inr hhas))
        have haside := aside_takeDown
          (s := t.onRegistry fun r => (r.removeLink name).setState name .reconfiguring) htidy call
          (.launch name) link
        exact .inl (hput.aside haside)
      · exact .inl (launching_putJob (t := t.onRegistry (·.setState name .starting))
          (.launching studio) hholder (hmore (t.registry.keeps_setState name .starting))
          (.inr (.inr hhas)))

/-- The link of the studio was taken down. -/
theorem launchStopped_ends (hholder : t.registry.turn.holder = some call)
    (hkeeps : s.registry.Keeps [name] t.registry) (hhas : s.HasCommand name) :
    Launching call name s (t.launchStopped call name) := by
  obtain ⟨studio, hdesired, hcommand⟩ := hhas
  unfold launchStopped
  rw [hkeeps.desired, hdesired]
  exact launching_putJob (t := t.onRegistry (·.setState name .starting)) (.launching studio) hholder
    (hkeeps.trans (t.registry.keeps_setState name .starting) fun _ hname => hname)
    (.inr (.inr ⟨studio, hdesired, hcommand⟩))

/-- The studio was launched, or its launch failed. -/
theorem launchLaunched_ends (hothers : t.OthersQueued call)
    (hkeeps : s.registry.Keeps [name] t.registry) (habsent : t.registry.links.get? name = none)
    (hhas : s.HasCommand name) (studio : Studio) (fault : Option Fault) :
    LaunchOver call name s (t.launchLaunched call name studio fault) := by
  cases fault with
  | none => exact launchOver_finishJob (hothers.insertLink studio) fun fault heq => by contradiction
  | some fault =>
    refine launchOver_finishJob (hothers.onRegistry _) fun _ _ => .failed hhas ?_
    have hleft := leftAbsent_clearState hkeeps habsent
    have hregistry := registry_finishJob (t.onRegistry (·.clearState name)) call (.fault fault)
    refine ⟨keeps_finishJob hleft.keeps call _, ?_, ?_⟩ <;> rw [hregistry]
    · exact hleft.unlinked
    · exact hleft.nowhere

/-- Every stride of a launch leaves it at work, or it is over. -/
theorem Launching.stride (h : Launching call name s t) (hright : t.Rightable low floor)
    (hstride : Stride call t t') : Launching call name s t' ∨ LaunchOver call name s t' := by
  obtain ⟨phase, hwork, hkeeps, hphase⟩ := h.works
  have hothers : t.OthersQueued call := fun _ _ _ hne hc => hright.turns.queued h.holder hne hc
  cases hstride with
  | apart hregistry hholder hsame =>
    refine .inl ⟨?_, phase, hsame.trans hwork, ?_, hphase⟩ <;> rw [hregistry]
    · exact hholder
    · exact hkeeps.trans (t.registry.keeps_turn _ _) fun _ hname => hname
  | begins hother =>
    obtain ⟨rfl, rfl⟩ := work_inj hother hwork
    exact .inl (launching_putJob .next h.holder hkeeps (.inr (.inl rfl)))
  | next hother =>
    obtain ⟨rfl, rfl⟩ := work_inj hother hwork
    exact launchNext_ends hright.tidy hothers h.holder hkeeps
  | stopped hother =>
    obtain ⟨rfl, rfl⟩ := work_inj hother hwork
    obtain hearly | hearly | hhas := hphase
    · contradiction
    · contradiction
    · exact .inl (launchStopped_ends h.holder hkeeps hhas)
  | launched hother =>
    obtain ⟨rfl, rfl⟩ := work_inj hother hwork
    have habsent := hright.absent hwork (fun heq => by contradiction) List.mem_cons_self
    obtain hearly | hearly | hhas := hphase
    · contradiction
    · contradiction
    · exact .inr (launchLaunched_ends hothers hkeeps habsent hhas _ _)
  | givenUp =>
    obtain ⟨hcancel, hlast⟩ := cancel_over hright.tidy (hwork ▸ Option.some_ne_none _)
    refine .inr ⟨(hcancel call).trans (if_pos rfl), fun c job phase hne hc => ?_,
      fun fault hfault => ?_⟩
    · rw [hcancel, if_neg hne] at hc
      exact hothers c job phase hne hc
    · have heq := congrArg Prod.snd (Option.some.inj (hlast.symm.trans hfault))
      contradiction

/-! ## The start of a studio in a configuration -/

/-- A configuration that is past waiting for its turn, and what it changed since the first of the
two stations. -/
def Configuring (call : CallId) (w : Reconfiguration) (s t : Station) : Prop :=
  ∃ phase, t.work? call = some (.configure w, phase) ∧ phase ≠ .queued ∧
    s.registry.Keeps ((Job.configure w).atHand phase) t.registry

/-- A configuration has gone on, or is over. If it went on because the launch of a studio failed,
that studio is absent. -/
structure GoneOn (call : CallId) (w : Reconfiguration) (s t : Station) : Prop where
  moved : ∀ phase, t.work? call ≠ some (.configure w, phase)
  cleanly : ∀ w' name, t.work? call = some (.configure w', .next) →
    w'.summary.launchFailed = w.summary.launchFailed ++ [name] → LeftAbsent s t name

theorem goneOn_of_over (hover : t.work? call = none) : GoneOn call w s t := by
  refine ⟨fun phase hwork => ?_, fun w' name hwork => ?_⟩ <;>
  · rw [hover] at hwork
    contradiction

/-- A configuration comes to its next studio, or to the next link that is to go. -/
theorem goneOn_putJob {w' : Reconfiguration}
    (hmoved : (∃ first, w.gone = first :: w'.gone) ∨ ∃ first, w.coming = first :: w'.coming)
    (hfailed : ∀ name, w'.summary.launchFailed = w.summary.launchFailed ++ [name] →
      LeftAbsent s t name) : GoneOn call w s (t.putJob call (.configure w') .next) := by
  have hown : (t.putJob call (.configure w') .next).work? call = some (.configure w', .next) :=
    (work_putJob t call _ .next call).trans (if_pos rfl)
  refine ⟨fun phase hwork => ?_, fun w'' name hwork hlonger => ?_⟩
  · obtain ⟨heq, -⟩ := work_inj hown hwork
    obtain rfl := Job.configure.inj heq
    rcases hmoved with ⟨first, hgone⟩ | ⟨first, hcoming⟩
    · exact List.cons_ne_self _ _ hgone.symm
    · exact List.cons_ne_self _ _ hcoming.symm
  · obtain ⟨heq, -⟩ := work_inj hown hwork
    obtain rfl := Job.configure.inj heq
    have hleft := hfailed name hlonger
    exact ⟨hleft.keeps, hleft.unlinked, hleft.nowhere⟩

/-- No launch failed. -/
theorem leftAbsent_of_same {failed failed' : List String} (hsame : failed' = failed) :
    ∀ name, failed' = failed ++ [name] → LeftAbsent s t name := by
  intro name hlonger
  have hlength := congrArg List.length (hsame.symm.trans hlonger)
  rw [List.length_append, List.length_singleton] at hlength
  omega

theorem configuring_putJob (stage : JobStage) (hphase : stage.phase ≠ .queued)
    (hkeeps : s.registry.Keeps ((Job.configure w).atHand stage.phase) t.registry) :
    Configuring call w s (t.putJob call (.configure w) stage) :=
  ⟨stage.phase, (work_putJob t call _ stage call).trans (if_pos rfl), hphase, hkeeps⟩

/-- A configuration takes a link down. -/
theorem configuring_takeDown (htidy : t.Tidy) (hkeeps : s.registry.Keeps [] t.registry)
    (hnext : w.upNext = [name]) (link : Link) :
    Configuring call w s
      ((t.onRegistry fun r => (r.setState name .reconfiguring).removeLink name).takeDown call
        (.configure w) link) := by
  have hremoved := (t.registry.keeps_setState name .reconfiguring).trans
    (Registry.keeps_removeLink _ name) fun _ hmem => hmem
  have haside := aside_takeDown
    (s := t.onRegistry fun r => (r.setState name .reconfiguring).removeLink name) htidy call
    (.configure w) link
  refine ⟨.down link, ?_, fun heq => by contradiction, ?_⟩
  · exact (haside.work call).trans ((work_putJob _ call _ _ call).trans (if_pos rfl))
  · rw [haside.registry]
    show s.registry.Keeps w.upNext _
    rw [hnext]
    exact hkeeps.trans hremoved fun _ hmem => by contradiction

/-- The next piece of work of a configuration. -/
theorem configureNext_goes (hright : t.Rightable low floor)
    (hwork : t.work? call = some (.configure w, .next)) (hkeeps : s.registry.Keeps [] t.registry) :
    Configuring call w s (t.configureNext call w) ∨ GoneOn call w s (t.configureNext call w) := by
  obtain ⟨hsound, hplan⟩ := hright.plan hwork
  obtain ⟨hprogress, -⟩ := hplan fun heq => by contradiction
  cases hgone : w.gone with
  | cons first gone =>
    unfold configureNext
    simp only [hgone]
    exact .inl (configuring_takeDown hright.tidy hkeeps (upNext_of_gone hgone) _)
  | nil =>
    cases hcoming : w.coming with
    | nil =>
      rw [configureNext_of_done t call hgone hcoming]
      exact .inr (goneOn_of_over ((work_finishJob _ call _ call).trans (if_pos rfl)))
    | cons first coming =>
      obtain ⟨name, studio⟩ := first
      have hnext := upNext_of_coming hgone hcoming
      unfold configureNext
      simp only [hgone, hcoming]
      split
      · split
        · exact .inr (goneOn_putJob (.inr ⟨_, hcoming⟩) (leftAbsent_of_same rfl))
        · split
          · exact .inr (goneOn_putJob (.inr ⟨_, hcoming⟩) (leftAbsent_of_same rfl))
          · exact .inl (configuring_takeDown hright.tidy hkeeps hnext _)
      · split
        · -- The studio stands under its name, so what is noted is noted under the name in hand.
          obtain ⟨hwanted, -⟩ := hprogress.coming name studio (hcoming ▸ List.mem_cons_self)
          obtain ⟨rfl, -⟩ := Fleet.sound_of_validate hsound hwanted
          refine .inl (configuring_putJob (t := t.onRegistry (·.setState studio.name .starting))
            (.launching studio) (fun heq => by contradiction) ?_)
          show s.registry.Keeps w.upNext _
          rw [hnext]
          exact hkeeps.trans (t.registry.keeps_setState studio.name .starting)
            fun _ hmem => by contradiction
        · exact .inr (goneOn_putJob (.inr ⟨_, hcoming⟩) (leftAbsent_of_same rfl))

/-- A link was taken down for a configuration. -/
theorem configureStopped_goes (hkeeps : s.registry.Keeps w.upNext t.registry) :
    Configuring call w s (t.configureStopped call w) ∨
      GoneOn call w s (t.configureStopped call w) := by
  unfold configureStopped
  split
  · rename_i hgone
    exact .inr (goneOn_putJob (.inl ⟨_, hgone⟩) (leftAbsent_of_same rfl))
  · rename_i hcoming
    exact .inr (goneOn_putJob (.inr ⟨_, hcoming⟩) (leftAbsent_of_same rfl))
  · rename_i hgone hcoming
    have hnext : w.upNext = [] := by rw [Reconfiguration.upNext, hgone, hcoming]; rfl
    rw [hnext] at hkeeps
    exact .inl (configuring_putJob .next (fun heq => by contradiction) hkeeps)

/-- A studio was launched for a configuration, or its launch failed. -/
theorem configureLaunched_goes (hright : t.Rightable low floor)
    (hwork : t.work? call = some (.configure w, .up studio))
    (hkeeps : s.registry.Keeps w.upNext t.registry) (fault : Option Fault) :
    GoneOn call w s (t.configureLaunched call w studio fault) := by
  obtain ⟨-, hplan⟩ := hright.plan hwork
  obtain ⟨-, hgone, -, coming, hcoming⟩ := hplan fun heq => by contradiction
  have hmoved : w.coming = (studio.name, studio) :: w.coming.tail := by rw [hcoming]; rfl
  cases fault with
  | none => exact goneOn_putJob (.inr ⟨_, hmoved⟩) (leftAbsent_of_same rfl)
  | some fault =>
    refine goneOn_putJob (.inr ⟨_, hmoved⟩) fun name hlonger => ?_
    have hnext := upNext_of_coming hgone hcoming
    have hmem : studio.name ∈ (Job.configure w).atHand (.up studio) := by
      show studio.name ∈ w.upNext
      rw [hnext]
      exact List.mem_cons_self
    have habsent := hright.absent hwork (fun heq => by contradiction) hmem
    rw [hnext] at hkeeps
    simp only [hcoming] at hlonger
    obtain rfl := List.singleton_injective (List.append_cancel_left hlonger)
    exact leftAbsent_clearState hkeeps habsent

/-- Every stride of a configuration leaves it at what it is at, or it has gone on. -/
theorem Configuring.stride (h : Configuring call w s t) (hright : t.Rightable low floor)
    (hstride : Stride call t t') : Configuring call w s t' ∨ GoneOn call w s t' := by
  obtain ⟨phase, hwork, hpast, hkeeps⟩ := h
  cases hstride with
  | apart hregistry _ hsame =>
    refine .inl ⟨phase, hsame.trans hwork, hpast, ?_⟩
    rw [hregistry]
    exact hkeeps.trans (t.registry.keeps_turn _ _) fun _ hname => hname
  | begins hother =>
    obtain ⟨rfl, rfl⟩ := work_inj hother hwork
    contradiction
  | next hother =>
    obtain ⟨rfl, rfl⟩ := work_inj hother hwork
    exact configureNext_goes hright hwork hkeeps
  | stopped hother =>
    obtain ⟨rfl, rfl⟩ := work_inj hother hwork
    exact configureStopped_goes hkeeps
  | launched hother =>
    obtain ⟨rfl, rfl⟩ := work_inj hother hwork
    exact .inr (configureLaunched_goes hright hwork hkeeps _)
  | givenUp =>
    have hcancel := (cancel_over hright.tidy (hwork ▸ Option.some_ne_none _)).1 call
    exact .inr (goneOn_of_over (hcancel.trans (if_pos rfl)))

end Station

end BroadcastLink
