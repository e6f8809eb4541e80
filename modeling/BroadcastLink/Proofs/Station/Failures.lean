import BroadcastLink.Proofs.Station.Courses
import BroadcastLink.Proofs.Station.OpenPools
import BroadcastLink.Proofs.Station.Pairing

/-!
# What failures leave behind

A configuration with a flawed entry is rejected before anything happens. A launch that has nothing
to launch changes nothing, and one that fails leaves its studio absent and everything else as it
was; so does a configuration whose launch of a studio fails. As long as calls are given up with
nothing in hand, nothing runs for such a studio any more. A launch that was given up midway leaves
its channel running, and a later one that fails does not end it.
-/

namespace BroadcastLink

/-- What a call does, what it hears, and its time running out. -/
def StationHappening.isOf (call : CallId) : StationHappening → Bool
  | .event (.resume task) | .event (.hear task _) | .event (.expire task) => task = .call call
  | .event _ | .giveUp _ => false

namespace Station

variable {callers : ChannelId → Prop} {low floor : Nat} {s t : Station} {call : CallId} {job : Job}
  {phase : JobPhase} {name : String} {w : Reconfiguration} {fault : Fault}
  {happening : StationHappening} {course earlier later : List StationHappening}

/-- A call touches no pool and no channel. -/
def StandsBy (call : CallId) (s : Station) (course : List StationHappening) : Prop :=
  ∀ earlier happening later, course = earlier ++ happening :: later → happening.isOf call = true →
    ((s.live earlier).meet happening).pools = (s.live earlier).pools ∧
      ((s.live earlier).meet happening).channels = (s.live earlier).channels

/-- Nothing runs for the studio: its pools are closed, and its channels are over or, shut down by
callers, about to end. -/
structure Vacant (callers : ChannelId → Prop) (s : Station) (name : String) : Prop where
  pools : ∀ id p, s.pools.get? id = some p → p.studio = name → p.isClosed = true
  channels : ∀ id c, s.channels.get? id = some c → c.studio = name →
    c.listener = .over ∨ c.isCancelled = true ∧ callers id

/-- A launch has the turn, and at the end of the course it was given a fault. -/
structure LaunchFails (call : CallId) (name : String) (fault : Fault) (s : Station)
    (course : List StationHappening) : Prop where
  turn : s.registry.turn.holder = some call
  queued : s.work? call = some (.launch name, .queued)
  stays : s.staysAt call (.launch name) course = true
  ended : (s.live course).work? call = none
  answer : (s.live course).answers.getLast? = some (call, .fault fault)

/-- A configuration is about to deal with a studio, and at the end of the course it goes on because
the launch of that studio failed. -/
structure StartFails (call : CallId) (w : Reconfiguration) (name : String) (s : Station)
    (course : List StationHappening) : Prop where
  next : s.work? call = some (.configure w, .next)
  stays : s.staysAt call (.configure w) course = true
  goesOn : ∃ w', (s.live course).work? call = some (.configure w', .next) ∧
    w'.summary.launchFailed = w.summary.launchFailed ++ [name]

/-- The launch of a configured studio fails within the course. -/
inductive FailsToLaunch (s : Station) (course : List StationHappening) (name : String) : Prop where
  | launch {call : CallId} {fault : Fault} (hfails : LaunchFails call name fault s course)
    (hcommand : s.HasCommand name)
  | start {call : CallId} {w : Reconfiguration} (hfails : StartFails call w name s course)

/-- Failures leave the registry as it was, but for the studio that could not be launched. -/
structure FailsCleanly (s : Station) : Prop where
  /-- A configuration with a flawed entry, wherever it stands, is only answered. -/
  configures : ∀ call desired, s.IsNew call → (∃ entry ∈ desired.entries, Fleet.IsFlawed entry) →
    ∃ entry ∈ desired.entries, Fleet.IsFlawed entry ∧ ∃ reason,
      s.meet (.event (.configure call desired)) =
        s.answer call (.fault (.invalidConfig entry.1 reason))
  /-- A launch that fails has changed nothing, or has left its studio absent. -/
  launches : ∀ call name fault course, LaunchFails call name fault s course →
    LaunchEnds s (s.live course) name fault ∧ (¬ s.HasCommand name → StandsBy call s course)
  /-- A studio whose launch fails within a configuration is absent. -/
  starts : ∀ call w name course, StartFails call w name s course →
    LeftAbsent s (s.live course) name

/-! ## The last happening -/

theorem Launching.along (h : Launching call name s s) (hright : s.Rightable low floor)
    (hstays : s.staysAt call (.launch name) course = true)
    (hcourse : course = earlier ++ happening :: later) :
    Launching call name s (s.live earlier) ∧ (s.live earlier).Rightable low floor := by
  refine staysAt_induct (P := fun t => Launching call name s t ∧ t.Rightable low floor) hstays
    hcourse ⟨h, hright⟩ ?_
  rintro t happening ⟨hlaunching, hright⟩ hat
  have hstride := stride_meet hright hlaunching.holder happening
  refine ⟨(hlaunching.stride hright hstride).resolve_right fun hover => ?_,
    hright.live [happening]⟩
  rw [isAt, hover.ended] at hat
  contradiction

theorem Configuring.along (h : Configuring call w s s) (hright : s.Rightable low floor)
    (hstays : s.staysAt call (.configure w) course = true)
    (hcourse : course = earlier ++ happening :: later) :
    Configuring call w s (s.live earlier) ∧ (s.live earlier).Rightable low floor := by
  refine staysAt_induct (P := fun t => Configuring call w s t ∧ t.Rightable low floor) hstays
    hcourse ⟨h, hright⟩ ?_
  rintro t happening ⟨⟨phase, hwork, hpast, hkeeps⟩, hright⟩ hat
  have hconfiguring : Configuring call w s t := ⟨phase, hwork, hpast, hkeeps⟩
  have hstride := stride_meet hright (hright.holder hwork hpast) happening
  refine ⟨(hconfiguring.stride hright hstride).resolve_right fun hgone => ?_,
    hright.live [happening]⟩
  obtain ⟨phase', hwork'⟩ := exists_phase_of_isAt hat
  exact hgone.moved phase' hwork'

/-- Giving up other calls leaves nothing behind, as they are queued. -/
theorem givesUpEmptyHanded_of_turn (call : CallId) (hright : s.Rightable low floor)
    (hturn : ∀ earlier happening later, course = earlier ++ happening :: later →
      (s.live earlier).registry.turn.holder = some call ∧ happening ≠ .giveUp call) :
    s.givesUpEmptyHanded course = true := by
  induction course generalizing s with
  | nil => rfl
  | cons first rest ih =>
    have hrest : (s.meet first).givesUpEmptyHanded rest = true := by
      refine ih (hright.live [first]) fun earlier happening later hcourse => ?_
      exact hturn (first :: earlier) happening later (by rw [hcourse]; rfl)
    cases first with
    | event event => exact hrest
    | giveUp other =>
      obtain ⟨hholder, hne⟩ := hturn [] (.giveUp other) rest rfl
      refine Bool.and_eq_true_iff.mpr ⟨?_, hrest⟩
      cases hwork : s.work? other with
      | none =>
        unfold emptyHanded
        rw [hwork]
      | some work =>
        obtain ⟨job, phase⟩ := work
        have hother : other ≠ call := fun heq => hne (congrArg StationHappening.giveUp heq)
        obtain rfl := hright.turns.queued hholder hother hwork
        unfold emptyHanded
        rw [hwork]

/-- A call that is at its job at every happening and does not end as given up is not given up. -/
theorem ne_giveUp_of_staysAt (hstays : s.staysAt call job course = true)
    (hcourse : course = earlier ++ happening :: later) (htidy : (s.live earlier).Tidy)
    (hend : (s.live course).work? call ≠ none ∨
      (s.live course).answers.getLast? ≠ some (call, .cancelled)) :
    happening ≠ .giveUp call := by
  rintro rfl
  subst hcourse
  obtain ⟨phase, hwork⟩ := exists_phase_of_isAt (isAt_of_staysAt hstays)
  obtain ⟨hcancel, hlast⟩ := cancel_over htidy (hwork ▸ Option.some_ne_none _)
  have hover := (hcancel call).trans (if_pos rfl)
  have hlive : s.live (earlier ++ [.giveUp call]) = (s.live earlier).cancel call :=
    live_append s earlier _
  cases later with
  | nil =>
    rw [hlive] at hend
    exact hend.elim (fun hne => hne hover) fun hne => hne hlast
  | cons next rest =>
    -- The call would be over at the next happening.
    rw [List.append_cons] at hstays
    obtain ⟨phase', hwork'⟩ := exists_phase_of_isAt (isAt_of_staysAt hstays)
    rw [hlive, hover] at hwork'
    contradiction

/-- A launch without a command ends at once. -/
theorem pools_launchNext (hcommand : ¬ t.HasCommand name) :
    (t.launchNext call name).pools = t.pools ∧ (t.launchNext call name).channels = t.channels := by
  unfold launchNext
  split
  · exact pools_finishJob t call _
  · rename_i studio hdesired
    split
    · exact pools_finishJob t call _
    · rename_i hsome
      exact absurd ⟨studio, hdesired, fun hnone => hsome (Option.isNone_iff_eq_none.mpr hnone)⟩
        hcommand

/-- A launch that has yet to take its link down, and will not, touches no pool and no channel. -/
theorem pools_meet_own (hwork : t.work? call = some (.launch name, phase))
    (hphase : phase = .queued ∨ phase = .next) (hcommand : ¬ t.HasCommand name)
    (hown : happening.isOf call = true) :
    (t.meet happening).pools = t.pools ∧ (t.meet happening).channels = t.channels := by
  obtain ⟨stage, hcall, rfl⟩ := calls_of_work hwork
  have hstage : stage = .queued ∨ stage = .next := by
    cases stage with
    | queued => exact .inl rfl
    | next => exact .inr rfl
    | draining | drained | stopping | stopped | launching | launched =>
      exact hphase.elim (fun heq => by contradiction) fun heq => by contradiction
  cases happening with
  | giveUp other => contradiction
  | event event =>
    cases event with
    | resume task =>
      obtain rfl : task = .call call := of_decide_eq_true hown
      show (t.resumeCall call).pools = _ ∧ (t.resumeCall call).channels = _
      unfold resumeCall
      rw [hcall]
      rcases hstage with rfl | rfl
      · show (Station.pools (if _ then _ else _)) = _ ∧ (Station.channels (if _ then _ else _)) = _
        split <;> exact ⟨rfl, rfl⟩
      · exact pools_launchNext hcommand
    | hear task outcome =>
      obtain rfl : task = .call call := of_decide_eq_true hown
      show (t.callHears call outcome).pools = _ ∧ (t.callHears call outcome).channels = _
      unfold callHears
      rw [hcall]
      rcases hstage with rfl | rfl <;> cases outcome <;> exact ⟨rfl, rfl⟩
    | expire task =>
      obtain rfl : task = .call call := of_decide_eq_true hown
      show (t.callExpired call).pools = _ ∧ (t.callExpired call).channels = _
      unfold callExpired
      rw [hcall]
      rcases hstage with rfl | rfl <;> exact ⟨rfl, rfl⟩
    | _ => contradiction

namespace LaunchFails

theorem launching (h : LaunchFails call name fault s course) : Launching call name s s :=
  ⟨h.turn, .queued, h.queued, .refl _ _, .inl rfl⟩

/-- With the last happening the launch is over. -/
theorem launchOver (h : LaunchFails call name fault s course) (hright : s.Rightable low floor) :
    LaunchOver call name s (s.live course) := by
  obtain rfl | ⟨earlier, last, rfl⟩ := List.eq_nil_or_concat' course
  · have hover := h.queued.symm.trans h.ended
    contradiction
  · obtain ⟨hlaunching, hright'⟩ := h.launching.along hright h.stays
      (show earlier ++ [last] = earlier ++ last :: [] from rfl)
    have hstride := stride_meet hright' hlaunching.holder last
    have hlive : s.live (earlier ++ [last]) = (s.live earlier).meet last := live_append s earlier _
    have hended := h.ended
    rw [hlive] at hended ⊢
    refine (hlaunching.stride hright' hstride).resolve_left fun hlaunching' => ?_
    obtain ⟨phase, hwork, -⟩ := hlaunching'.works
    have hsome := hwork.symm.trans hended
    contradiction

/-- A launch without a command touches no pool and no channel. -/
theorem standsBy (h : LaunchFails call name fault s course) (hright : s.Rightable low floor)
    (hcommand : ¬ s.HasCommand name) : StandsBy call s course := by
  intro earlier happening later hcourse hown
  obtain ⟨⟨-, phase, hwork, hkeeps, hphase⟩, -⟩ := h.launching.along hright h.stays hcourse
  generalize s.live earlier = t at hwork hkeeps ⊢
  have hnone : ¬ t.HasCommand name := by
    rintro ⟨studio, hdesired, hsome⟩
    rw [hkeeps.desired] at hdesired
    exact hcommand ⟨studio, hdesired, hsome⟩
  refine pools_meet_own hwork ?_ hnone hown
  rcases hphase with hearly | hearly | hhas
  · exact .inl hearly
  · exact .inr hearly
  · exact absurd hhas hcommand

/-- Throughout its course the launch has the turn, and it is not given up. -/
theorem givesUpEmptyHanded (h : LaunchFails call name fault s course)
    (hright : s.Rightable low floor) : s.givesUpEmptyHanded course = true := by
  refine givesUpEmptyHanded_of_turn call hright fun earlier happening later hcourse => ?_
  obtain ⟨hlaunching, hright'⟩ := h.launching.along hright h.stays hcourse
  refine ⟨hlaunching.holder, ne_giveUp_of_staysAt h.stays hcourse hright'.tidy (.inr ?_)⟩
  rw [h.answer]
  intro heq
  have hfault := congrArg Prod.snd (Option.some.inj heq)
  contradiction

end LaunchFails

namespace StartFails

theorem configuring (h : StartFails call w name s course) : Configuring call w s s :=
  ⟨.next, h.next, fun heq => by contradiction, .refl _ _⟩

/-- A studio whose launch fails within a configuration is absent. -/
theorem leftAbsent (h : StartFails call w name s course) (hright : s.Rightable low floor) :
    LeftAbsent s (s.live course) name := by
  obtain ⟨w', hwork', hfailed⟩ := h.goesOn
  obtain rfl | ⟨earlier, last, rfl⟩ := List.eq_nil_or_concat' course
  · obtain ⟨heq, -⟩ := work_inj h.next hwork'
    obtain rfl := Job.configure.inj heq
    exact leftAbsent_of_same rfl name hfailed
  · obtain ⟨⟨phase, hwork, hpast, hkeeps⟩, hright'⟩ := h.configuring.along hright h.stays
      (show earlier ++ [last] = earlier ++ last :: [] from rfl)
    have hstride := stride_meet hright' (hright'.holder hwork hpast) last
    have hlive : s.live (earlier ++ [last]) = (s.live earlier).meet last := live_append s earlier _
    rw [hlive] at hwork' ⊢
    rcases Configuring.stride ⟨phase, hwork, hpast, hkeeps⟩ hright' hstride with
      ⟨phase', hsame, -⟩ | hgone
    · obtain ⟨heq, -⟩ := work_inj hsame hwork'
      obtain rfl := Job.configure.inj heq
      exact leftAbsent_of_same rfl name hfailed
    · exact hgone.cleanly w' name hwork' hfailed

theorem givesUpEmptyHanded (h : StartFails call w name s course)
    (hright : s.Rightable low floor) : s.givesUpEmptyHanded course = true := by
  refine givesUpEmptyHanded_of_turn call hright fun earlier happening later hcourse => ?_
  obtain ⟨⟨phase, hwork, hpast, -⟩, hright'⟩ := h.configuring.along hright h.stays hcourse
  refine ⟨hright'.holder hwork hpast, ne_giveUp_of_staysAt h.stays hcourse hright'.tidy (.inl ?_)⟩
  obtain ⟨w', hwork', -⟩ := h.goesOn
  rw [hwork']
  exact Option.some_ne_none _

end StartFails

/-! ## What runs -/

/-- A studio without a link is vacant when nobody has a pool or a channel in hand. -/
theorem vacant_of_unlinked (horderly : s.Orderly low floor) (haccounted : s.Accounted callers)
    (hsheltered : s.Sheltered) (hhands : ∀ call job phase, s.work? call = some (job, phase) →
      job.pools phase = [] ∧ job.channels phase = [])
    (hunlinked : s.registry.links.get? name = none) : s.Vacant callers name := by
  refine ⟨fun id p hp hstudio => ?_, fun id c hc hstudio => ?_⟩
  · by_contra hopen
    rcases hsheltered id ⟨p, hp, Bool.eq_false_iff.mpr hopen⟩ with
      ⟨other, link, hlink, rfl⟩ | ⟨call, job, phase, hwork, hmem⟩
    · have hlinked := horderly.inLine.linked other link hlink
      have hfixture := hlinked.pool
      rw [hp] at hfixture
      have hname : p.studio = link.studio.name :=
        congrArg Pool.Fixture.studio (Option.some.inj hfixture)
      rw [← hstudio, hname, hlinked.named, hlink] at hunlinked
      contradiction
    · rw [(hhands call job phase hwork).1] at hmem
      contradiction
  · by_cases hover : c.listener = .over
    · exact .inl hover
    · rcases haccounted.running id c hc hover with
        ⟨other, link, hlink, rfl⟩ | ⟨call, job, phase, hwork, hmem⟩ | hcancelled
      · have hname := haccounted.named other link hlink
        rw [hc] at hname
        rw [← hstudio, Option.some.inj hname, hlink] at hunlinked
        contradiction
      · rw [(hhands call job phase hwork).2] at hmem
        contradiction
      · exact .inr hcancelled

/-- A queued call has nothing in hand. -/
theorem hands_of_queued (job : Job) : job.pools .queued = [] ∧ job.channels .queued = [] := by
  cases job <;> exact ⟨rfl, rfl⟩

namespace FailsToLaunch

/-- When the launch of a studio has failed, nobody has anything in hand. -/
theorem hands (h : FailsToLaunch s course name) (hright : s.Rightable low floor) {other : CallId}
    (hwork : (s.live course).work? other = some (job, phase)) :
    job.pools phase = [] ∧ job.channels phase = [] := by
  cases h with
  | @launch call fault hfails _ =>
    have hover := hfails.launchOver hright
    have hne : other ≠ call := by
      rintro rfl
      rw [hover.ended] at hwork
      contradiction
    obtain rfl := hover.others other job phase hne hwork
    exact hands_of_queued job
  | @start call w hfails =>
    obtain ⟨w', hown, -⟩ := hfails.goesOn
    by_cases heq : other = call
    · rw [heq, hown] at hwork
      obtain ⟨rfl, rfl⟩ := Prod.mk.inj (Option.some.inj hwork)
      exact ⟨rfl, rfl⟩
    · have hlater := hright.live course
      have hholder := hlater.holder hown fun heq => by contradiction
      obtain rfl := hlater.turns.queued hholder heq hwork
      exact hands_of_queued job

/-- The studio has no link then. -/
theorem unlinked (h : FailsToLaunch s course name) (hright : s.Rightable low floor) :
    (s.live course).registry.links.get? name = none := by
  cases h with
  | launch hfails hcommand =>
    cases (hfails.launchOver hright).ends _ hfails.answer with
    | unknown hdesired _ _ =>
      obtain ⟨studio, hstudio, -⟩ := hcommand
      rw [hdesired] at hstudio
      contradiction
    | commandless hdesired hnone _ _ =>
      obtain ⟨studio, hstudio, hsome⟩ := hcommand
      rw [hdesired] at hstudio
      obtain rfl := Option.some.inj hstudio
      contradiction
    | failed _ hleft => exact hleft.unlinked
  | start hfails => exact (hfails.leftAbsent hright).unlinked

theorem givesUpEmptyHanded (h : FailsToLaunch s course name) (hright : s.Rightable low floor) :
    s.givesUpEmptyHanded course = true := by
  cases h with
  | launch hfails _ => exact hfails.givesUpEmptyHanded hright
  | start hfails => exact hfails.givesUpEmptyHanded hright

end FailsToLaunch

/-! ## Every history -/

theorem sheltered_opened (settings : RegistrySettings) : (opened settings).Sheltered := by
  rintro id ⟨p, hp, -⟩
  contradiction

/-- A configuration with a flawed entry is rejected and answered. -/
theorem meet_configure_flawed {desired : Fleet} (hnew : s.IsNew call)
    (hflawed : ∃ entry ∈ desired.entries, Fleet.IsFlawed entry) :
    ∃ entry ∈ desired.entries, Fleet.IsFlawed entry ∧ ∃ reason,
      s.meet (.event (.configure call desired)) =
        s.answer call (.fault (.invalidConfig entry.1 reason)) := by
  obtain ⟨entry, hentry, hflaw, reason, hrejected⟩ := Fleet.invalidConfig_of_flawed hflawed
  refine ⟨entry, hentry, hflaw, reason, ?_⟩
  rw [meet, perform, if_pos hnew, configure, hrejected]

/-- After every history, with whatever given up, failures leave the registry as it was, but for the
studio that could not be launched: a configuration with a flawed entry is only answered, a launch
without a command changes nothing, and a studio whose launch fails has no link and no state, while
all else in the registry stays. And if so far calls were given up only with nothing in hand, nothing
runs for such a studio any more. -/
theorem live_fails_cleanly (settings : RegistrySettings) (history : List StationHappening) :
    ((opened settings).live history).FailsCleanly ∧
      ((opened settings).givesUpEmptyHanded history = true → ∀ course name,
        FailsToLaunch ((opened settings).live history) course name →
        Vacant (ShutDownIn (history ++ course)) (((opened settings).live history).live course)
          name) := by
  have hright := (orderly_opened settings).rightable.live history
  refine ⟨⟨fun call desired hnew hflawed => meet_configure_flawed hnew hflawed, ?_,
    fun call w name course hfails => hfails.leftAbsent hright⟩, ?_⟩
  · intro call name fault course hfails
    exact ⟨(hfails.launchOver hright).ends fault hfails.answer, hfails.standsBy hright⟩
  · intro hempty course name hfails
    have hnoted : (opened settings).Noted := fun _ _ _ hwork => by contradiction
    have hall : (opened settings).givesUpEmptyHanded (history ++ course) = true := by
      rw [givesUpEmptyHanded_append, hempty, hfails.givesUpEmptyHanded hright]
      rfl
    obtain ⟨horderly, haccounted, -⟩ := live_accounted (orderly_opened settings)
      (accounted_opened (ShutDownIn (history ++ course)) settings) hnoted hall fun _ hid => hid
    have hsheltered := live_sheltered (orderly_opened settings)
      (accounted_opened (ShutDownIn (history ++ course)) settings) hnoted
      (sheltered_opened settings) hall fun _ hid => hid
    rw [live_append] at horderly haccounted hsheltered
    exact vacant_of_unlinked horderly haccounted hsheltered
      (fun _ _ _ hwork => hfails.hands hright hwork) (hfails.unlinked hright)

/-! The projector is linked and then launched anew; its link is taken down, and the command fails.
It also fails for a configuration that is to start it. Another time a launch is given up while it
waits for a session that is still in use, and when the next one fails the channel of the projector
runs on. -/

def projector : Studio where
  name := "projector"
  host := "10.0.0.7"
  port := 9000
  launchCommand := some "projector --serve"

def noFile : Fault := .launch projector.name "no such file"

def onlyProjector : Fleet := ({} : Fleet).add projector

def startedProjector : Fleet := ({} : Fleet).add { projector with autoStart := true }

def projectorLinked : List StationHappening :=
  .event (.configure 1 onlyProjector) :: List.replicate 4 (.event (.resume (.call 1)))

def relaunching : List StationHappening := projectorLinked ++ [.event (.launch 2 projector.name)]

def relaunchFailing : List StationHappening :=
  List.replicate 3 (.event (.resume (.call 2))) ++ .event (.resume (.listener 0)) ::
    List.replicate 2 (.event (.resume (.call 2))) ++
    [.event (.hear (.call 2) (.launched (some noFile))), .event (.resume (.call 2))]

def starting : List StationHappening :=
  [.event (.configure 1 startedProjector), .event (.resume (.call 1))]

def startFailing : List StationHappening :=
  [.event (.resume (.call 1)), .event (.hear (.call 1) (.launched (some noFile))),
    .event (.resume (.call 1))]

def launchGivenUp : List StationHappening :=
  projectorLinked ++ [.event (.acquire 2 0), .event (.resume (.call 2)),
    .event (.hear (.call 2) (.dialled (.ok 0))), .event (.launch 3 projector.name),
    .event (.resume (.call 3)), .event (.resume (.call 3)), .giveUp 3,
    .event (.launch 4 projector.name)]

def launchFailing : List StationHappening :=
  List.replicate 2 (.event (.resume (.call 4))) ++
    [.event (.hear (.call 4) (.launched (some noFile))), .event (.resume (.call 4))]

theorem projector_fails_cleanly :
    (LaunchEnds ((opened {}).live relaunching)
        (((opened {}).live relaunching).live relaunchFailing) projector.name noFile ∧
      Vacant (ShutDownIn (relaunching ++ relaunchFailing))
        (((opened {}).live relaunching).live relaunchFailing) projector.name) ∧
    LeftAbsent ((opened {}).live starting) (((opened {}).live starting).live startFailing)
      projector.name := by
  have hlaunch : LaunchFails 2 projector.name noFile ((opened {}).live relaunching)
      relaunchFailing := ⟨by cbv, by cbv, by cbv, by cbv, by cbv⟩
  have hcommand : ((opened {}).live relaunching).HasCommand projector.name :=
    ⟨projector, by cbv, fun heq => by contradiction⟩
  have hstart : StartFails 1
      { desired := startedProjector, coming := startedProjector.entries } projector.name
      ((opened {}).live starting) startFailing := by
    refine ⟨by cbv, by cbv, { desired := startedProjector
                              summary := { launchFailed := [projector.name] } }, by cbv, by cbv⟩
  obtain ⟨hcleanly, hvacant⟩ := live_fails_cleanly {} relaunching
  exact ⟨⟨(hcleanly.launches 2 _ _ _ hlaunch).1,
    hvacant (by cbv) relaunchFailing projector.name (.launch hlaunch hcommand)⟩,
    (live_fails_cleanly {} starting).1.starts 1 _ _ _ hstart⟩

theorem launchFailing_leaves_channel :
    LaunchFails 4 projector.name noFile ((opened {}).live launchGivenUp) launchFailing ∧
      ((opened {}).live launchGivenUp).HasCommand projector.name ∧
      ¬ Vacant (ShutDownIn (launchGivenUp ++ launchFailing))
        (((opened {}).live launchGivenUp).live launchFailing) projector.name := by
  refine ⟨⟨by cbv, by cbv, by cbv, by cbv, by cbv⟩,
    ⟨projector, by cbv, fun heq => by contradiction⟩, fun hvacant => ?_⟩
  have hchannel : ((((opened {}).live launchGivenUp).live launchFailing).channels.get? 0).map
      (fun c => (c.studio, c.isOver, c.isCancelled)) =
        some (projector.name, false, false) := by cbv
  obtain ⟨c, hc, hrunning⟩ := Option.map_eq_some_iff.mp hchannel
  obtain ⟨hstudio, hflags⟩ := Prod.mk.inj hrunning
  obtain ⟨hover, hcancelled⟩ := Prod.mk.inj hflags
  rcases hvacant.channels 0 c hc hstudio with hended | ⟨hshut, -⟩
  · exact of_decide_eq_false hover hended
  · rw [hcancelled] at hshut
    contradiction

end Station

end BroadcastLink
