import BroadcastLink.Launch

/-!
# How a launch comes out

A launch under a clock. The address it knocks at refuses, hangs and accepts as it likes, and the
command ends when it likes, if ever; the launch learns of either only by knocking. A knock gets the
answer that the address gave at some time since the knock began, and time does not pass an alarm
before it has rung. The exit of the command is looked at when a knock was refused and at no other
time, so a command that fails between two knocks is not noticed if the second one is accepted.
-/

namespace BroadcastLink

/-- What an address does with who knocks. -/
inductive Door where
  | refuses
  | hangs
  | accepts
  deriving DecidableEq, Repr

/-- What a launch meets: its address at any time, and the end of its command, if there is one. -/
structure LaunchScene where
  door : Instant → Door
  ending : Option (Instant × ExitStatus) := none

namespace LaunchScene

/-- How the command has ended by now, if it has. -/
def statusAt (scene : LaunchScene) (now : Instant) : Option ExitStatus :=
  match scene.ending with
  | some (end_, status) => if end_ ≤ now then some status else none
  | none => none

/-- When the command fails, if it does. -/
def failedAt? (scene : LaunchScene) : Option Instant :=
  match scene.ending with
  | some (end_, status) => if status.isSuccess then none else some end_
  | none => none

end LaunchScene

/-- A launch as it was ordered. -/
structure LaunchPlan where
  studio : Studio
  timeout : Duration
  interval : Duration
  begunAt : Instant

namespace LaunchPlan

def deadline (plan : LaunchPlan) : Instant := plan.timeout.after plan.begunAt

/-- The launch at a stage. -/
def launchAt (plan : LaunchPlan) (stage : LaunchStage) : Launch :=
  ⟨plan.studio, plan.timeout, plan.interval, plan.deadline, stage⟩

def exited (plan : LaunchPlan) (status : ExitStatus) : Fault :=
  .launch plan.studio.name ("process exited with " ++ status.text)

def closed (plan : LaunchPlan) : Fault :=
  .launch plan.studio.name ("port " ++ Decimal.natText plan.studio.port.toNat ++
    " not accepting after " ++ plan.timeout.text)

end LaunchPlan

/-- A launch, the clock, since when the knock is that is under way or was the last, when the exit of
the command was looked at, latest first, and how the launch came out: with a fault, or with the time
at which the address accepted. -/
structure LaunchCourse where
  launch : Launch
  now : Instant
  knockedAt : Instant
  looks : List Instant := []
  outcome : Option (Except Fault Instant) := none

/-- What happens while a launch is pending. -/
inductive LaunchOccurrence where
  | passes (later : Instant)
  /-- The knock learns what the address answered at a time. -/
  | hears (answered : Instant)
  /-- An alarm has rung. -/
  | rings
  deriving DecidableEq, Repr

namespace LaunchCourse

/-- A launch begins, unless its command cannot be started. -/
def start (plan : LaunchPlan) : Except Fault LaunchCourse :=
  (Launch.start plan.studio plan.timeout plan.interval plan.begunAt).map fun launch =>
    { launch := launch, now := plan.begunAt, knockedAt := plan.begunAt }

/-- Is a knock under way? -/
def isKnocking (c : LaunchCourse) : Bool :=
  c.launch.want = .dial c.launch.studio.host c.launch.studio.port

/-- Time does not pass an alarm, and an answer was given while the knock was under way. -/
def Admits (c : LaunchCourse) : LaunchOccurrence → Bool
  | .passes later => c.now ≤ later && c.launch.alarms.all (later ≤ ·.due)
  | .hears answered => c.isKnocking && c.knockedAt ≤ answered && answered ≤ c.now
  | .rings => c.launch.alarms.any (·.hasRung c.now)

/-- The launch goes on, or has failed. -/
def goesOn (c : LaunchCourse) : Except Fault Launch → LaunchCourse
  | .ok launch => { c with launch := launch }
  | .error fault => { c with outcome := some (.error fault) }

/-- The knock that is under way gets an answer, or none if the address hangs. -/
def hears (scene : LaunchScene) (c : LaunchCourse) (answered : Instant) : LaunchCourse :=
  match scene.door answered with
  | .hangs => c
  | .accepts => { c with outcome := some (.ok answered) }
  | .refuses =>
    { c with looks := c.now :: c.looks }.goesOn (c.launch.refused c.now (scene.statusAt c.now))

/-- An alarm rings: a pause is over and the next knock begins, or time is up. -/
def rings (c : LaunchCourse) : LaunchCourse :=
  { c with knockedAt := c.now }.goesOn (c.launch.expired c.now)

/-- What an occurrence does. -/
def undergo (scene : LaunchScene) (c : LaunchCourse) : LaunchOccurrence → LaunchCourse
  | .passes later => { c with now := later }
  | .hears answered => c.hears scene answered
  | .rings => c.rings

/-- One occurrence. What cannot happen does not, and nothing does once the launch is over. -/
def step (scene : LaunchScene) (c : LaunchCourse) (occurrence : LaunchOccurrence) : LaunchCourse :=
  if c.outcome.isNone && c.Admits occurrence then c.undergo scene occurrence else c

/-- Any number of occurrences. -/
def run (scene : LaunchScene) (c : LaunchCourse) (occurrences : List LaunchOccurrence) :
    LaunchCourse :=
  occurrences.foldl (step scene) c

/-! ## Where a launch stands -/

/-- Every look at the command was before it failed. -/
def Calm (scene : LaunchScene) (looks : List Instant) : Prop :=
  ∀ failed, scene.failedAt? = some failed → ∀ look ∈ looks, look < failed

/-- The first knock is at the start, and every other one a pause after the look before it. -/
def KnocksAfter (plan : LaunchPlan) (looks : List Instant) (knockedAt : Instant) : Prop :=
  match looks with
  | [] => knockedAt = plan.begunAt
  | look :: _ => knockedAt = plan.interval.after look

/-- A launch knocks, pauses, or is over in one of three ways. -/
inductive Stands (scene : LaunchScene) (plan : LaunchPlan) : LaunchCourse → Prop
  | knocking {now knockedAt : Instant} {looks : List Instant} (hcalm : Calm scene looks)
    (hknock : KnocksAfter plan looks knockedAt) (hbegun : plan.begunAt ≤ knockedAt)
    (hknocked : knockedAt ≤ now) (hnow : now ≤ plan.deadline) :
    Stands scene plan ⟨plan.launchAt .knocking, now, knockedAt, looks, none⟩
  | pausing {now knockedAt look : Instant} {looks : List Instant}
    (hcalm : Calm scene (look :: looks)) (hbegun : plan.begunAt ≤ look)
    (hwake : now ≤ plan.interval.after look) (hnow : now ≤ plan.deadline) :
    Stands scene plan
      ⟨plan.launchAt (.pausing (plan.interval.after look)), now, knockedAt, look :: looks, none⟩
  | ready {now knockedAt accepted : Instant} {looks : List Instant} {launch : Launch}
    (hcalm : Calm scene looks) (hknock : KnocksAfter plan looks knockedAt)
    (hbegun : plan.begunAt ≤ knockedAt) (haccepts : scene.door accepted = .accepts)
    (hafter : knockedAt ≤ accepted) (haccepted : accepted ≤ now) (hnow : now ≤ plan.deadline) :
    Stands scene plan ⟨launch, now, knockedAt, looks, some (.ok accepted)⟩
  | exited {now knockedAt : Instant} {looks : List Instant} {status : ExitStatus} {launch : Launch}
    (hstatus : scene.statusAt now = some status) (hfailed : status.isSuccess = false)
    (hnow : now ≤ plan.deadline) :
    Stands scene plan ⟨launch, now, knockedAt, looks, some (.error (plan.exited status))⟩
  | closed {knockedAt : Instant} {looks : List Instant} {launch : Launch} :
    Stands scene plan ⟨launch, plan.deadline, knockedAt, looks, some (.error plan.closed)⟩

variable {scene : LaunchScene} {plan : LaunchPlan} {c : LaunchCourse}
  {now knockedAt look : Instant} {looks : List Instant}

/-- A duration never leads back. -/
theorem le_after (d : Duration) (start : Instant) : start ≤ d.after start :=
  Nat.le_add_right start d.nanos

/-- Whoever starts later is through later. -/
theorem after_lt_after {early late : Instant} (h : early < late) (d : Duration) :
    d.after early < d.after late :=
  Nat.add_lt_add_right h d.nanos

theorem stands_start (scene : LaunchScene) {command : String}
    (hcommand : plan.studio.launchCommand = some command)
    (hspawns : Launch.obstacle? command = none) :
    ∃ c, start plan = .ok c ∧ Stands scene plan c := by
  refine ⟨⟨plan.launchAt .knocking, plan.begunAt, plan.begunAt, [], none⟩, ?_, ?_⟩
  · unfold start Launch.start
    rw [hcommand]
    dsimp only
    rw [hspawns]
    rfl
  · have hcalm : Calm scene [] := by
      intro failed _ look hlook
      contradiction
    exact .knocking hcalm rfl (Nat.le_refl _) (Nat.le_refl _) (le_after plan.timeout plan.begunAt)

/-! ## One occurrence -/

/-- A command that has not ended badly by now fails later, if at all. -/
theorem lt_failed_of_status
    (h : ∀ status, scene.statusAt now = some status → status.isSuccess = true)
    {failed : Instant} (hfailed : scene.failedAt? = some failed) : now < failed := by
  unfold LaunchScene.failedAt? at hfailed
  unfold LaunchScene.statusAt at h
  cases hending : scene.ending with
  | none =>
    rw [hending] at hfailed
    contradiction
  | some ending =>
    obtain ⟨ended, status⟩ := ending
    simp only [hending] at hfailed h
    split at hfailed
    · contradiction
    · rename_i hsuccess
      obtain rfl := Option.some.inj hfailed
      apply Nat.lt_of_not_le
      intro hle
      exact hsuccess (h status (if_pos hle))

theorem Calm.cons (h : Calm scene looks)
    (hstatus : ∀ status, scene.statusAt now = some status → status.isSuccess = true) :
    Calm scene (now :: looks) := by
  intro failed hfailed look hlook
  cases hlook with
  | head => exact lt_failed_of_status hstatus hfailed
  | tail _ hlook => exact h failed hfailed look hlook

/-- The knock learns what the address answered. When it was refused, the command is looked at now,
not at the time of the answer. -/
theorem stands_hears {answered : Instant} (hcalm : Calm scene looks)
    (hknock : KnocksAfter plan looks knockedAt) (hbegun : plan.begunAt ≤ knockedAt)
    (hafter : knockedAt ≤ answered) (hanswered : answered ≤ now) (hnow : now ≤ plan.deadline) :
    Stands scene plan
      (hears scene ⟨plan.launchAt .knocking, now, knockedAt, looks, none⟩ answered) := by
  have hknocked : knockedAt ≤ now := Nat.le_trans hafter hanswered
  have hnew : plan.begunAt ≤ now := Nat.le_trans hbegun hknocked
  unfold hears
  split
  · exact .knocking hcalm hknock hbegun hknocked hnow
  · rename_i haccepts
    exact .ready hcalm hknock hbegun haccepts hafter hanswered hnow
  · dsimp only
    unfold Launch.refused
    have hpauses (hstatus : ∀ status, scene.statusAt now = some status → status.isSuccess = true) :
        Stands scene plan ⟨plan.launchAt (.pausing (plan.interval.after now)), now, knockedAt,
          now :: looks, none⟩ :=
      .pausing (hcalm.cons hstatus) hnew (le_after plan.interval now) hnow
    -- The launch goes on unless the command has ended badly.
    cases hstatus : scene.statusAt now with
    | none =>
      apply hpauses
      intro status h
      rw [hstatus] at h
      contradiction
    | some status =>
      dsimp only
      split
      · rename_i hsuccess
        apply hpauses
        intro other h
        rw [hstatus] at h
        obtain rfl := Option.some.inj h
        exact hsuccess
      · rename_i hfailed
        exact .exited hstatus (Bool.not_eq_true _ ▸ hfailed) hnow

theorem step_of_admits (hpending : c.outcome = none) {occurrence : LaunchOccurrence}
    (hadmits : c.Admits occurrence = true) :
    c.step scene occurrence = c.undergo scene occurrence := by
  unfold step
  rw [hpending, hadmits]
  rfl

/-- A pause that is over is followed by a knock, whatever else is due. -/
theorem rings_of_woken {wakeAt : Instant} (hwoken : wakeAt ≤ now) :
    rings ⟨plan.launchAt (.pausing wakeAt), now, knockedAt, looks, none⟩ =
      ⟨plan.launchAt .knocking, now, now, looks, none⟩ := by
  have hknocks : (plan.launchAt (.pausing wakeAt)).expired now = .ok (plan.launchAt .knocking) :=
    if_pos hwoken
  rw [rings, hknocks]
  rfl

/-- At the deadline a launch is over, unless its pause is over then. -/
theorem rings_at_deadline {stage : LaunchStage}
    (hstage : ∀ wakeAt, stage = .pausing wakeAt → plan.deadline < wakeAt) :
    rings ⟨plan.launchAt stage, plan.deadline, knockedAt, looks, none⟩ =
      ⟨plan.launchAt stage, plan.deadline, plan.deadline, looks, some (.error plan.closed)⟩ := by
  have hover : (plan.launchAt stage).expired plan.deadline = .error plan.closed := by
    cases stage with
    | knocking => exact if_pos (Nat.le_refl _)
    | pausing wakeAt =>
      exact (if_neg (Nat.not_le_of_lt (hstage wakeAt rfl))).trans (if_pos (Nat.le_refl _))
  rw [rings, hover]
  rfl

/-- An alarm ends a pause, or the launch. -/
theorem Stands.rings (h : Stands scene plan c) (hpending : c.outcome = none)
    (hadmits : c.Admits .rings = true) : Stands scene plan c.rings := by
  cases h with
  | ready | exited | closed => contradiction
  | @knocking now knockedAt looks hcalm hknock hbegun hknocked hnow =>
    have hdue : plan.deadline ≤ now := by
      simpa [Admits, Launch.alarms, Alarm.hasRung, LaunchPlan.launchAt] using hadmits
    obtain rfl : now = plan.deadline := Nat.le_antisymm hnow hdue
    rw [rings_at_deadline fun _ heq => by contradiction]
    exact .closed
  | @pausing now knockedAt look looks hcalm hbegun hwake hnow =>
    by_cases hwoken : plan.interval.after look ≤ now
    · have hbefore : plan.begunAt ≤ now :=
        calc
          plan.begunAt ≤ look := hbegun
          _ ≤ plan.interval.after look := le_after plan.interval look
          _ ≤ now := hwoken
      rw [rings_of_woken hwoken]
      exact .knocking hcalm (Nat.le_antisymm hwake hwoken) hbefore (Nat.le_refl now) hnow
    · -- It is the deadline that has come, in the middle of the pause.
      have hdue : plan.deadline ≤ now := by
        simpa [Admits, Launch.alarms, Alarm.hasRung, LaunchPlan.launchAt, hwoken] using hadmits
      obtain rfl : now = plan.deadline := Nat.le_antisymm hnow hdue
      have hlater : ∀ wakeAt, LaunchStage.pausing (plan.interval.after look) = .pausing wakeAt →
          plan.deadline < wakeAt := by
        intro wakeAt heq
        rw [← LaunchStage.pausing.inj heq]
        exact Nat.lt_of_not_le hwoken
      rw [rings_at_deadline hlater]
      exact .closed

/-- Time passes up to the next alarm, and no further. -/
theorem Stands.passes (h : Stands scene plan c) (hpending : c.outcome = none) {later : Instant}
    (hadmits : c.Admits (.passes later) = true) : Stands scene plan { c with now := later } := by
  cases h with
  | ready | exited | closed => contradiction
  | @knocking now knockedAt looks hcalm hknock hbegun hknocked hnow =>
    obtain ⟨hlater, hdue⟩ : now ≤ later ∧ later ≤ plan.deadline := by
      simpa [Admits, Launch.alarms, LaunchPlan.launchAt] using hadmits
    exact .knocking hcalm hknock hbegun (Nat.le_trans hknocked hlater) hdue
  | @pausing now knockedAt look looks hcalm hbegun hwake hnow =>
    obtain ⟨-, hwake, hdue⟩ :
        now ≤ later ∧ later ≤ plan.interval.after look ∧ later ≤ plan.deadline := by
      simpa [Admits, Launch.alarms, LaunchPlan.launchAt] using hadmits
    exact .pausing hcalm hbegun hwake hdue

theorem Stands.hears (h : Stands scene plan c) (hpending : c.outcome = none) {answered : Instant}
    (hadmits : c.Admits (.hears answered) = true) :
    Stands scene plan (c.hears scene answered) := by
  cases h with
  | ready | exited | closed => contradiction
  | @knocking now knockedAt looks hcalm hknock hbegun hknocked hnow =>
    obtain ⟨⟨-, hafter⟩, hanswered⟩ :
        (_ ∧ knockedAt ≤ answered) ∧ answered ≤ now := by
      simpa only [Admits, Bool.and_eq_true, decide_eq_true_eq] using hadmits
    exact stands_hears hcalm hknock hbegun hafter hanswered hnow
  | pausing =>
    -- Nobody knocks during a pause.
    simp [Admits, isKnocking, Launch.want, LaunchPlan.launchAt] at hadmits

theorem Stands.step (h : Stands scene plan c) (occurrence : LaunchOccurrence) :
    Stands scene plan (c.step scene occurrence) := by
  unfold LaunchCourse.step
  split
  · rename_i hadmitted
    obtain ⟨hpending, hadmits⟩ := Bool.and_eq_true_iff.mp hadmitted
    replace hpending := Option.isNone_iff_eq_none.mp hpending
    cases occurrence with
    | passes later => exact h.passes hpending hadmits
    | hears answered => exact h.hears hpending hadmits
    | rings => exact h.rings hpending hadmits
  · exact h

/-! ## Any number of occurrences -/

theorem Stands.run (h : Stands scene plan c) (occurrences : List LaunchOccurrence) :
    Stands scene plan (c.run scene occurrences) := by
  induction occurrences generalizing c with
  | nil => exact h
  | cons occurrence rest ih => exact ih (h.step occurrence)

/-- Up to the deadline time may pass, if the launch does not have to go on before. -/
theorem outcome_of_silence {stage : LaunchStage}
    (hstage : ∀ wakeAt, stage = .pausing wakeAt → plan.deadline < wakeAt)
    (hnow : now ≤ plan.deadline) :
    (run scene ⟨plan.launchAt stage, now, knockedAt, looks, none⟩
      [.passes plan.deadline, .rings]).outcome = some (.error plan.closed) := by
  have hpasses : Admits ⟨plan.launchAt stage, now, knockedAt, looks, none⟩
      (.passes plan.deadline) = true := by
    cases stage with
    | knocking => simp [Admits, Launch.alarms, LaunchPlan.launchAt, hnow]
    | pausing wakeAt =>
      simp [Admits, Launch.alarms, LaunchPlan.launchAt, hnow, Nat.le_of_lt (hstage wakeAt rfl)]
  have hrings : Admits ⟨plan.launchAt stage, plan.deadline, knockedAt, looks, none⟩ .rings =
      true := by
    cases stage <;> simp [Admits, Launch.alarms, LaunchPlan.launchAt, Alarm.hasRung]
  show (step scene (step scene _ _) .rings).outcome = _
  rw [step_of_admits rfl hpasses, undergo, step_of_admits rfl hrings, undergo,
    rings_at_deadline hstage]

/-- A launch whose address answers no more fails when its time is up. -/
theorem Stands.closes (h : Stands scene plan c) (hpending : c.outcome = none) :
    ∃ rest, (∀ answered, .hears answered ∉ rest) ∧
      (c.run scene rest).outcome = some (.error plan.closed) := by
  cases h with
  | ready | exited | closed => contradiction
  | @knocking now knockedAt looks hcalm hknock hbegun hknocked hnow =>
    refine ⟨[.passes plan.deadline, .rings], by simp, ?_⟩
    apply outcome_of_silence _ hnow
    intro wakeAt heq
    contradiction
  | @pausing now knockedAt look looks hcalm hbegun hwake hnow =>
    by_cases hbefore : plan.interval.after look ≤ plan.deadline
    · -- The pause ends first; then nobody answers the knock.
      refine ⟨[.passes (plan.interval.after look), .rings] ++ [.passes plan.deadline, .rings],
        by simp, ?_⟩
      have hpasses : Admits ⟨plan.launchAt (.pausing (plan.interval.after look)), now, knockedAt,
          look :: looks, none⟩ (.passes (plan.interval.after look)) = true := by
        simp [Admits, Launch.alarms, LaunchPlan.launchAt, hwake, hbefore]
      have hrings : Admits ⟨plan.launchAt (.pausing (plan.interval.after look)),
          plan.interval.after look, knockedAt, look :: looks, none⟩ .rings = true := by
        simp [Admits, Launch.alarms, LaunchPlan.launchAt, Alarm.hasRung]
      show (LaunchCourse.run scene (LaunchCourse.step scene (LaunchCourse.step scene _ _) .rings)
        [.passes plan.deadline, .rings]).outcome = _
      rw [step_of_admits rfl hpasses, undergo, step_of_admits rfl hrings, undergo,
        rings_of_woken (Nat.le_refl _)]
      apply outcome_of_silence _ hbefore
      intro wakeAt heq
      contradiction
    · refine ⟨[.passes plan.deadline, .rings], by simp, outcome_of_silence ?_ hnow⟩
      intro wakeAt heq
      rw [← LaunchStage.pausing.inj heq]
      exact Nat.lt_of_not_le hbefore

/-! ## How it came out -/

theorem Stands.now_le (h : Stands scene plan c) : c.now ≤ plan.deadline := by
  cases h with
  | closed => exact Nat.le_refl _
  | _ => assumption

/-- A launch fails as such, because its command failed or because its time was up. -/
theorem Stands.fault {fault : Fault} (h : Stands scene plan c)
    (houtcome : c.outcome = some (.error fault)) :
    c.now = plan.deadline ∧ fault = plan.closed ∨
      ∃ status, scene.statusAt c.now = some status ∧ status.isSuccess = false ∧
        fault = plan.exited status := by
  cases h with
  | knocking | pausing | ready => cases houtcome
  | exited hstatus hfailed =>
    obtain rfl := Except.error.inj (Option.some.inj houtcome)
    exact .inr ⟨_, hstatus, hfailed, rfl⟩
  | closed =>
    obtain rfl := Except.error.inj (Option.some.inj houtcome)
    exact .inl ⟨rfl, rfl⟩

/-- The knock before a failure that no look has seen is at most a pause behind it. -/
theorem lt_after_failed {failed : Instant} (hcalm : Calm scene looks)
    (hknock : KnocksAfter plan looks knockedAt) (hfailed : scene.failedAt? = some failed) :
    knockedAt = plan.begunAt ∨ knockedAt < plan.interval.after failed := by
  cases looks with
  | nil => exact .inl hknock
  | cons look looks =>
    have hlook := hcalm failed hfailed look List.mem_cons_self
    right
    rw [show knockedAt = _ from hknock]
    exact after_lt_after hlook plan.interval

/-- A launch is never pending past its timeout, and if its address answers no more it fails then. It
fails as a launch of its studio, for one of two reasons. It succeeds only if the address accepted in
time. A command that had failed by then did so after every look at it, and less than a pause before
the knock that was accepted, unless that was the first one. -/
theorem run_comes_out_in_time (scene : LaunchScene) (plan : LaunchPlan) {command : String}
    (hcommand : plan.studio.launchCommand = some command)
    (hspawns : Launch.obstacle? command = none) :
    ∃ c, start plan = .ok c ∧ ∀ occurrences,
      (c.run scene occurrences).now ≤ plan.timeout.after plan.begunAt ∧
      ((c.run scene occurrences).outcome = none → ∃ rest, (∀ answered, .hears answered ∉ rest) ∧
        ((c.run scene occurrences).run scene rest).outcome = some (.error plan.closed)) ∧
      (∀ fault, (c.run scene occurrences).outcome = some (.error fault) →
        ∃ reason, fault = .launch plan.studio.name reason ∧
          ((c.run scene occurrences).now = plan.timeout.after plan.begunAt ∧
              reason = "port " ++ Decimal.natText plan.studio.port.toNat ++
                " not accepting after " ++ plan.timeout.text ∨
            ∃ status, scene.statusAt (c.run scene occurrences).now = some status ∧
              status.isSuccess = false ∧ reason = "process exited with " ++ status.text)) ∧
      ∀ accepted, (c.run scene occurrences).outcome = some (.ok accepted) →
        scene.door accepted = .accepts ∧ plan.begunAt ≤ (c.run scene occurrences).knockedAt ∧
        (c.run scene occurrences).knockedAt ≤ accepted ∧
        accepted ≤ plan.timeout.after plan.begunAt ∧
        ∀ failed, scene.failedAt? = some failed →
          (∀ look ∈ (c.run scene occurrences).looks, look < failed) ∧
          ((c.run scene occurrences).knockedAt = plan.begunAt ∨
            (c.run scene occurrences).knockedAt < plan.interval.after failed) := by
  obtain ⟨c, hstart, hstands⟩ := stands_start scene hcommand hspawns
  refine ⟨c, hstart, ?_⟩
  intro occurrences
  have hrun := hstands.run occurrences
  refine ⟨hrun.now_le, hrun.closes, ?_, ?_⟩
  · intro fault houtcome
    obtain ⟨hnow, rfl⟩ | ⟨status, hstatus, hfailed, rfl⟩ := hrun.fault houtcome
    · exact ⟨_, rfl, .inl ⟨hnow, rfl⟩⟩
    · exact ⟨_, rfl, .inr ⟨status, hstatus, hfailed, rfl⟩⟩
  · -- Of all ways to stand, only one is a success, and it says when the address accepted.
    intro accepted houtcome
    generalize c.run scene occurrences = d at hrun houtcome
    cases hrun with
    | knocking | pausing | exited | closed => cases houtcome
    | ready hcalm hknock hbegun haccepts hafter haccepted hnow =>
      obtain rfl := Except.ok.inj (Option.some.inj houtcome)
      refine ⟨haccepts, hbegun, hafter, Nat.le_trans haccepted hnow, ?_⟩
      intro failed hfailed
      exact ⟨hcalm failed hfailed, lt_after_failed hcalm hknock hfailed⟩

/-! The command fails early in the first pause, and somebody else opens the port later in it. -/

def overtaken : LaunchScene where
  door t := if t < (Duration.ofMillis 100).nanos then .refuses else .accepts
  ending := some ((Duration.ofMillis 10).nanos, .code 3)

def overtakenPlan : LaunchPlan where
  studio := { name := "a", host := "127.0.0.1", port := 9000, launchCommand := some "exit 3" }
  timeout := .ofMillis 500
  interval := .ofMillis 250
  begunAt := 0

def overtakenCourse : List LaunchOccurrence :=
  [.hears 0, .passes (Duration.ofMillis 250).nanos, .rings, .hears (Duration.ofMillis 250).nanos]

theorem overtaken_comes_out :
    ∃ c, start overtakenPlan = .ok c ∧
      overtaken.door (Duration.ofMillis 250).nanos = .accepts ∧
      ∀ look ∈ (c.run overtaken overtakenCourse).looks, look < (Duration.ofMillis 10).nanos := by
  obtain ⟨c, hstart, hcourse⟩ := run_comes_out_in_time overtaken overtakenPlan rfl (by decide)
  obtain ⟨-, -, -, hready⟩ := hcourse overtakenCourse
  obtain rfl := Except.ok.inj hstart
  obtain ⟨haccepts, -, -, -, hfailed⟩ := hready (Duration.ofMillis 250).nanos rfl
  exact ⟨_, hstart, haccepts, (hfailed _ rfl).1⟩

/-- Such a launch succeeds, though its command failed before the address accepted anything. -/
theorem overtaken_succeeds :
    ∃ c, start overtakenPlan = .ok c ∧
      (c.run overtaken overtakenCourse).outcome = some (.ok (Duration.ofMillis 250).nanos) ∧
      ∃ failed, overtaken.failedAt? = some failed ∧
        ∀ t, overtaken.door t = .accepts → failed < t := by
  refine ⟨_, rfl, rfl, _, rfl, fun t haccepts => ?_⟩
  by_cases hearly : t < (Duration.ofMillis 100).nanos
  · have hrefuses : overtaken.door t = .refuses := if_pos hearly
    rw [hrefuses] at haccepts
    contradiction
  · have hopening : (Duration.ofMillis 10).nanos < (Duration.ofMillis 100).nanos := by decide
    exact Nat.lt_of_lt_of_le hopening (Nat.le_of_not_lt hearly)

end LaunchCourse

end BroadcastLink
