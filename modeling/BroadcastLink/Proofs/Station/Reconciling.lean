import BroadcastLink.Proofs.Registry.Progress
import BroadcastLink.Proofs.Station.Links

/-!
# Keeping the links in line

The calls that change the set of links keep them in line with their studios, whatever else happens
and in whichever order such calls are made. The invariant speaks of the states between two pieces of
work: the names in hand are those that the call with the turn says it has in hand. Within a piece of
work they differ, and that state is described by itself.
-/

namespace BroadcastLink

/-- The names that a call has taken in hand. -/
def Job.atHand (job : Job) (phase : JobPhase) : List String :=
  match phase, job with
  | .queued, _ | .next, .configure _ | .next, .launch _ => []
  | _, .shutdown rest => rest.map (·.1)
  | _, .launch name => [name]
  | _, .configure w => w.upNext

/-- What a configuration has in hand, beyond its name: a link that is rebuilt was found elsewhere, a
studio that is launched was not linked. -/
def Reconfiguration.Underway (w : Reconfiguration) : JobPhase → Prop
  | .down _ => w.gone = [] → ∀ name studio coming, w.coming = (name, studio) :: coming →
      ∃ old, w.current.get? name = some old ∧ old.studio.sameTarget studio = false
  | .up studio => w.gone = [] ∧ w.current.get? studio.name = none ∧
      ∃ coming, w.coming = (studio.name, studio) :: coming
  | _ => True

/-- A call's work is as far as its phase says. -/
def Job.InPlan (floor : Nat) (r : Registry) (phase : JobPhase) : Job → Prop
  | .configure w => w.desired.validate = .ok () ∧ (phase ≠ .queued →
      w.Progress floor r.links ((Job.configure w).atHand phase) ∧ w.Underway phase)
  | .launch name =>
    match phase with
    | .down _ => r.desired.get? name ≠ none
    | .up studio => studio.name = name ∧ studio.validate = .ok ()
    | _ => True
  | .shutdown _ => True

/-- A queued call has not looked at the registry yet. -/
theorem Job.InPlan.queued {floor : Nat} {r r' : Registry} {job : Job}
    (h : job.InPlan floor r .queued) : job.InPlan floor r' .queued := by
  cases job with
  | configure w => exact ⟨h.1, fun hne => absurd rfl hne⟩
  | launch name => trivial
  | shutdown rest => trivial

/-- A plan speaks of the links and of the configuration in force alone. -/
theorem Job.InPlan.same {floor : Nat} {r r' : Registry} {phase : JobPhase} {job : Job}
    (h : job.InPlan floor r phase) (hlinks : r'.links = r.links)
    (hdesired : r'.desired = r.desired) : job.InPlan floor r' phase := by
  unfold InPlan
  rw [hlinks, hdesired]
  exact h

theorem Job.IsFresh.inPlan {job : Job} (h : job.IsFresh) (floor : Nat) (r : Registry) :
    job.InPlan floor r .queued := by
  cases job with
  | configure w => exact ⟨h.2, fun hne => absurd rfl hne⟩
  | launch name => trivial
  | shutdown rest => trivial

namespace Station

variable {low floor : Nat} {s₀ s s' : Station} {call : CallId} {job : Job} {phase : JobPhase}
  {stage : JobStage} {away away' : List String} {name : String} {studio : Studio} {link : Link}
  {w : Reconfiguration}

/-- The names that the call with the turn has taken in hand. -/
def atHand (s : Station) : List String :=
  match s.registry.turn.holder.bind s.work? with
  | some (job, phase) => job.atHand phase
  | none => []

theorem atHand_of_holder (hholder : s.registry.turn.holder = some call)
    (hwork : s.work? call = some (job, phase)) : s.atHand = job.atHand phase := by
  rw [atHand, hholder, Option.bind_some, hwork]

/-- As long as everybody is queued, no name is in hand. -/
theorem atHand_of_queued
    (h : ∀ call job phase, s.work? call = some (job, phase) → phase = .queued) :
    s.atHand = [] := by
  unfold atHand
  split
  · rename_i job phase hwork
    obtain ⟨call, -, hcall⟩ := Option.bind_eq_some_iff.mp hwork
    rw [h call job phase hcall]
    rfl
  · rfl

/-- What holds throughout, also within a piece of work. The generation of the next link is not below
the two given numbers. -/
structure Steady (low floor : Nat) (s : Station) : Prop where
  ground : s.Ground
  turns : s.InTurn
  desired : s.registry.desired.validate = .ok ()
  since : low ≤ s.registry.nextGeneration
  fresh : floor ≤ s.registry.nextGeneration

theorem Steady.aside (h : s.Steady low floor) (haside : Aside s s') : s'.Steady low floor := by
  refine ⟨h.ground.aside haside, h.turns.aside haside, ?_, ?_, ?_⟩ <;> rw [haside.registry]
  · exact h.desired
  · exact h.since
  · exact h.fresh

/-- The links are in line, and the calls that change them do so in turns and according to plan. -/
structure Orderly (low floor : Nat) (s : Station) : Prop extends Steady low floor s where
  inLine : s.InLine s.atHand
  plans : ∀ call job phase, s.work? call = some (job, phase) → job.InPlan floor s.registry phase

theorem Orderly.aside (h : s.Orderly low floor) (haside : Aside s s') : s'.Orderly low floor := by
  have hhand : s'.atHand = s.atHand := by
    unfold atHand
    rw [haside.registry, show s'.work? = s.work? from funext haside.work]
  refine ⟨h.toSteady.aside haside, ?_, ?_⟩
  · rw [hhand]
    exact h.inLine.aside haside
  · intro call job phase hwork
    rw [haside.work] at hwork
    rw [haside.registry]
    exact h.plans call job phase hwork

/-! ## Within a piece of work -/

/-- Between two states only the given call's work on the links went on, and no summary was given. -/
structure Elsewhere (call : CallId) (s s' : Station) : Prop where
  work : ∀ c, c ≠ call → s'.work? c = s.work? c
  summaries : ∀ c summary, (c, .summary summary) ∈ s'.answers → (c, .summary summary) ∈ s.answers

theorem Elsewhere.refl (call : CallId) (s : Station) : Elsewhere call s s :=
  ⟨fun _ _ => rfl, fun _ _ h => h⟩

theorem Elsewhere.aside (h : Elsewhere call s₀ s) (haside : Aside s s') :
    Elsewhere call s₀ s' := by
  refine ⟨?_, fun c summary hmem => h.summaries c summary (haside.summaries c summary hmem)⟩
  intro c hc
  rw [haside.work]
  exact h.work c hc

/-- The call with the turn is in the middle of a piece of work, begun in the first of the two
states. -/
structure AtWork (low floor : Nat) (call : CallId) (s₀ s : Station) (away : List String) : Prop
    extends Steady low floor s where
  holder : s.registry.turn.holder = some call
  inLine : s.InLine away
  others : ∀ c job, c ≠ call → s.work? c = some (job, .queued) →
    job.InPlan floor s.registry .queued
  elsewhere : Elsewhere call s₀ s

/-- A piece of work begins. -/
theorem Orderly.atWork (h : s.Orderly low floor) (hholder : s.registry.turn.holder = some call)
    (hwork : s.work? call = some (job, phase)) :
    AtWork low floor call s s (job.atHand phase) := by
  refine ⟨h.toSteady, hholder, ?_, ?_, .refl call s⟩
  · rw [← atHand_of_holder hholder hwork]
    exact h.inLine
  · intro c other _ hc
    exact h.plans c other .queued hc

namespace AtWork

theorem aside (h : AtWork low floor call s₀ s away) (haside : Aside s s') :
    AtWork low floor call s₀ s' away := by
  refine ⟨h.toSteady.aside haside, ?_, h.inLine.aside haside, ?_, h.elsewhere.aside haside⟩
  · rw [haside.registry]
    exact h.holder
  · intro c other hne hc
    rw [haside.work] at hc
    exact (h.others c other hne hc).queued

/-- The registry changes, the turn and the next generation apart. -/
theorem onRegistry (h : AtWork low floor call s₀ s away) {f : Registry → Registry}
    (hline : (s.onRegistry f).InLine away') (hturn : (f s.registry).turn = s.registry.turn)
    (hgeneration : (f s.registry).nextGeneration = s.registry.nextGeneration)
    (hdesired : (f s.registry).desired.validate = .ok ()) :
    AtWork low floor call s₀ (s.onRegistry f) away' := by
  have hturns : (s.onRegistry f).InTurn := h.turns.same hturn fun _ => rfl
  refine ⟨⟨h.ground.same rfl rfl, hturns, hdesired, ?_, ?_⟩, ?_, hline,
    fun c other hne hc => (h.others c other hne hc).queued,
    ⟨h.elsewhere.work, h.elsewhere.summaries⟩⟩
  · show low ≤ (f s.registry).nextGeneration
    rw [hgeneration]
    exact h.since
  · show floor ≤ (f s.registry).nextGeneration
    rw [hgeneration]
    exact h.fresh
  · show (f s.registry).turn.holder = some call
    rw [hturn]
    exact h.holder

theorem setState (h : AtWork low floor call s₀ s away) (hname : name ∈ away)
    (state : StudioState) :
    AtWork low floor call s₀ (s.onRegistry (·.setState name state)) away :=
  h.onRegistry (h.inLine.setState hname state) rfl rfl h.desired

theorem clearState (h : AtWork low floor call s₀ s (name :: away)) :
    AtWork low floor call s₀ (s.onRegistry (·.clearState name)) away :=
  h.onRegistry h.inLine.clearState rfl rfl h.desired

theorem takeAbsent (h : AtWork low floor call s₀ s [])
    (habsent : s.registry.links.get? name = none) : AtWork low floor call s₀ s [name] :=
  { h with inLine := h.inLine.takeAbsent habsent }

/-- A link is taken out, and its state says so. -/
theorem removeLink (h : AtWork low floor call s₀ s []) (name : String) (state : StudioState) :
    AtWork low floor call s₀
      (s.onRegistry fun r => (r.setState name state).removeLink name) [name] := by
  have hline := (h.inLine.removeLink name).setState (List.mem_singleton_self name) state
  exact h.onRegistry hline rfl rfl h.desired

theorem removeAll (h : AtWork low floor call s₀ s []) :
    AtWork low floor call s₀ (s.onRegistry fun r => { r with links := {} })
      ((Registry.byName s.registry.links.entries).map (·.1)) :=
  h.onRegistry h.inLine.removeAll rfl rfl h.desired

/-- A studio in hand is linked. -/
theorem insertLink (h : AtWork low floor call s₀ s [studio.name])
    (hsound : studio.validate = .ok ()) :
    AtWork low floor call s₀ (s.insertLink studio) [] := by
  have hsteady : (s.withLink studio).Steady low floor :=
    ⟨h.ground.withLink studio, h.turns.same rfl fun _ => rfl, h.desired,
      Nat.le_succ_of_le h.since, Nat.le_succ_of_le h.fresh⟩
  have hlinked : AtWork low floor call s₀ (s.withLink studio) [] :=
    ⟨hsteady, h.holder, h.inLine.withLink h.ground hsound,
      fun c other hne hc => (h.others c other hne hc).queued,
      ⟨h.elsewhere.work, h.elsewhere.summaries⟩⟩
  exact hlinked.aside (aside_insertLink s studio)

/-- A linked studio gets other bounds. -/
theorem withBounds (h : AtWork low floor call s₀ s [])
    (hlink : s.registry.links.get? name = some link) (hname : studio.name = name)
    (hsound : studio.validate = .ok ()) (htarget : link.studio.sameTarget studio = true)
    {p pool : Pool} (hp : s.pools.get? link.pool = some p)
    (hpool : pool.fixture = studio.fixture link.pool) :
    AtWork low floor call s₀ (s.withBounds name link pool studio) [] := by
  have hsteady : (s.withBounds name link pool studio).Steady low floor :=
    ⟨h.ground.withBounds hp name pool studio, h.turns.same rfl fun _ => rfl, h.desired, h.since,
      h.fresh⟩
  exact ⟨hsteady, h.holder, h.inLine.withBounds hlink hname hsound htarget hpool,
    fun c other hne hc => (h.others c other hne hc).queued,
    ⟨h.elsewhere.work, h.elsewhere.summaries⟩⟩

/-- The piece of work ends with a wait. -/
theorem putJob (h : AtWork low floor call s₀ s away) (hhand : job.atHand stage.phase = away)
    (hplan : job.InPlan floor s.registry stage.phase) :
    (s.putJob call job stage).Orderly low floor := by
  have hown : (s.putJob call job stage).work? call = some (job, stage.phase) :=
    (work_putJob s call job stage call).trans (if_pos rfl)
  have hothers : ∀ c, c ≠ call → (s.putJob call job stage).work? c = s.work? c :=
    fun c hne => (work_putJob s call job stage c).trans (if_neg hne)
  have hturns : (s.putJob call job stage).InTurn :=
    h.turns.goOn h.holder rfl hothers (hown ▸ Option.some_ne_none _)
  refine ⟨⟨h.ground.same rfl rfl, hturns, h.desired, h.since, h.fresh⟩, ?_, ?_⟩
  · rw [atHand_of_holder (s := s.putJob call job stage) h.holder hown, hhand]
    exact h.inLine.shrink (fun _ => rfl) (fun _ => rfl) rfl (fun _ _ hlink => hlink) h.inLine.live
      h.inLine.away
  · intro c other phase hc
    by_cases heq : c = call
    · rw [heq, hown] at hc
      obtain ⟨rfl, rfl⟩ := Prod.mk.inj (Option.some.inj hc)
      exact hplan
    · rw [hothers c heq] at hc
      obtain rfl := h.turns.queued h.holder heq hc
      exact h.others c other heq hc

/-- The piece of work ends the call, and the turn goes to the next one. -/
theorem finishJob (h : AtWork low floor call s₀ s []) (a : Answer) :
    (s.finishJob call a).Orderly low floor := by
  have hgiven := aside_giveUpTurn s call
  have hwork := work_finishJob s call a
  have hregistry := registry_finishJob s call a
  have hothers : ∀ c, c ≠ call → (s.finishJob call a).work? c = s.work? c :=
    fun c hne => (hwork c).trans (if_neg hne)
  have hqueued : ∀ c job phase, (s.finishJob call a).work? c = some (job, phase) →
      c ≠ call ∧ phase = .queued := by
    intro c job phase hc
    rw [hwork] at hc
    split at hc
    · contradiction
    · rename_i hne
      exact ⟨hne, h.turns.queued h.holder hne hc⟩
  have hground : (s.giveUpTurn call).Ground := by
    refine Ground.aside ?_ hgiven
    exact h.ground.same rfl rfl
  have hturns : (s.finishJob call a).InTurn := by
    refine h.turns.finish h.holder ?_ hothers ((hwork call).trans (if_pos rfl))
    rw [hregistry]
  refine ⟨⟨hground.same rfl rfl, hturns, ?_, ?_, ?_⟩, ?_, ?_⟩
  · rw [hregistry]
    exact h.desired
  · rw [hregistry]
    exact h.since
  · rw [hregistry]
    exact h.fresh
  · rw [atHand_of_queued fun c job phase hc => (hqueued c job phase hc).2]
    refine h.inLine.shrink hgiven.pools hgiven.channels ?_ ?_ ?_ ?_ <;> rw [hregistry]
    · exact fun _ _ hlink => hlink
    · exact h.inLine.live
    · exact h.inLine.away
  · intro c job phase hc
    obtain ⟨hne, rfl⟩ := hqueued c job phase hc
    rw [hothers c hne] at hc
    exact (h.others c job hne hc).queued

end AtWork

end Station

end BroadcastLink
