import BroadcastLink.Proofs.Station.Accounting
import BroadcastLink.Proofs.Station.Convergence
import BroadcastLink.Proofs.Station.Noted

/-!
# Giving up a change of the links

Callers may give up any call, also one that changes the set of links. As long as it is given up with
nothing in hand, while it waits for its turn or between two pieces of work, nothing is left behind:
between such calls exactly the linked studios have a state, all of them are live, and every channel
that is running belongs to a link. A call that is given up while it takes a link down or launches a
studio leaves the state of that studio as it stands, and the channel running.
-/

namespace BroadcastLink

/-- What happens to a station whose callers may give up any call. -/
inductive StationHappening where
  | event (event : StationEvent)
  | giveUp (call : CallId)

namespace Station

variable {callers : ChannelId → Prop} {low floor : Nat} {s s' : Station} {call : CallId}
  {job : Job} {phase : JobPhase} {stage : JobStage}

/-- One happening. -/
def meet (s : Station) : StationHappening → Station
  | .event event => s.perform event
  | .giveUp call => s.cancel call

/-- Any number of happenings. -/
def live (s : Station) (history : List StationHappening) : Station := history.foldl meet s

/-- Has a call nothing in hand? It waits for its turn, or it is between two pieces of work and has
taken out no links. -/
def emptyHanded (s : Station) (call : CallId) : Bool :=
  match s.work? call with
  | none | some (_, .queued) => true
  | some (job, .next) => (job.atHand .next).isEmpty
  | some _ => false

/-- Is every call that is given up given up with nothing in hand? -/
def givesUpEmptyHanded (s : Station) : List StationHappening → Bool
  | [] => true
  | .event event :: later => (s.perform event).givesUpEmptyHanded later
  | .giveUp call :: later => s.emptyHanded call && (s.cancel call).givesUpEmptyHanded later

theorem live_append (s : Station) (earlier later : List StationHappening) :
    s.live (earlier ++ later) = (s.live earlier).live later :=
  List.foldl_append

theorem givesUpEmptyHanded_append (s : Station) (earlier later : List StationHappening) :
    s.givesUpEmptyHanded (earlier ++ later) =
      (s.givesUpEmptyHanded earlier && (s.live earlier).givesUpEmptyHanded later) := by
  induction earlier generalizing s with
  | nil => rfl
  | cons happening rest ih =>
    cases happening with
    | event event => exact ih (s.perform event)
    | giveUp call =>
      show (_ && (s.cancel call).givesUpEmptyHanded (rest ++ later)) = _
      rw [ih, ← Bool.and_assoc]
      rfl

/-- Callers shut the channel down themselves at some time in a history. -/
def ShutDownIn (history : List StationHappening) (id : ChannelId) : Prop :=
  ∃ call, .event (.stop call id) ∈ history

/-- Nothing is left behind by the calls that change the set of links. -/
structure OrphanFree (callers : ChannelId → Prop) (s : Station) : Prop where
  /-- No studio ever has two channels running. -/
  single : s.Single callers
  /-- Between such calls exactly the linked studios have a state, and they are live. -/
  states : (∀ call, s.work? call = none) → ∀ name,
    s.registry.states.get? name = if s.registry.links.has name then some .live else none
  /-- Between such calls every running channel belongs to a link, or callers have shut it down, and
  it ends as well. -/
  running : (∀ call, s.work? call = none) → ∀ id c, s.channels.get? id = some c →
    c.listener ≠ .over → s.IsLinked id ∨ c.isCancelled = true ∧ callers id

/-! ## Leaving the line -/

/-- A call that does not have the turn leaves the line. -/
theorem InTurn.leave (h : s.InTurn) (hholder : s.registry.turn.holder ≠ some call)
    (hturn : s'.registry.turn = (s.registry.turn.giveUp call).1)
    (hwork : ∀ c, s'.work? c = if c = call then none else s.work? c) : s'.InTurn := by
  refine ⟨?_, ?_, ?_⟩
  · intro c
    rw [hturn, Lock.mem_users_giveUp h.once, hwork, h.users c]
    split
    · rename_i heq
      exact iff_of_false (fun hmem => hmem.2 heq) fun hne => hne rfl
    · rename_i hne
      exact and_iff_left hne
  · rw [hturn]
    exact Lock.nodup_users_giveUp h.once
  · intro c job phase hc hphase
    rw [hwork] at hc
    split at hc
    · contradiction
    · rw [hturn, Lock.giveUp_of_not_held hholder]
      exact h.alone c job phase hc hphase

/-- A call that does not have the turn may be over. -/
theorem Orderly.leave (h : s.Orderly low floor) (hholder : s.registry.turn.holder ≠ some call)
    (a : Answer) : (s.finishJob call a).Orderly low floor := by
  have hwork := work_finishJob s call a
  have hregistry := registry_finishJob s call a
  have hgiven := aside_giveUpTurn s call
  have hground : (s.giveUpTurn call).Ground := by
    refine Ground.aside ?_ hgiven
    exact h.ground.same rfl rfl
  have hhand : (s.finishJob call a).atHand = s.atHand := by
    unfold atHand
    rw [hregistry, Lock.giveUp_of_not_held hholder]
    cases hheld : s.registry.turn.holder with
    | none => rfl
    | some other =>
      have hne : other ≠ call := fun heq => hholder (heq ▸ hheld)
      rw [Option.bind_some, Option.bind_some, hwork, if_neg hne]
  refine ⟨⟨hground.same rfl rfl, h.turns.leave hholder ?_ hwork, ?_, ?_, ?_⟩, ?_, ?_⟩
  · rw [hregistry]
  · rw [hregistry]
    exact h.desired
  · rw [hregistry]
    exact h.since
  · rw [hregistry]
    exact h.fresh
  · rw [hhand]
    refine h.inLine.shrink hgiven.pools hgiven.channels ?_ ?_ ?_ ?_ <;> rw [hregistry]
    · exact fun _ _ hlink => hlink
    · exact h.inLine.live
    · exact h.inLine.away
  · intro c job phase hc
    rw [hwork] at hc
    split at hc
    · contradiction
    · exact (h.plans c job phase hc).same (by rw [hregistry]) (by rw [hregistry])

/-! ## Giving up -/

/-- A call with nothing in hand waits for its turn, or it has the turn and is between two pieces of
work. -/
theorem phase_of_emptyHanded (hempty : s.emptyHanded call = true)
    (hwork : s.work? call = some (job, phase)) :
    (phase = .queued ∨ phase = .next) ∧ job.atHand phase = [] ∧ job.channels phase = [] := by
  rw [emptyHanded, hwork] at hempty
  cases phase with
  | queued => exact ⟨.inl rfl, rfl, rfl⟩
  | next =>
    have hhand : job.atHand .next = [] := List.isEmpty_iff.mp hempty
    refine ⟨.inr rfl, hhand, ?_⟩
    cases job with
    | configure w => rfl
    | launch name => rfl
    | shutdown rest =>
      obtain rfl : rest = [] := List.map_eq_nil_iff.mp hhand
      rfl
  | down link => contradiction
  | up studio => contradiction

/-- Giving up a call with nothing in hand comes down to ending it. -/
theorem cancel_eq_finishJob (hempty : s.emptyHanded call = true)
    (hwork : s.work? call = some (job, phase)) : s.cancel call = s.finishJob call .cancelled := by
  obtain ⟨stage, hcall, rfl⟩ := calls_of_work hwork
  rw [cancel, hcall]
  have hphase := (phase_of_emptyHanded hempty hwork).1
  cases stage with
  | queued => rfl
  | next => rfl
  | draining | drained | stopping | stopped | launching | launched =>
    exact hphase.elim (fun heq => by contradiction) fun heq => by contradiction

theorem Orderly.giveUp (h : s.Orderly low floor) (hempty : s.emptyHanded call = true) :
    (s.cancel call).Orderly low floor := by
  cases hwork : s.work? call with
  | none => exact h.aside (aside_cancel h.ground.tidy hwork)
  | some work =>
    obtain ⟨job, phase⟩ := work
    rw [cancel_eq_finishJob hempty hwork]
    by_cases hholder : s.registry.turn.holder = some call
    · have hat := h.atWork hholder hwork
      rw [(phase_of_emptyHanded hempty hwork).2.1] at hat
      exact hat.finishJob _
    · exact h.leave hholder _

theorem Accounted.giveUp (h : s.Accounted callers) (horderly : s.Orderly low floor)
    (hempty : s.emptyHanded call = true) : (s.cancel call).Accounted callers := by
  cases hwork : s.work? call with
  | none =>
    have honward : Onward callers callers s (s.cancel call) := onward_cancel h.quiet hwork
    exact h.waits (aside_cancel horderly.ground.tidy hwork) honward fun _ => .inl
  | some work =>
    obtain ⟨job, phase⟩ := work
    rw [cancel_eq_finishJob hempty hwork]
    refine h.finishJob (fun job' phase' hwork' => ?_) _
    obtain ⟨rfl, rfl⟩ := Prod.mk.inj (Option.some.inj (hwork.symm.trans hwork'))
    exact (phase_of_emptyHanded hempty hwork).2.2

theorem Noted.giveUp (h : s.Noted) (horderly : s.Orderly low floor)
    (hempty : s.emptyHanded call = true) : (s.cancel call).Noted := by
  cases hwork : s.work? call with
  | none => exact h.aside (aside_cancel horderly.ground.tidy hwork)
  | some work =>
    obtain ⟨job, phase⟩ := work
    rw [cancel_eq_finishJob hempty hwork]
    intro c job' phase' hc hphase
    rw [work_finishJob] at hc
    split at hc
    · contradiction
    · have hnoted := h c job' phase' hc hphase
      refine ⟨hnoted.something, hnoted.once, ?_⟩
      rw [registry_finishJob]
      exact hnoted.states

/-! ## With something in hand -/

/-- Giving up a call that changes the set of links comes down to what its drain or its stop leaves
aside, and to ending it. -/
theorem exists_aside_finishJob (htidy : s.Tidy) (hwork : s.work? call = some (job, phase)) :
    ∃ s', Aside s s' ∧ s.cancel call = s'.finishJob call .cancelled := by
  obtain ⟨stage, hcall, -⟩ := calls_of_work hwork
  rw [cancel, hcall]
  cases stage with
  | draining link =>
    exact ⟨_, aside_onPool htidy fun p _ => Pool.onlyCloses_cancelDrain p call, rfl⟩
  | stopping link =>
    exact ⟨_, aside_onChannel s fun c _ => Channel.target_cancelCall c call, rfl⟩
  | queued | next | drained | stopped | launching | launched => exact ⟨s, .refl s, rfl⟩

/-- Giving up a call leaves the links and the states as they are. -/
theorem registry_cancel (htidy : s.Tidy) (call : CallId) :
    (s.cancel call).registry.links = s.registry.links ∧
      (s.cancel call).registry.states = s.registry.states := by
  cases hwork : s.work? call with
  | none =>
    rw [(aside_cancel htidy hwork).registry]
    exact ⟨rfl, rfl⟩
  | some work =>
    obtain ⟨job, phase⟩ := work
    obtain ⟨s', haside, hended⟩ := exists_aside_finishJob htidy hwork
    rw [hended, registry_finishJob, haside.registry]
    exact ⟨rfl, rfl⟩

/-- Giving up the only call at work leaves none. -/
theorem work_cancel (htidy : s.Tidy) (hothers : ∀ c, c ≠ call → s.work? c = none) (c : CallId) :
    (s.cancel call).work? c = none := by
  cases hwork : s.work? call with
  | none =>
    rw [(aside_cancel htidy hwork).work]
    by_cases heq : c = call
    · rw [heq, hwork]
    · exact hothers c heq
  | some work =>
    obtain ⟨job, phase⟩ := work
    obtain ⟨s', haside, hended⟩ := exists_aside_finishJob htidy hwork
    rw [hended, work_finishJob, haside.work]
    split
    · rfl
    · rename_i hne
      exact hothers c hne

/-- A call given up with a name in hand leaves that studio with a state and without a link. -/
theorem emptyHanded_of_orphanFree (horderly : s.Orderly low floor) (hnoted : s.Noted)
    (hothers : ∀ c, c ≠ call → s.work? c = none) (h : (s.cancel call).OrphanFree callers) :
    s.emptyHanded call = true := by
  by_contra hfull
  have htidy := horderly.ground.tidy
  -- The call is at work, past being queued, and has a name in hand.
  obtain ⟨job, phase, hwork, hphase, name, hname⟩ : ∃ job phase, s.work? call = some (job, phase) ∧
      phase ≠ .queued ∧ ∃ name, name ∈ job.atHand phase := by
    unfold emptyHanded at hfull
    split at hfull
    · contradiction
    · contradiction
    · rename_i job hwork
      refine ⟨job, .next, hwork, fun heq => by contradiction,
        List.exists_mem_of_ne_nil _ fun hnil => ?_⟩
      rw [hnil] at hfull
      contradiction
    · rename_i work hqueued hnext hwork
      obtain ⟨job, phase⟩ := work
      have hpast : phase ≠ .queued := fun heq => hqueued job (by rw [heq])
      have hmore : phase ≠ .next := fun heq => hnext job (by rw [heq])
      exact ⟨job, phase, hwork, hpast,
        List.exists_mem_of_ne_nil _ ((hnoted call job phase hwork hpast).something hmore)⟩
  have hholder := horderly.turns.alone call job phase hwork hphase
  have habsent := (horderly.atWork hholder hwork).inLine.away name hname
  have hstate := h.states (work_cancel htidy hothers) name
  obtain ⟨hlinks, hstates⟩ := registry_cancel htidy call
  rw [hlinks, hstates, Roster.has, habsent] at hstate
  exact (hnoted call job phase hwork hphase).states name hname hstate

/-! ## Every history -/

theorem accounted_opened (callers : ChannelId → Prop) (settings : RegistrySettings) :
    (opened settings).Accounted callers := by
  refine ⟨?_, ?_, ?_, ?_, ?_, ?_, ?_⟩
  · intro id c hc
    contradiction
  · intro id c hc
    contradiction
  · intro id c hc
    contradiction
  · intro call job link hcall
    contradiction
  · intro name link hlink
    contradiction
  · intro id id' c c' hc
    contradiction
  · intro call job phase hcall
    contradiction

/-- Whatever happens, the links stay in line and every running channel is accounted for, as long as
calls are given up with nothing in hand. -/
theorem live_accounted (h : s.Orderly low floor) (haccounted : s.Accounted callers)
    (hnoted : s.Noted) {history : List StationHappening}
    (hempty : s.givesUpEmptyHanded history = true)
    (hcallers : ∀ id, ShutDownIn history id → callers id) :
    (s.live history).Orderly low floor ∧ (s.live history).Accounted callers ∧
      (s.live history).Noted := by
  -- The account needs the order of the links to say what a call has in hand, so they go together.
  induction history generalizing s with
  | nil => exact ⟨h, haccounted, hnoted⟩
  | cons happening later ih =>
    have hlater : ∀ id, ShutDownIn later id → callers id := by
      rintro id ⟨call, hmem⟩
      exact hcallers id ⟨call, List.mem_cons_of_mem _ hmem⟩
    cases happening with
    | event event =>
      have hadvance := advance_perform h.ground.tidy event
      refine ih (h.advance hadvance) (haccounted.perform h event fun id hid => ?_)
        (hnoted.advance h hadvance) hempty hlater
      cases event with
      | stop call channel =>
        obtain rfl := Option.some.inj hid
        exact hcallers channel ⟨call, List.mem_cons_self⟩
      | _ => contradiction
    | giveUp call =>
      obtain ⟨hnow, hrest⟩ := Bool.and_eq_true_iff.mp hempty
      exact ih (h.giveUp hnow) (haccounted.giveUp h hnow) (hnoted.giveUp h hnow) hrest hlater

/-- When no call is at work on the links, they are all in line and what runs is linked. -/
theorem Accounted.orphanFree (h : s.Accounted callers) (horderly : s.Orderly low floor) :
    s.OrphanFree callers := by
  refine ⟨h.single, ?_, ?_⟩
  · intro hidle name
    have hline := horderly.inLine
    rw [atHand_of_queued fun c job phase hc => by rw [hidle c] at hc; contradiction] at hline
    rw [hline.live name List.not_mem_nil, Roster.has]
    cases s.registry.links.get? name <;> rfl
  · intro hidle id c hc hrunning
    rcases h.running id c hc hrunning with hlinked | ⟨call, job, phase, hwork, -⟩ | hcancelled
    · exact .inl hlinked
    · rw [hidle call] at hwork
      contradiction
    · exact .inr hcancelled

/-- Giving up calls leaves nothing behind as long as they have nothing in hand. After every such
history no studio has two channels running, and while no call is at work that changes the set of
links, exactly the linked studios have a state, all of them are live, and every running channel
belongs to a link; callers may shut channels down themselves, and those are cancelled. And if a call
is the only one at work then, giving it up leaves nothing behind exactly if it has nothing in
hand. -/
theorem live_leaves_no_orphan_iff (settings : RegistrySettings) (history : List StationHappening)
    (hempty : (opened settings).givesUpEmptyHanded history = true) :
    ((opened settings).live history).OrphanFree (ShutDownIn history) ∧
      ∀ call, (∀ c, c ≠ call → ((opened settings).live history).work? c = none) →
        ((((opened settings).live history).cancel call).OrphanFree (ShutDownIn history) ↔
          ((opened settings).live history).emptyHanded call = true) := by
  obtain ⟨horderly, haccounted, hnoted⟩ := live_accounted (orderly_opened settings)
    (accounted_opened (ShutDownIn history) settings) (fun _ _ _ hwork => by contradiction) hempty
    fun _ hid => hid
  refine ⟨haccounted.orphanFree horderly, fun call hothers => ⟨?_, ?_⟩⟩
  · exact emptyHanded_of_orphanFree horderly hnoted hothers
  · intro hnow
    exact (haccounted.giveUp horderly hnow).orphanFree (horderly.giveUp hnow)

/-! A configuration is given up while it waits for its turn, and a launch before it does anything.
The next configuration is to remove the link, and waits for a session that is still in use; given up
then, it leaves the camera with a state and no link, and the camera configured once more has two
channels running. -/

def onlyCamera : Fleet := ({} : Fleet).add camera

def passedOver : List StationHappening :=
  [.event (.configure 1 onlyCamera), .event (.configure 2 {}), .event (.resume (.call 1)),
    .event (.resume (.call 1)), .giveUp 2, .event (.resume (.call 1)),
    .event (.launch 3 camera.name), .event (.resume (.call 3)), .giveUp 3]

def removing : List StationHappening :=
  passedOver ++ [.event (.acquire 4 0), .event (.resume (.call 4)),
    .event (.hear (.call 4) (.dialled (.ok 0))), .event (.configure 5 {}),
    .event (.resume (.call 5)), .event (.resume (.call 5))]

def givenUpMidway : List StationHappening := removing ++ [.giveUp 5]

def restored : List StationHappening :=
  givenUpMidway ++ [.event (.configure 6 onlyCamera), .event (.resume (.call 6)),
    .event (.resume (.call 6)), .event (.resume (.call 6))]

theorem passedOver_leaves_no_orphan :
    ((opened {}).live passedOver).OrphanFree (ShutDownIn passedOver) ∧
      ¬ (((opened {}).live removing).cancel 5).OrphanFree (ShutDownIn removing) := by
  have hcalls : ((opened {}).live removing).calls.keys = [5] := by cbv
  have hfull : ((opened {}).live removing).emptyHanded 5 = false := by cbv
  have hothers : ∀ c, c ≠ 5 → ((opened {}).live removing).work? c = none := by
    intro c hne
    cases hcall : ((opened {}).live removing).calls.get? c with
    | none =>
      rw [work?, hcall]
      rfl
    | some activity =>
      have hmem : c ∈ ((opened {}).live removing).calls.keys :=
        List.mem_map.mpr ⟨_, Roster.mem_entries_iff.mpr hcall, rfl⟩
      rw [hcalls] at hmem
      exact absurd (List.mem_singleton.mp hmem) hne
  refine ⟨(live_leaves_no_orphan_iff {} passedOver (by cbv)).1, fun hfree => ?_⟩
  have hempty := ((live_leaves_no_orphan_iff {} removing (by cbv)).2 5 hothers).mp hfree
  rw [hfull] at hempty
  contradiction

theorem givenUpMidway_leaves_orphan :
    ¬ ((opened {}).live givenUpMidway).OrphanFree (ShutDownIn givenUpMidway) ∧
      ¬ ((opened {}).live restored).OrphanFree (ShutDownIn restored) := by
  constructor
  · intro hfree
    have hcalls : ((opened {}).live givenUpMidway).calls.entries = [] := by cbv
    have hstate : ((opened {}).live givenUpMidway).registry.states.get? camera.name =
        some .reconfiguring := by cbv
    have hlink : ((opened {}).live givenUpMidway).registry.links.has camera.name = false := by cbv
    have hstates := hfree.states (fun call => by rw [work?, Roster.get?, hcalls]; rfl) camera.name
    rw [hstate, hlink] at hstates
    contradiction
  · intro hfree
    have hnobody : ∀ id, ¬ ShutDownIn restored id := by
      rintro id ⟨call, hmem⟩
      simp [restored, givenUpMidway, removing, passedOver] at hmem
    have hfirst : (((opened {}).live restored).channels.get? 0).map
        (fun c => (c.studio, c.isOver)) = some (camera.name, false) := by cbv
    have hsecond : (((opened {}).live restored).channels.get? 1).map
        (fun c => (c.studio, c.isOver)) = some (camera.name, false) := by cbv
    obtain ⟨c, hc, hrunning⟩ := Option.map_eq_some_iff.mp hfirst
    obtain ⟨c', hc', hrunning'⟩ := Option.map_eq_some_iff.mp hsecond
    obtain ⟨hstudio, hover⟩ := Prod.mk.inj hrunning
    obtain ⟨hstudio', hover'⟩ := Prod.mk.inj hrunning'
    have hsame := hfree.single 0 1 c c' hc hc' (of_decide_eq_false hover)
      (of_decide_eq_false hover') (hnobody 0) (hnobody 1) (hstudio.trans hstudio'.symm)
    contradiction

end Station

end BroadcastLink
