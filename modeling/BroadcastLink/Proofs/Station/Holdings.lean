import BroadcastLink.Proofs.Station.Order
import BroadcastLink.Proofs.Station.Waiting

/-!
# Whose channels are running

A channel that is running belongs to a link, or a call that changes the set of links has it in hand
and will stop it. Within a piece of work the call with the turn holds the channels that it has taken
out of the links, and lets go of one only once that has ended. Channels that callers have shut down
themselves are on their way to their end, whoever holds them.
-/

namespace BroadcastLink

/-- The link whose channel is being stopped. -/
def JobStage.stopping? : JobStage → Option Link
  | .stopping link | .stopped link => some link
  | _ => none

theorem JobStage.phase_of_stopping {stage : JobStage} {link : Link}
    (h : stage.stopping? = some link) : stage.phase = .down link := by
  cases stage with
  | stopping | stopped =>
    obtain rfl := Option.some.inj h
    rfl
  | queued | next | draining | drained | launching | launched => contradiction

/-- The channels that a call has in hand. -/
def Job.channels (job : Job) (phase : JobPhase) : List ChannelId :=
  match phase, job with
  | .queued, _ => []
  | .down link, .shutdown rest => link.channel :: rest.tail.map (·.2.channel)
  | .down link, _ => [link.channel]
  | _, .shutdown rest => rest.map (·.2.channel)
  | _, _ => []

/-- The links that a configuration still has to remove are as it found them, apart from the name in
hand. -/
def Reconfiguration.Finds (w : Reconfiguration) (links : Roster String Link)
    (hand : List String) : Prop :=
  ∀ name link, (name, link) ∈ w.gone → name ∉ hand → links.get? name = some link

/-- The links that a call still has to remove are as it found them; a launch finds its link when it
takes it out, and a shutdown takes out all of them at once. -/
def Job.Finds (links : Roster String Link) (hand : List String) : Job → Prop
  | .configure w => w.Finds links hand
  | .launch _ | .shutdown _ => True

namespace Station

variable {asked callers : ChannelId → Prop} {low floor : Nat} {s s' : Station} {call : CallId}
  {id : ChannelId} {job : Job} {phase : JobPhase} {stage : JobStage} {hands hands' : List ChannelId}
  {name : String} {studio : Studio} {link : Link} {w : Reconfiguration}

/-- The channel belongs to a link. -/
def IsLinked (s : Station) (id : ChannelId) : Prop :=
  ∃ name link, s.registry.links.get? name = some link ∧ link.channel = id

/-- A call that changes the set of links has the channel in hand. -/
def InHand (s : Station) (id : ChannelId) : Prop :=
  ∃ call job phase, s.work? call = some (job, phase) ∧ id ∈ job.channels phase

/-- A call that changes the set of links is stopping the channel. -/
def IsStopping (s : Station) (id : ChannelId) : Prop :=
  ∃ call job stage link, s.calls.get? call = some (.reconciling job stage) ∧
    stage.stopping? = some link ∧ link.channel = id

/-- The channel of a link listens to the studio of its name. -/
def Named (s : Station) : Prop :=
  ∀ name link, s.registry.links.get? name = some link →
    (s.channels.get? link.channel).map Channel.studio = some name

/-- No studio has two channels running, those apart that callers have shut down. -/
def Single (callers : ChannelId → Prop) (s : Station) : Prop :=
  ∀ id id' c c', s.channels.get? id = some c → s.channels.get? id' = some c' →
    c.listener ≠ .over → c'.listener ≠ .over → ¬ callers id → ¬ callers id' →
    c.studio = c'.studio → id = id'

/-- Every channel that is running is accounted for. -/
structure Accounted (callers : ChannelId → Prop) (s : Station) : Prop where
  quiet : s.Quiet
  running : ∀ id c, s.channels.get? id = some c → c.listener ≠ .over →
    s.IsLinked id ∨ s.InHand id ∨ c.isCancelled = true ∧ callers id
  cancelled : ∀ id c, s.channels.get? id = some c → c.isCancelled = true →
    callers id ∨ c.listener = .over ∨ s.IsStopping id
  stopped : ∀ call job link, s.calls.get? call = some (.reconciling job (.stopped link)) →
    s.Ended callers link.channel
  named : s.Named
  single : s.Single callers
  found : ∀ call job phase, s.work? call = some (job, phase) → phase ≠ .queued →
    job.Finds s.registry.links (job.atHand phase)

/-! ## Waiting -/

/-- What a call is at follows from the work it does. -/
theorem calls_of_work (h : s.work? call = some (job, phase)) :
    ∃ stage, s.calls.get? call = some (.reconciling job stage) ∧ stage.phase = phase := by
  obtain ⟨activity, hcall, hwork⟩ := Option.bind_eq_some_iff.mp h
  cases activity with
  | reconciling job' stage =>
    obtain ⟨rfl, rfl⟩ := Prod.mk.inj (Option.some.inj hwork)
    exact ⟨stage, hcall, rfl⟩
  | borrowing | executing | connecting | talking | draining | writing | stopping => contradiction

/-- Whoever was stopping a channel is still doing so. -/
theorem IsStopping.waits (h : s.IsStopping id) (haside : Aside s s')
    (honward : Onward asked callers s s') : s'.IsStopping id := by
  obtain ⟨call, job, stage, link, hcall, hstage, heq⟩ := h
  have hwork := (haside.work call).trans (work_of_calls hcall)
  obtain ⟨stage', hcall', -⟩ := calls_of_work hwork
  obtain ⟨before, hbefore, hwaited⟩ := honward.jobs call job stage' hcall'
  obtain ⟨-, rfl⟩ := Activity.reconciling.inj (Option.some.inj (hcall.symm.trans hbefore))
  refine ⟨call, job, stage', link, hcall', ?_, heq⟩
  cases hwaited with
  | still => exact hstage
  | stopped => exact hstage
  | drained | launched => contradiction

/-- Channels keep the studios they listen to. -/
theorem Named.goOn (h : s.Named) (honward : Onward asked callers s s')
    (hregistry : s'.registry = s.registry)
    (htargets : ∀ id,
      (s'.channels.get? id).map Channel.target = (s.channels.get? id).map Channel.target) :
    s'.Named := by
  intro name link hlink
  rw [hregistry] at hlink
  obtain ⟨c, hc, hstudio⟩ := Option.map_eq_some_iff.mp (h name link hlink)
  have htarget := htargets link.channel
  rw [hc] at htarget
  obtain ⟨d, hd, -⟩ := Option.map_eq_some_iff.mp htarget
  obtain ⟨c', hc', hgoes⟩ := honward.channels link.channel d hd
  obtain rfl := Option.some.inj (hc.symm.trans hc')
  rw [hd]
  exact congrArg some (hgoes.studio.trans hstudio)

/-- Channels that go on were there before. -/
theorem Single.goOn (h : s.Single callers) (honward : Onward asked callers s s') :
    s'.Single callers := by
  intro id id' d d' hd hd' hrunning hrunning' hcallers hcallers' hstudio
  obtain ⟨c, hc, hgoes⟩ := honward.channels id d hd
  obtain ⟨c', hc', hgoes'⟩ := honward.channels id' d' hd'
  rw [hgoes.studio, hgoes'.studio] at hstudio
  exact h id id' c c' hc hc' (fun hover => hrunning (hgoes.ended hover))
    (fun hover => hrunning' (hgoes'.ended hover)) hcallers hcallers' hstudio

/-- Waiting changes nothing about whose channels are running, as long as channels are cancelled by
callers or by the call that stops them. -/
theorem Accounted.waits (h : s.Accounted callers) (haside : Aside s s')
    (honward : Onward asked callers s s') (hasked : ∀ id, asked id → callers id ∨ s.IsStopping id) :
    s'.Accounted callers := by
  refine ⟨honward.quiet h.quiet, ?_, ?_, ?_,
    h.named.goOn honward haside.registry haside.channels, h.single.goOn honward, ?_⟩
  · intro id d hd hrunning
    obtain ⟨c, hc, hgoes⟩ := honward.channels id d hd
    rcases h.running id c hc fun hover => hrunning (hgoes.ended hover) with
      hlinked | ⟨call, job, phase, hwork, hmem⟩ | ⟨hcancelled, hcallers⟩
    · refine .inl ?_
      rw [IsLinked, haside.registry]
      exact hlinked
    · exact .inr (.inl ⟨call, job, phase, (haside.work call).trans hwork, hmem⟩)
    · exact .inr (.inr ⟨hgoes.cancelled hcancelled, hcallers⟩)
  · intro id d hd hcancelled
    obtain ⟨c, hc, hgoes⟩ := honward.channels id d hd
    rcases hgoes.cause hcancelled with hbefore | hnow
    · rcases h.cancelled id c hc hbefore with hcallers | hover | hstopping
      · exact .inl hcallers
      · exact .inr (.inl (hgoes.ended hover))
      · exact .inr (.inr (hstopping.waits haside honward))
    · exact (hasked id hnow).imp_right fun hstopping => .inr (hstopping.waits haside honward)
  · intro call job link hcall
    obtain ⟨stage, hbefore, hwaited⟩ := honward.jobs call job _ hcall
    cases hwaited with
    | still => exact honward.ended (h.stopped call job link hbefore)
    | stopped hended => exact hended
  · intro call job phase hwork hphase
    rw [haside.work] at hwork
    rw [haside.registry]
    exact h.found call job phase hwork hphase

/-- A call comes to another stage, with everything it had in hand. -/
theorem Accounted.putJob (h : s.Accounted callers)
    (hbefore : ∀ job' stage', s.calls.get? call = some (.reconciling job' stage') →
      stage'.stopping? = none ∧ ∀ id ∈ job'.channels stage'.phase, id ∈ job.channels stage.phase)
    (hstage : ∀ link, stage ≠ .stopped link)
    (hfinds : stage.phase ≠ .queued → job.Finds s.registry.links (job.atHand stage.phase)) :
    (s.putJob call job stage).Accounted callers := by
  have hcalls : ∀ c, (s.putJob call job stage).calls.get? c =
      if c = call then some (.reconciling job stage) else s.calls.get? c :=
    fun c => Roster.get?_put _ _ _ _
  have hwork := work_putJob s call job stage
  refine ⟨h.quiet, ?_, ?_, ?_, h.named, h.single, ?_⟩
  · intro id c hc hrunning
    rcases h.running id c hc hrunning with hlinked | ⟨other, job', phase, hother, hmem⟩ | hcancelled
    · exact .inl hlinked
    · refine .inr (.inl ?_)
      by_cases heq : other = call
      · subst heq
        obtain ⟨stage', hcall, rfl⟩ := calls_of_work hother
        exact ⟨other, job, stage.phase, (hwork other).trans (if_pos rfl),
          (hbefore job' stage' hcall).2 id hmem⟩
      · exact ⟨other, job', phase, (hwork other).trans ((if_neg heq).trans hother), hmem⟩
    · exact .inr (.inr hcancelled)
  · intro id c hc hcancelled
    rcases h.cancelled id c hc hcancelled with
      hcallers | hover | ⟨other, job', stage', link, hother, hstopping, heq⟩
    · exact .inl hcallers
    · exact .inr (.inl hover)
    · refine .inr (.inr ⟨other, job', stage', link, ?_, hstopping, heq⟩)
      have hne : other ≠ call := by
        rintro rfl
        rw [(hbefore job' stage' hother).1] at hstopping
        contradiction
      exact (hcalls other).trans ((if_neg hne).trans hother)
  · intro c job' link hc
    rw [hcalls] at hc
    split at hc
    · obtain ⟨-, heq⟩ := Activity.reconciling.inj (Option.some.inj hc)
      exact absurd heq (hstage link)
    · exact h.stopped c job' link hc
  · intro c job' phase hc hphase
    rw [hwork] at hc
    split at hc
    · obtain ⟨rfl, rfl⟩ := Prod.mk.inj (Option.some.inj hc)
      exact hfinds hphase
    · exact h.found c job' phase hc hphase

/-! ## Within a piece of work -/

/-- The call with the turn is in the middle of a piece of work and holds these channels. -/
structure Holds (callers : ChannelId → Prop) (call : CallId) (s : Station)
    (hands : List ChannelId) : Prop where
  quiet : s.Quiet
  others : ∀ c job phase, c ≠ call → s.work? c = some (job, phase) → phase = .queued
  running : ∀ id c, s.channels.get? id = some c → c.listener ≠ .over →
    s.IsLinked id ∨ id ∈ hands ∨ c.isCancelled = true ∧ callers id
  cancelled : ∀ id c, s.channels.get? id = some c → c.isCancelled = true →
    callers id ∨ c.listener = .over
  named : s.Named
  single : s.Single callers

/-- A piece of work begins. What the call has in hand is held from then on, unless it has ended. -/
theorem Accounted.holds_of (h : s.Accounted callers) (hturns : s.InTurn)
    (hholder : s.registry.turn.holder = some call)
    (hcall : s.calls.get? call = some (.reconciling job stage))
    (hhands : ∀ id ∈ job.channels stage.phase, id ∈ hands ∨ s.Ended callers id)
    (hstage : ∀ link ∈ stage.stopping?, s.Ended callers link.channel) :
    Holds callers call s hands := by
  have hothers : ∀ c job phase, c ≠ call → s.work? c = some (job, phase) → phase = .queued :=
    fun c job phase hne hwork => hturns.queued hholder hne hwork
  refine ⟨h.quiet, hothers, ?_, ?_, h.named, h.single⟩
  · intro id c hc hrunning
    rcases h.running id c hc hrunning with
      hlinked | ⟨other, job', phase, hwork, hmem⟩ | hcancelled
    · exact .inl hlinked
    -- Any other call waits for its turn and has nothing in hand.
    · by_cases heq : other = call
      · subst heq
        obtain ⟨rfl, rfl⟩ := Prod.mk.inj (Option.some.inj ((work_of_calls hcall).symm.trans hwork))
        rcases hhands id hmem with hheld | hended
        · exact .inr (.inl hheld)
        · exact .inr (.inr ((hended c hc).resolve_left hrunning))
      · rw [hothers other job' phase heq hwork] at hmem
        contradiction
    · exact .inr (.inr hcancelled)
  · intro id c hc hcancelled
    rcases h.cancelled id c hc hcancelled with
      hcallers | hover | ⟨other, job', stage', link, hother, hstopping, rfl⟩
    · exact .inl hcallers
    · exact .inr hover
    · by_cases heq : other = call
      · subst heq
        obtain ⟨-, rfl⟩ := Activity.reconciling.inj (Option.some.inj (hcall.symm.trans hother))
        rcases hstage link hstopping c hc with hover | ⟨-, hcallers⟩
        · exact .inr hover
        · exact .inl hcallers
      · have hqueued := hothers other job' stage'.phase heq (work_of_calls hother)
        rw [JobStage.phase_of_stopping hstopping] at hqueued
        contradiction

theorem Accounted.holds (h : s.Accounted callers) (hturns : s.InTurn)
    (hholder : s.registry.turn.holder = some call)
    (hcall : s.calls.get? call = some (.reconciling job stage)) (hstage : stage.stopping? = none) :
    Holds callers call s (job.channels stage.phase) := by
  refine h.holds_of hturns hholder hcall (fun _ hmem => .inl hmem) fun link hstopping => ?_
  rw [hstage] at hstopping
  contradiction

/-- A channel that has stopped is let go. -/
theorem Accounted.holds_stopped (h : s.Accounted callers) (hturns : s.InTurn)
    (hcall : s.calls.get? call = some (.reconciling job (.stopped link))) :
    Holds callers call s (job.channels (.down link)).tail := by
  have hended := h.stopped call job link hcall
  have hholder := hturns.alone call job _ (work_of_calls hcall) fun heq => by contradiction
  have hchannels : job.channels (.down link) =
      link.channel :: (job.channels (.down link)).tail := by
    cases job <;> rfl
  refine h.holds_of hturns hholder hcall ?_ ?_
  · intro id hmem
    replace hmem : id ∈ job.channels (.down link) := hmem
    rw [hchannels] at hmem
    rcases List.mem_cons.mp hmem with rfl | hrest
    · exact .inr hended
    · exact .inl hrest
  · intro other hstopping
    obtain rfl := Option.some.inj hstopping
    exact hended

namespace Holds

/-- The links may change, as long as their channels stay or are held. -/
theorem onRegistry (h : Holds callers call s hands) (f : Registry → Registry)
    (hlinks : ∀ name link, s.registry.links.get? name = some link →
      (s.onRegistry f).IsLinked link.channel ∨ link.channel ∈ hands')
    (hhands : ∀ id ∈ hands, id ∈ hands')
    (hold : ∀ name link, (f s.registry).links.get? name = some link → ∃ old,
      s.registry.links.get? name = some old ∧ old.channel = link.channel) :
    Holds callers call (s.onRegistry f) hands' := by
  refine ⟨h.quiet, h.others, ?_, h.cancelled, ?_, h.single⟩
  · intro id c hc hrunning
    rcases h.running id c hc hrunning with ⟨name, link, hlink, rfl⟩ | hheld | hcancelled
    · rcases hlinks name link hlink with hlinked | hheld
      · exact .inl hlinked
      · exact .inr (.inl hheld)
    · exact .inr (.inl (hhands id hheld))
    · exact .inr (.inr hcancelled)
  · intro name link hlink
    obtain ⟨old, hwas, heq⟩ := hold name link hlink
    rw [← heq]
    exact h.named name old hwas

/-- The registry changes, the links apart. -/
theorem sameLinks (h : Holds callers call s hands) {f : Registry → Registry}
    (hf : (f s.registry).links = s.registry.links) : Holds callers call (s.onRegistry f) hands := by
  refine h.onRegistry f (fun name link hlink => .inl ⟨name, link, ?_, rfl⟩) (fun _ hid => hid) ?_
  · show (f s.registry).links.get? name = some link
    rw [hf]
    exact hlink
  · intro name link hlink
    rw [hf] at hlink
    exact ⟨link, hlink, rfl⟩

/-- A link is taken out, and its channel is held. -/
theorem removeLink (h : Holds callers call s hands) {f : Registry → Registry}
    (hlink : s.registry.links.get? name = some link)
    (hf : (f s.registry).links = s.registry.links.erase name) :
    Holds callers call (s.onRegistry f) (link.channel :: hands) := by
  have hget : ∀ other, (f s.registry).links.get? other =
      if other = name then none else s.registry.links.get? other := by
    intro other
    rw [hf]
    exact Roster.get?_erase _ other name
  refine h.onRegistry f ?_ (fun _ hid => List.mem_cons_of_mem _ hid) ?_
  · intro other found hfound
    by_cases heq : other = name
    · rw [heq, hlink] at hfound
      obtain rfl := Option.some.inj hfound
      exact .inr List.mem_cons_self
    · exact .inl ⟨other, found, (hget other).trans ((if_neg heq).trans hfound), rfl⟩
  · intro other found hfound
    rw [hget] at hfound
    split at hfound
    · contradiction
    · exact ⟨found, hfound, rfl⟩

/-- All links are taken out, and all their channels are held. -/
theorem removeAll (h : Holds callers call s hands) :
    Holds callers call (s.onRegistry fun r => { r with links := {} })
      ((Registry.byName s.registry.links.entries).map (·.2.channel) ++ hands) := by
  refine h.onRegistry _ ?_ (fun _ hid => List.mem_append_right _ hid) ?_
  · intro name link hlink
    have hentry : (name, link) ∈ Registry.byName s.registry.links.entries :=
      List.mem_mergeSort.mpr (Roster.mem_entries_iff.mpr hlink)
    exact .inr (List.mem_append_left _ (List.mem_map.mpr ⟨(name, link), hentry, rfl⟩))
  · intro name link hlink
    contradiction

/-- A link is put in the place of one with the same channel. -/
theorem replaceLink (h : Holds callers call s hands)
    (hlink : s.registry.links.get? name = some link) (studio : Studio) :
    Holds callers call (s.onRegistry (·.replaceLink name { link with studio := studio }))
      hands := by
  have hget : ∀ other,
      (s.registry.replaceLink name { link with studio := studio }).links.get? other =
      if other = name then some { link with studio := studio } else s.registry.links.get? other :=
    fun other => Roster.get?_put _ _ _ _
  refine h.onRegistry _ ?_ (fun _ hid => hid) ?_
  · intro other found hfound
    by_cases heq : other = name
    · rw [heq, hlink] at hfound
      obtain rfl := Option.some.inj hfound
      exact .inl ⟨name, _, (hget name).trans (if_pos rfl), rfl⟩
    · exact .inl ⟨other, found, (hget other).trans ((if_neg heq).trans hfound), rfl⟩
  · intro other found hfound
    rw [hget] at hfound
    split at hfound
    · rename_i heq
      obtain rfl := Option.some.inj hfound
      exact ⟨link, heq ▸ hlink, rfl⟩
    · exact ⟨found, hfound, rfl⟩

/-- The channels go on, and nothing is done to the links or for the calls on them. -/
theorem goOn (h : Holds callers call s hands) (honward : Onward callers callers s s')
    (hregistry : s'.registry = s.registry) (hwork : ∀ c, s'.work? c = s.work? c)
    (htargets : ∀ id,
      (s'.channels.get? id).map Channel.target = (s.channels.get? id).map Channel.target) :
    Holds callers call s' hands := by
  refine ⟨honward.quiet h.quiet, ?_, ?_, ?_, h.named.goOn honward hregistry htargets,
    h.single.goOn honward⟩
  · intro c job phase hne
    rw [hwork]
    exact h.others c job phase hne
  · intro id d hd hrunning
    obtain ⟨c, hc, hgoes⟩ := honward.channels id d hd
    rw [IsLinked, hregistry]
    rcases h.running id c hc fun hover => hrunning (hgoes.ended hover) with
      hlinked | hheld | ⟨hcancelled, hcallers⟩
    · exact .inl hlinked
    · exact .inr (.inl hheld)
    · exact .inr (.inr ⟨hgoes.cancelled hcancelled, hcallers⟩)
  · intro id d hd hcancelled
    obtain ⟨c, hc, hgoes⟩ := honward.channels id d hd
    rcases hgoes.cause hcancelled with hbefore | hcallers
    · exact (h.cancelled id c hc hbefore).imp_right hgoes.ended
    · exact .inl hcallers

/-- A linked studio gets other bounds. -/
theorem resize (h : Holds callers call s hands) (htidy : s.Tidy)
    (hlink : s.registry.links.get? name = some link) {p : Pool}
    (hp : s.pools.get? link.pool = some p) (studio : Studio) :
    Holds callers call (((s.onRegistry (·.setState name .reconfiguring)).onPool link.pool
      (·.resize studio.minPool.toNat studio.maxPool.toNat s.now)).onRegistry
        (·.replaceLink name { link with studio := studio })) hands := by
  have hnoted := h.sameLinks (f := (·.setState name .reconfiguring)) rfl
  have haside := aside_resizePool (s := s.onRegistry (·.setState name .reconfiguring)) htidy hp
    studio.minPool.toNat studio.maxPool.toNat
  have hresized := hnoted.goOn (onward_onPool _ link.pool _) haside.registry haside.work
    haside.channels
  refine hresized.replaceLink ?_ studio
  rw [haside.registry]
  exact hlink

/-- Every running channel listens to a linked studio when no other is held. -/
theorem linked_of_running (h : Holds callers call s []) {c : Channel}
    (hc : s.channels.get? id = some c) (hrunning : c.listener ≠ .over) (hcallers : ¬ callers id) :
    s.registry.links.get? c.studio ≠ none := by
  rcases h.running id c hc hrunning with ⟨name, link, hlink, rfl⟩ | hheld | ⟨-, hshut⟩
  · have hnamed := h.named name link hlink
    rw [hc] at hnamed
    rw [show c.studio = name from Option.some.inj hnamed, hlink]
    exact Option.some_ne_none link
  · contradiction
  · exact absurd hshut hcallers

/-- A studio without a link gets one, over a new channel. As no other channel is held, none that is
running listens to that studio. -/
theorem withLink (h : Holds callers call s []) (hground : s.Ground)
    (habsent : s.registry.links.get? studio.name = none) :
    Holds callers call (s.withLink studio) [] := by
  refine ⟨?_, h.others, ?_, ?_, ?_, ?_⟩
  · intro id c hc
    rw [channels_withLink] at hc
    split at hc
    · obtain rfl := Option.some.inj hc
      rfl
    · exact h.quiet id c hc
  · intro id c hc hrunning
    rw [channels_withLink] at hc
    split at hc
    · rename_i heq
      exact .inl ⟨studio.name, _, (links_withLink s studio _).trans (if_pos rfl), heq.symm⟩
    · rcases h.running id c hc hrunning with ⟨name, link, hlink, rfl⟩ | hheld
      · have hne : name ≠ studio.name := by
          rintro rfl
          rw [habsent] at hlink
          contradiction
        have hkept := (links_withLink s studio name).trans ((if_neg hne).trans hlink)
        exact .inl ⟨name, link, hkept, rfl⟩
      · exact .inr hheld
  · intro id c hc hcancelled
    rw [channels_withLink] at hc
    split at hc
    · obtain rfl := Option.some.inj hc
      contradiction
    · exact h.cancelled id c hc hcancelled
  · intro name link hlink
    rw [channels_withLink]
    rw [links_withLink] at hlink
    split at hlink
    · rename_i heq
      obtain rfl := Option.some.inj hlink
      rw [if_pos rfl, heq]
      rfl
    · have hnamed := h.named name link hlink
      have hne : link.channel ≠ s.nextChannel := by
        refine Nat.ne_of_lt (hground.channels _ fun hnone => ?_)
        rw [hnone] at hnamed
        contradiction
      rw [if_neg hne]
      exact hnamed
  · intro id id' c c' hc hc' hrunning hrunning' hcallers hcallers' hstudio
    rw [channels_withLink] at hc hc'
    -- A channel that was running before listens to a linked studio, and the new one does not.
    split at hc <;> split at hc'
    · rename_i heq heq'
      exact heq.trans heq'.symm
    · obtain rfl := Option.some.inj hc
      have hlinked := h.linked_of_running hc' hrunning' hcallers'
      rw [← hstudio] at hlinked
      exact absurd habsent hlinked
    · obtain rfl := Option.some.inj hc'
      have hlinked := h.linked_of_running hc hrunning hcallers
      rw [hstudio] at hlinked
      exact absurd habsent hlinked
    · exact h.single id id' c c' hc hc' hrunning hrunning' hcallers hcallers' hstudio

theorem insertLink (h : Holds callers call s []) (hground : s.Ground)
    (habsent : s.registry.links.get? studio.name = none) :
    Holds callers call (s.insertLink studio) [] := by
  have hlinked := h.withLink hground habsent
  obtain ⟨ready, hinsert⟩ := exists_ready_insertLink s studio
  rw [hinsert]
  exact ⟨hlinked.quiet, hlinked.others, hlinked.running, hlinked.cancelled, hlinked.named,
    hlinked.single⟩

/-! ### How a piece of work ends -/

/-- The piece of work ends with a wait, and what is held stays in hand. -/
theorem putJob (h : Holds callers call s hands) (hstage : stage.stopping? = none)
    (hhands : ∀ id ∈ hands, id ∈ job.channels stage.phase)
    (hfinds : job.Finds s.registry.links (job.atHand stage.phase)) :
    (s.putJob call job stage).Accounted callers := by
  have hown : (s.putJob call job stage).work? call = some (job, stage.phase) :=
    (work_putJob s call job stage call).trans (if_pos rfl)
  have hothers : ∀ c, c ≠ call → (s.putJob call job stage).work? c = s.work? c :=
    fun c hne => (work_putJob s call job stage c).trans (if_neg hne)
  have hcalls : ∀ c, (s.putJob call job stage).calls.get? c =
      if c = call then some (.reconciling job stage) else s.calls.get? c :=
    fun c => Roster.get?_put _ _ _ _
  refine ⟨h.quiet, ?_, ?_, ?_, h.named, h.single, ?_⟩
  · intro id c hc hrunning
    rcases h.running id c hc hrunning with hlinked | hheld | hcancelled
    · exact .inl hlinked
    · exact .inr (.inl ⟨call, job, stage.phase, hown, hhands id hheld⟩)
    · exact .inr (.inr hcancelled)
  · intro id c hc hcancelled
    exact (h.cancelled id c hc hcancelled).imp_right .inl
  · intro c job' link hc
    rw [hcalls] at hc
    split at hc
    · obtain ⟨-, rfl⟩ := Activity.reconciling.inj (Option.some.inj hc)
      contradiction
    · rename_i hne
      have hqueued := h.others c job' _ hne (work_of_calls hc)
      contradiction
  · intro c job' phase hc hphase
    by_cases heq : c = call
    · rw [heq, hown] at hc
      obtain ⟨rfl, rfl⟩ := Prod.mk.inj (Option.some.inj hc)
      exact hfinds
    · rw [hothers c heq] at hc
      exact absurd (h.others c job' phase heq hc) hphase

/-- The piece of work ends with the beginning of a drain. -/
theorem takeDown (h : Holds callers call s hands) (htidy : s.Tidy)
    (hhands : ∀ id ∈ hands, id ∈ job.channels (.down link))
    (hfinds : job.Finds s.registry.links (job.atHand (.down link))) :
    (s.takeDown call job link).Accounted callers := by
  have hput : (s.putJob call job (.draining link)).Accounted callers :=
    h.putJob rfl hhands hfinds
  have honward : Onward callers callers (s.putJob call job (.draining link))
      (s.takeDown call job link) := onward_onPool _ link.pool _
  exact hput.waits (aside_takeDown htidy call job link) honward fun _ => .inl

end Holds

/-! ## Giving up one's turn -/

/-- A call that has nothing in hand may be over. -/
theorem Accounted.finishJob (h : s.Accounted callers)
    (hhands : ∀ job phase, s.work? call = some (job, phase) → job.channels phase = [])
    (a : Answer) : (s.finishJob call a).Accounted callers := by
  obtain ⟨ready, hgiven⟩ := exists_ready_giveUpTurn s call
  have hcalls : ∀ c, (s.finishJob call a).calls.get? c =
      if c = call then none else s.calls.get? c := by
    intro c
    rw [Station.finishJob, hgiven]
    exact Roster.get?_erase _ _ _
  have hchannels : (s.finishJob call a).channels = s.channels := (pools_finishJob s call a).2
  have hlinks : (s.finishJob call a).registry.links = s.registry.links := by
    rw [registry_finishJob]
  have hwork := work_finishJob s call a
  refine ⟨?_, ?_, ?_, ?_, ?_, ?_, ?_⟩
  · rw [Quiet, hchannels]
    exact h.quiet
  · intro id c hc hrunning
    rw [hchannels] at hc
    rcases h.running id c hc hrunning with hlinked | ⟨other, job, phase, hother, hmem⟩ | hcancelled
    · refine .inl ?_
      rw [IsLinked, hlinks]
      exact hlinked
    · refine .inr (.inl ⟨other, job, phase, ?_, hmem⟩)
      have hne : other ≠ call := by
        rintro rfl
        rw [hhands job phase hother] at hmem
        contradiction
      exact (hwork other).trans ((if_neg hne).trans hother)
    · exact .inr (.inr hcancelled)
  · intro id c hc hcancelled
    rw [hchannels] at hc
    rcases h.cancelled id c hc hcancelled with
      hcallers | hover | ⟨other, job, stage, link, hother, hstopping, heq⟩
    · exact .inl hcallers
    · exact .inr (.inl hover)
    · refine .inr (.inr ⟨other, job, stage, link, ?_, hstopping, heq⟩)
      have hne : other ≠ call := by
        rintro rfl
        have hnone := hhands job stage.phase (work_of_calls hother)
        rw [JobStage.phase_of_stopping hstopping] at hnone
        cases job <;> contradiction
      exact (hcalls other).trans ((if_neg hne).trans hother)
  · intro c job link hc
    rw [hcalls] at hc
    split at hc
    · contradiction
    · rw [Ended, hchannels]
      exact h.stopped c job link hc
  · rw [Named, hlinks, hchannels]
    exact h.named
  · rw [Single, hchannels]
    exact h.single
  · intro c job phase hc hphase
    rw [hwork] at hc
    split at hc
    · contradiction
    · rw [hlinks]
      exact h.found c job phase hc hphase

/-- What a call was at is forgotten when it is over. -/
theorem finishJob_putJob (s : Station) (call : CallId) (job : Job) (stage : JobStage) (a : Answer) :
    (s.putJob call job stage).finishJob call a = s.finishJob call a := by
  have hgiven : (s.putJob call job stage).giveUpTurn call =
      (s.giveUpTurn call).putJob call job stage := by
    unfold giveUpTurn
    dsimp only [putJob, putCall]
    cases (s.registry.turn.giveUp call).2 with
    | none => rfl
    | some next =>
      show Station.wake _ (.call next) = Station.putJob (Station.wake _ (.call next)) call job stage
      unfold wake
      split <;> split <;> first | rfl | contradiction
  rw [Station.finishJob, hgiven, Station.finishJob]
  unfold finish putJob putCall
  dsimp only
  rw [Roster.erase_put]

/-- The piece of work ends the call, which holds nothing. -/
theorem Holds.finishJob (h : Holds callers call s []) (a : Answer) :
    (s.finishJob call a).Accounted callers := by
  -- What the call was at does not matter any more, so it may be at something with nothing in hand.
  have hwaits : (s.putJob call (.shutdown []) .next).Accounted callers :=
    h.putJob rfl (fun _ hid => hid) trivial
  rw [← finishJob_putJob s call (.shutdown []) .next a]
  refine hwaits.finishJob (fun job phase hwork => ?_) a
  rw [work_putJob, if_pos rfl] at hwork
  obtain ⟨rfl, rfl⟩ := Prod.mk.inj (Option.some.inj hwork)
  rfl

end Station

end BroadcastLink
