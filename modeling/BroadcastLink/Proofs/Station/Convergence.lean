import BroadcastLink.Proofs.Station.Order
import Mathlib

/-!
# Convergence

A configuration brings the links in line with what it was given, from whatever links it found: once
it has answered with its summary, and no other such call was made meanwhile, exactly the studios it
wanted have a link, save those whose launch failed, and the summary says what became of each.
-/

namespace BroadcastLink.Station

variable {low low' floor floor' : Nat} {s s' : Station} {call : CallId} {desired : Fleet}
  {summary : Summary} {found : Roster String Link} {w : Reconfiguration}

/-! ## From the start -/

/-- A station where nothing has happened yet. -/
def opened (settings : RegistrySettings) : Station := { registry := { settings := settings } }

theorem orderly_opened (settings : RegistrySettings) : (opened settings).Orderly 0 0 := by
  refine ⟨⟨⟨?_, ?_, ?_⟩, ⟨?_, List.nodup_nil, ?_⟩, rfl, Nat.zero_le _, Nat.zero_le _⟩,
    ⟨?_, ?_, ?_, ?_⟩, ?_⟩
  · intro id p hp
    contradiction
  · intro id hid
    exact absurd rfl hid
  · intro id hid
    exact absurd rfl hid
  · intro call
    exact iff_of_false List.not_mem_nil fun hne => hne rfl
  · intro call job phase hcall
    contradiction
  · intro name link hlink
    contradiction
  · intro name other link link' hlink
    contradiction
  · intro name _
    rfl
  · intro name hname
    contradiction
  · intro call job phase hcall
    contradiction

/-- The first number may be any generation that has not come yet. -/
theorem Orderly.raise (h : s.Orderly low floor) (hlow : low' ≤ s.registry.nextGeneration) :
    s.Orderly low' floor :=
  { h with since := hlow }

/-- As long as no call is at work, the second number may be such a generation too. -/
theorem Orderly.refresh (h : s.Orderly low floor) (hidle : ∀ c, s.work? c = none)
    (hfloor : floor' ≤ s.registry.nextGeneration) : s.Orderly low floor' := by
  refine ⟨⟨h.ground, h.turns, h.desired, h.since, hfloor⟩, h.inLine, ?_⟩
  intro c job phase hc
  rw [hidle c] at hc
  contradiction

theorem run_append (s : Station) (events later : List StationEvent) :
    s.run (events ++ later) = (s.run events).run later :=
  List.foldl_append

/-- A generation that some link had at some time during a run from the start. -/
def Used (settings : RegistrySettings) (events : List StationEvent) (generation : Nat) : Prop :=
  ∃ earlier, earlier <+: events ∧ ∃ name link,
    ((opened settings).run earlier).registry.links.get? name = some link ∧
      link.generation = generation

/-- Every generation that was used is below the next one. -/
theorem lt_of_used {settings : RegistrySettings} {events : List StationEvent} {generation : Nat}
    (h : Used settings events generation) :
    generation < ((opened settings).run events).registry.nextGeneration := by
  obtain ⟨earlier, ⟨later, rfl⟩, name, link, hlink, rfl⟩ := h
  have horderly := (orderly_opened settings).run earlier
  have hlater := (horderly.raise (Nat.le_refl _)).run later
  rw [run_append]
  exact Nat.lt_of_lt_of_le (horderly.inLine.linked name link hlink).generation hlater.since

/-! ## A configuration alone -/

/-- What a configuration that is over has done. -/
structure Done (floor : Nat) (found : Roster String Link) (desired : Fleet) (summary : Summary)
    (s : Station) : Prop where
  inLine : s.InLine []
  progress : ({ desired := desired, current := found, summary := summary } :
    Reconfiguration).Progress floor s.registry.links []

theorem Done.aside (h : Done floor found desired summary s) (haside : Aside s s') :
    Done floor found desired summary s' := by
  refine ⟨h.inLine.aside haside, ?_⟩
  rw [haside.registry]
  exact h.progress

/-- A configuration is on its way that found the given links: it waits for its turn, or it is at
work. -/
structure OnItsWay (found : Roster String Link) (desired : Fleet) (call : CallId) (s : Station)
    (w : Reconfiguration) (phase : JobPhase) : Prop where
  work : s.work? call = some (.configure w, phase)
  desired : w.desired = desired
  queued : phase = .queued → s.registry.links = found
  current : phase ≠ .queued → w.current = found
  unanswered : ∀ summary, (call, .summary summary) ∉ s.answers

/-- A configuration is the only call that changes the set of links: it is on its way, or over. -/
structure Alone (low floor : Nat) (found : Roster String Link) (desired : Fleet) (call : CallId)
    (s : Station) : Prop where
  orderly : s.Orderly low floor
  others : ∀ c, c ≠ call → s.work? c = none
  stage : (∃ w phase, OnItsWay found desired call s w phase) ∨
    (s.work? call = none ∧
      ∀ summary, (call, .summary summary) ∈ s.answers → Done floor found desired summary s)

namespace Alone

theorem aside (h : Alone low floor found desired call s) (haside : Aside s s') :
    Alone low floor found desired call s' := by
  refine ⟨h.orderly.aside haside, ?_, ?_⟩
  · intro c hc
    rw [haside.work]
    exact h.others c hc
  · rcases h.stage with ⟨w, phase, hway⟩ | ⟨hover, hdone⟩
    · refine .inl ⟨w, phase, ?_, hway.desired, ?_, hway.current, ?_⟩
      · rw [haside.work]
        exact hway.work
      · rw [haside.registry]
        exact hway.queued
      · intro summary hmem
        exact hway.unanswered summary (haside.summaries call summary hmem)
    · refine .inr ⟨(haside.work call).trans hover, ?_⟩
      intro summary hmem
      exact (hdone summary (haside.summaries call summary hmem)).aside haside

/-- Whoever is at work is the configuration. -/
theorem onItsWay (h : Alone low floor found desired call s) {c : CallId} {job : Job}
    {phase : JobPhase} (hwork : s.work? c = some (job, phase)) :
    c = call ∧ ∃ w, job = .configure w ∧ OnItsWay found desired call s w phase := by
  have hcall : c = call := by
    by_contra hne
    rw [h.others c hne] at hwork
    contradiction
  rw [hcall] at hwork
  refine ⟨hcall, ?_⟩
  rcases h.stage with ⟨w, phase', hway⟩ | ⟨hover, -⟩
  · obtain ⟨rfl, rfl⟩ := Prod.mk.inj (Option.some.inj (hwork.symm.trans hway.work))
    exact ⟨w, rfl, hway⟩
  · rw [hover] at hwork
    contradiction

/-- The configuration goes on with what it found and what it wants. -/
theorem goesOn (h : Alone low floor found desired call s) {phase : JobPhase}
    (hway : OnItsWay found desired call s w phase) (hphase : phase ≠ .queued)
    (hgoes : GoesOn low floor call w s s') : Alone low floor found desired call s' := by
  obtain ⟨w', phase', hwork, hphase', hdesired, hcurrent⟩ := hgoes.work
  refine ⟨hgoes.orderly, ?_, .inl ⟨w', phase', hwork, hdesired.trans hway.desired, ?_, ?_, ?_⟩⟩
  · intro c hc
    exact (hgoes.elsewhere.work c hc).trans (h.others c hc)
  · intro heq
    exact absurd heq hphase'
  · intro _
    exact hcurrent.trans (hway.current hphase)
  · intro summary hmem
    exact hway.unanswered summary (hgoes.elsewhere.summaries call summary hmem)

/-- The configuration has its turn: it sees the links that were there all along. -/
theorem begins (h : Alone low floor found desired call s)
    (hway : OnItsWay found desired call s w .queued)
    (hturn : s.registry.turn.heldBy call = true) :
    Alone low floor found desired call (s.beginJob call (.configure w)) := by
  have hwork := work_putJob s call (.configure (s.registry.plan w.desired)) .next
  refine ⟨h.orderly.beginJob hway.work hturn, ?_,
    .inl ⟨s.registry.plan w.desired, .next, ?_, hway.desired, ?_, ?_, hway.unanswered⟩⟩
  · intro c hc
    exact ((hwork c).trans (if_neg hc)).trans (h.others c hc)
  · exact (hwork call).trans (if_pos rfl)
  · intro heq
    contradiction
  · intro _
    exact hway.queued rfl

/-- The configuration gives its summary, and everything is done. -/
theorem finishes (h : Alone low floor found desired call s)
    (hway : OnItsWay found desired call s w .next) (hgone : w.gone = []) (hcoming : w.coming = []) :
    Alone low floor found desired call (s.configureNext call w) := by
  have horderly := h.orderly.configureNext hway.work
  obtain ⟨-, -, hprogress, -⟩ := h.orderly.configuring hway.work fun heq => by contradiction
  have hdesired := hway.desired
  have hcurrent := hway.current fun heq => by contradiction
  rw [configureNext_of_done s call hgone hcoming] at horderly ⊢
  have hwork := work_finishJob (s.onRegistry fun r => { r with desired := w.desired }) call
    (.summary w.summary)
  have hidle : ∀ c, ((s.onRegistry fun r => { r with desired := w.desired }).finishJob call
      (.summary w.summary)).work? c = none := by
    intro c
    rw [hwork]
    split
    · rfl
    · rename_i hne
      exact h.others c hne
  refine ⟨horderly, fun c _ => hidle c, .inr ⟨hidle call, ?_⟩⟩
  intro summary hmem
  rcases summaries_finishJob hmem with hold | ⟨-, hsummary⟩
  · exact absurd hold (hway.unanswered summary)
  · obtain rfl : summary = w.summary := Answer.summary.inj hsummary
    have hline := horderly.inLine
    rw [atHand_of_queued fun c job phase hc => by rw [hidle c] at hc; contradiction] at hline
    refine ⟨hline, ?_⟩
    rw [registry_finishJob]
    obtain ⟨_, _, gone, coming, _⟩ := w
    obtain rfl : gone = [] := hgone
    obtain rfl : coming = [] := hcoming
    subst hdesired hcurrent
    exact hprogress

/-- Nothing that happens without another such call changes that. -/
theorem perform (h : Alone low floor found desired call s) {event : StationEvent}
    (hquiet : event.changesLinks = false) :
    Alone low floor found desired call (s.perform event) := by
  have hadvance := advance_perform h.orderly.ground.tidy event
  generalize s.perform event = s' at hadvance
  cases hadvance with
  | aside haside => exact h.aside haside
  | starts _ _ hchanges =>
    rw [hquiet] at hchanges
    contradiction
  | begins hwork hturn =>
    obtain ⟨rfl, w, rfl, hway⟩ := h.onItsWay hwork
    exact h.begins hway hturn
  | next hwork =>
    obtain ⟨rfl, w, rfl, hway⟩ := h.onItsWay hwork
    by_cases hmore : w.gone ≠ [] ∨ w.coming ≠ []
    · exact h.goesOn hway (fun heq => by contradiction) (configureNext_goesOn h.orderly hwork hmore)
    · obtain ⟨hgone, hcoming⟩ := not_or.mp hmore
      exact h.finishes hway (not_not.mp hgone) (not_not.mp hcoming)
  | stopped hwork =>
    obtain ⟨rfl, w, rfl, hway⟩ := h.onItsWay hwork
    exact h.goesOn hway (fun heq => by contradiction) (configureStopped_goesOn h.orderly hwork)
  | launched hwork =>
    obtain ⟨rfl, w, rfl, hway⟩ := h.onItsWay hwork
    exact h.goesOn hway (fun heq => by contradiction)
      (configureLaunched_goesOn h.orderly hwork _)

theorem run (h : Alone low floor found desired call s) {events : List StationEvent}
    (hquiet : ∀ event ∈ events, event.changesLinks = false) :
    Alone low floor found desired call (s.run events) := by
  induction events generalizing s with
  | nil => exact h
  | cons event rest ih =>
    have hfirst := h.perform (hquiet event List.mem_cons_self)
    exact ih hfirst fun e he => hquiet e (List.mem_cons_of_mem event he)

end Alone

/-! ## What a configuration comes to -/

/-- The links are as a configuration wants them, and its summary tells what became of each. Given
are the links it found and the generations used before. -/
structure Converged (found : Roster String Link) (used : Nat → Prop) (desired : Fleet)
    (summary : Summary) (s : Station) : Prop where
  /-- Exactly the wanted studios are linked, save those whose launch failed. -/
  linked : ∀ name, s.registry.links.has name = true ↔
    name ∈ desired.keys ∧ name ∉ summary.launchFailed
  /-- Each link is for the studio as it is wanted. -/
  wanted : ∀ name link, s.registry.links.get? name = some link →
    desired.get? name = some link.studio
  /-- Its pool connects to the studio, within the bounds wanted. -/
  pools : ∀ name link, s.registry.links.get? name = some link → ∃ pool,
    s.pools.get? link.pool = some pool ∧ pool.host = link.studio.host ∧
      pool.port = link.studio.port ∧ pool.min = link.studio.minPool.toNat ∧
      pool.max = link.studio.maxPool.toNat
  /-- Its channel connects to the studio. -/
  channels : ∀ name link, s.registry.links.get? name = some link → ∃ channel,
    s.channels.get? link.channel = some channel ∧ channel.host = link.studio.host ∧
      channel.port = link.studio.port
  /-- Exactly the linked names are live, and the others stand nowhere. -/
  states : ∀ name, s.registry.states.get? name =
    if s.registry.links.has name then some .live else none
  /-- The summary names every wanted studio once, under one change, and no other. -/
  settled : summary.settled.Nodup ∧ ∀ name, name ∈ summary.settled ↔ name ∈ desired.keys
  /-- The summary names the removed links, which are those that were found and are not wanted. -/
  removed : summary.removed.Nodup ∧ ∀ name, name ∈ summary.removed ↔
    found.has name = true ∧ name ∉ desired.keys
  /-- Links that stay keep their generation. -/
  kept : ∀ name, name ∈ summary.unchanged ∨ name ∈ summary.resized → ∃ old link,
    found.get? name = some old ∧ s.registry.links.get? name = some link ∧
      link.generation = old.generation
  /-- New links have a generation beyond all that were used. -/
  fresh : ∀ name, name ∈ summary.added ∨ name ∈ summary.recreated → ∃ link,
    s.registry.links.get? name = some link ∧
      ∀ generation, used generation → generation < link.generation

namespace Done

variable {name : String} {link : Link}

theorem perm_keys (h : Done floor found desired summary s) :
    summary.settled.Perm desired.keys := by
  have hperm := h.progress.accounted
  rwa [List.map_nil, List.append_nil] at hperm

/-- A wanted studio went through one of the changes. -/
theorem made (h : Done floor found desired summary s) (hname : name ∈ desired.keys) :
    ∃ change studio, name ∈ summary.names change ∧ desired.get? name = some studio ∧
      change.Makes floor studio (found.get? name) (s.registry.links.get? name) := by
  obtain ⟨change, hmem⟩ := Summary.mem_settled_iff.mp (h.perm_keys.mem_iff.mpr hname)
  obtain ⟨studio, hstudio, hmade⟩ := h.progress.made change name hmem
  exact ⟨change, studio, hmem, hstudio, hmade⟩

theorem wanted_of_linked (h : Done floor found desired summary s)
    (hlink : s.registry.links.get? name = some link) :
    name ∈ desired.keys ∧ desired.get? name = some link.studio := by
  have hname : name ∈ desired.keys := by
    rw [Fleet.mem_keys_iff]
    intro hnone
    have hleft := h.progress.leftover name (hlink ▸ Option.some_ne_none link) hnone
    contradiction
  obtain ⟨change, studio, -, hstudio, hmade⟩ := h.made hname
  rcases hmade.now with ⟨-, hnow⟩ | ⟨-, link', hnow, hsame⟩
  · rw [hlink] at hnow
    contradiction
  · obtain rfl := Option.some.inj (hlink.symm.trans hnow)
    exact ⟨hname, hsame ▸ hstudio⟩

theorem linked_iff (h : Done floor found desired summary s) :
    s.registry.links.get? name ≠ none ↔ name ∈ desired.keys ∧ name ∉ summary.launchFailed := by
  constructor
  · intro hsome
    obtain ⟨link, hlink⟩ := Option.ne_none_iff_exists'.mp hsome
    refine ⟨(h.wanted_of_linked hlink).1, fun hfailed => ?_⟩
    obtain ⟨_, -, -, hnow⟩ := h.progress.made .launchFailed name hfailed
    exact hsome hnow
  · rintro ⟨hname, hlaunched⟩
    obtain ⟨change, studio, hmem, -, hmade⟩ := h.made hname
    rcases hmade.now with ⟨rfl, -⟩ | ⟨-, link, hnow, -⟩
    · exact absurd hmem hlaunched
    · rw [hnow]
      exact Option.some_ne_none link

theorem mem_removed_iff (h : Done floor found desired summary s) :
    name ∈ summary.removed ↔ found.get? name ≠ none ∧ name ∉ desired.keys := by
  have hremoved := h.progress.removed
  rw [List.map_nil, List.append_nil] at hremoved
  rw [show summary.removed = Registry.unwanted found desired from hremoved,
    Registry.mem_unwanted_iff, Fleet.mem_keys_iff, not_not]

/-- Once a configuration is over, the links have converged to it. -/
theorem converged (h : Done floor found desired summary s) {used : Nat → Prop}
    (hused : ∀ generation, used generation → generation < floor) :
    Converged found used desired summary s := by
  have hhas : ∀ (r : Roster String Link) (name : String), r.has name = true ↔ r.get? name ≠ none :=
    fun r name => Option.isSome_iff_ne_none
  have hfresh : ∀ link : Link, floor ≤ link.generation →
      ∀ generation, used generation → generation < link.generation :=
    fun link hfloor generation hg => Nat.lt_of_lt_of_le (hused generation hg) hfloor
  refine ⟨?_, ?_, ?_, ?_, ?_, ?_, ?_, ?_, ?_⟩
  · intro name
    rw [hhas]
    exact h.linked_iff
  · intro name link hlink
    exact (h.wanted_of_linked hlink).2
  · intro name link hlink
    obtain ⟨pool, hpool, hfixture⟩ :=
      Option.map_eq_some_iff.mp (h.inLine.linked name link hlink).pool
    obtain ⟨-, -, hhost, hport, hmin, hmax⟩ := Pool.Fixture.mk.inj hfixture
    exact ⟨pool, hpool, hhost, hport, hmin, hmax⟩
  · intro name link hlink
    obtain ⟨channel, hchannel, htarget⟩ :=
      Option.map_eq_some_iff.mp (h.inLine.linked name link hlink).channel
    obtain ⟨hhost, hport⟩ := Prod.mk.inj htarget
    exact ⟨channel, hchannel, hhost, hport⟩
  · intro name
    rw [h.inLine.live name List.not_mem_nil, Roster.has]
    cases s.registry.links.get? name <;> rfl
  · exact ⟨h.perm_keys.nodup_iff.mpr desired.nodup_keys, fun name => h.perm_keys.mem_iff⟩
  · have hremoved := h.progress.removed
    rw [List.map_nil, List.append_nil] at hremoved
    refine ⟨?_, fun name => ?_⟩
    · rw [show summary.removed = Registry.unwanted found desired from hremoved]
      exact Registry.nodup_unwanted found desired
    · rw [hhas]
      exact h.mem_removed_iff
  · rintro name (hname | hname)
    · obtain ⟨_, -, old, hfound, -, hnow⟩ := h.progress.made .unchanged name hname
      exact ⟨old, old, hfound, hnow, rfl⟩
    · obtain ⟨studio, -, old, hfound, -, -, hnow⟩ := h.progress.made .resized name hname
      exact ⟨old, { old with studio := studio }, hfound, hnow, rfl⟩
  · rintro name (hname | hname)
    · obtain ⟨_, -, -, link, hnow, -, hfloor⟩ := h.progress.made .added name hname
      exact ⟨link, hnow, hfresh link hfloor⟩
    · obtain ⟨_, -, _, link, -, -, hnow, -, hfloor⟩ := h.progress.made .recreated name hname
      exact ⟨link, hnow, hfresh link hfloor⟩

end Done

/-- A configuration that is made while no such call is at work is alone from then on. -/
theorem alone_configure (h : s.Orderly low floor) (hidle : ∀ c, s.work? c = none)
    (hnew : s.IsNew call) (hsound : desired.validate = .ok ()) :
    Alone low floor s.registry.links desired call (s.perform (.configure call desired)) := by
  have hstart : s.perform (.configure call desired) =
      s.startJob call (.configure { desired := desired }) := by
    rw [perform, if_pos hnew, configure, hsound]
  have horderly := h.perform (.configure call desired)
  rw [hstart] at horderly ⊢
  have hwake := aside_startJob s call (.configure { desired := desired })
  have hwork : ∀ c, (s.startJob call (.configure { desired := desired })).work? c =
      if c = call then some (.configure { desired := desired }, .queued) else s.work? c := by
    intro c
    rw [hwake.work]
    exact work_putJob _ call _ .queued c
  refine ⟨horderly, ?_, .inl ⟨{ desired := desired }, .queued, ?_, rfl, ?_, ?_, ?_⟩⟩
  · intro c hc
    rw [hwork, if_neg hc]
    exact hidle c
  · rw [hwork, if_pos rfl]
  · intro _
    rw [hwake.registry]
    rfl
  · intro heq
    exact absurd rfl heq
  · intro summary hmem
    exact hnew.2 _ (hwake.summaries call summary hmem) rfl

/-- Configuring converges from every history: take any run from the start that left no call at work
that changes the set of links, then a new call that configures studios, and whatever happens without
another such call. Once the configuration has given its summary, the links have converged. -/
theorem configure_converges (settings : RegistrySettings) (before after : List StationEvent)
    (call : CallId) (desired : Fleet) (summary : Summary)
    (hidle : ∀ c, ((opened settings).run before).work? c = none)
    (hnew : ((opened settings).run before).IsNew call) (hsound : desired.validate = .ok ())
    (hquiet : ∀ event ∈ after, event.changesLinks = false)
    (hanswer : (call, .summary summary) ∈
      ((opened settings).run (before ++ .configure call desired :: after)).answers) :
    Converged ((opened settings).run before).registry.links (Used settings before) desired summary
      ((opened settings).run (before ++ .configure call desired :: after)) := by
  have hbefore := ((orderly_opened settings).run before).refresh hidle (Nat.le_refl _)
  rw [run_append] at hanswer ⊢
  have halone := (alone_configure hbefore hidle hnew hsound).run hquiet
  rcases halone.stage with ⟨w, phase, hway⟩ | ⟨-, hdone⟩
  · exact absurd hanswer (hway.unanswered summary)
  · exact (hdone summary hanswer).converged fun generation hused => lt_of_used hused

/-! A first configuration links four studios. The second keeps one, gives one other bounds, moves
one to another port, leaves one out, and wants two more, of which one cannot be launched. -/

def camera : Studio := { name := "camera", host := "10.0.0.1", port := 9000 }

def desk : Studio := { name := "desk", host := "10.0.0.2", port := 9000 }

def mixer : Studio := { name := "mixer", host := "10.0.0.3", port := 9000 }

def archive : Studio := { name := "archive", host := "10.0.0.4", port := 9000 }

def firstFleet : Fleet := (((({} : Fleet).add camera).add desk).add mixer).add archive

def secondFleet : Fleet :=
  ((((({} : Fleet).add camera).add { desk with maxPool := 3 }).add { mixer with port := 9001 }).add
    { name := "stage", host := "10.0.0.5", port := 9000 }).add
    { name := "wall", host := "10.0.0.6", port := 9000, launchCommand := some "wall --serve"
      autoStart := true }

def firstConfigured : List StationEvent :=
  .configure 1 firstFleet :: List.replicate 6 (.resume (.call 1))

/-- The second configuration takes its turns; two listeners end and one launch fails. -/
def secondConfigured : List StationEvent :=
  List.replicate 3 (.resume (.call 2)) ++ .resume (.listener 0) ::
    List.replicate 7 (.resume (.call 2)) ++ .resume (.listener 3) ::
    List.replicate 4 (.resume (.call 2)) ++
    .hear (.call 2) (.launched (some (.launch "wall" "no such file"))) ::
    List.replicate 2 (.resume (.call 2))

def secondSummary : Summary where
  added := ["stage"]
  removed := ["archive"]
  recreated := ["mixer"]
  resized := ["desk"]
  unchanged := ["camera"]
  launchFailed := ["wall"]

theorem secondFleet_converges :
    Converged ((opened {}).run firstConfigured).registry.links (Used {} firstConfigured) secondFleet
      secondSummary
      ((opened {}).run (firstConfigured ++ .configure 2 secondFleet :: secondConfigured)) := by
  have hcalls : ((opened {}).run firstConfigured).calls.entries = [] := by cbv
  have hanswers : ((opened {}).run firstConfigured).answers =
      [(1, .summary { added := ["archive", "camera", "desk", "mixer"] })] := by cbv
  have hlater :
      ((opened {}).run (firstConfigured ++ .configure 2 secondFleet :: secondConfigured)).answers =
        [(1, .summary { added := ["archive", "camera", "desk", "mixer"] }),
          (2, .summary secondSummary)] := by cbv
  refine configure_converges {} firstConfigured secondConfigured 2 secondFleet secondSummary
    ?_ ?_ ?_ ?_ ?_
  · intro c
    rw [work?, Roster.get?, hcalls]
    rfl
  · refine ⟨by rw [Roster.get?, hcalls]; rfl, ?_⟩
    intro e he
    rw [hanswers, List.mem_singleton] at he
    rw [he]
    decide
  · decide
  · decide
  · rw [hlater]
    exact List.mem_cons_of_mem _ List.mem_cons_self

end BroadcastLink.Station
