import BroadcastLink.Proofs.Station.Reconciling

/-!
# A configuration, piece by piece

Every piece of work of a configuration takes it further towards the studios it wants: an unwanted
link is gone, or a wanted studio is dealt with, or a name is in hand to be dealt with next. What was
configured and what was found at the start stay the same all along.
-/

namespace BroadcastLink.Station

variable {low floor : Nat} {s₀ s s' : Station} {call : CallId} {away : List String}
  {name : String} {studio : Studio} {link : Link} {w w' : Reconfiguration}
  {coming : List (String × Studio)} {links : Roster String Link}

/-- A configuration goes on in an orderly station. -/
structure GoesOn (low floor : Nat) (call : CallId) (w : Reconfiguration) (s s' : Station) :
    Prop where
  orderly : s'.Orderly low floor
  work : ∃ w' phase, s'.work? call = some (.configure w', phase) ∧ phase ≠ .queued ∧
    w'.desired = w.desired ∧ w'.current = w.current
  elsewhere : Elsewhere call s s'

theorem GoesOn.aside (h : GoesOn low floor call w s₀ s) (haside : Aside s s') :
    GoesOn low floor call w s₀ s' := by
  refine ⟨h.orderly.aside haside, ?_, h.elsewhere.aside haside⟩
  rw [haside.work]
  exact h.work

/-- Beginning to drain a pool is aside. -/
theorem aside_takeDown (htidy : s.Tidy) (call : CallId) (job : Job) (link : Link) :
    Aside (s.putJob call job (.draining link)) (s.takeDown call job link) :=
  aside_onPool (s := s.putJob call job (.draining link)) htidy
    fun p _ => Pool.onlyCloses_startDrain p call s.now

/-! ## How a piece of work ends -/

namespace AtWork

/-- A configuration comes to its next wait. -/
theorem goOn (h : AtWork low floor call s₀ s away) (stage : JobStage)
    (hhand : (Job.configure w').atHand stage.phase = away) (hphase : stage.phase ≠ .queued)
    (hplan : (Job.configure w').InPlan floor s.registry stage.phase)
    (hdesired : w'.desired = w.desired) (hcurrent : w'.current = w.current) :
    GoesOn low floor call w s₀ (s.putJob call (.configure w') stage) := by
  refine ⟨h.putJob hhand hplan, ⟨w', stage.phase, ?_, hphase, hdesired, hcurrent⟩, ?_, ?_⟩
  · exact (work_putJob s call _ stage call).trans (if_pos rfl)
  · intro c hne
    exact ((work_putJob s call _ stage c).trans (if_neg hne)).trans (h.elsewhere.work c hne)
  · exact h.elsewhere.summaries

/-- A configuration takes a link down. -/
theorem down (h : AtWork low floor call s₀ s []) (link : Link)
    (hsound : w.desired.validate = .ok ()) (hprogress : w.Progress floor s.registry.links [])
    (hnext : w.upNext = [name])
    (hunderway : w.Underway (.down link)) :
    GoesOn low floor call w s₀
      ((s.onRegistry fun r => (r.setState name .reconfiguring).removeLink name).takeDown call
        (.configure w) link) := by
  have htaken := h.removeLink name .reconfiguring
  have hplan : w.Progress floor (s.registry.links.erase name) w.upNext := by
    rw [hnext]
    exact hprogress.take hnext
      fun other hne => (Roster.get?_erase _ other name).trans (if_neg hne)
  have hgoes := htaken.goOn (w := w) (.draining link) hnext
    (fun heq => by contradiction) ⟨hsound, fun _ => ⟨hplan, hunderway⟩⟩ rfl rfl
  exact hgoes.aside (aside_takeDown htaken.ground.tidy call (.configure w) link)

/-- A configuration is done with the studio in hand. -/
theorem settle (h : AtWork low floor call s₀ s []) (change : Change)
    (hsound : w.desired.validate = .ok ()) (hprogress : w.Progress floor links [name])
    (hcoming : w.coming = (name, studio) :: coming)
    (hothers : ∀ other, other ≠ name → s.registry.links.get? other = links.get? other)
    (hmade : change.Makes floor studio (w.current.get? name) (s.registry.links.get? name)) :
    GoesOn low floor call w s₀
      (s.putJob call (.configure
        { w with coming := coming, summary := w.summary.note name change }) .next) := by
  have hplan := hprogress.note hcoming hothers hmade
  exact h.goOn .next rfl (fun heq => by contradiction)
    ⟨hsound, fun _ => ⟨hplan, trivial⟩⟩ rfl rfl

end AtWork

/-- The links after one more. -/
theorem links_insertLink (s : Station) (studio : Studio) (other : String) :
    (s.insertLink studio).registry.links.get? other =
      if other = studio.name
      then some ⟨studio, s.nextPool, s.nextChannel, s.registry.nextGeneration, s.now⟩
      else s.registry.links.get? other := by
  rw [(aside_insertLink s studio).registry]
  exact links_withLink s studio other

/-- A configuration is done with the studio in hand by linking it. -/
theorem AtWork.settleLinked (h : AtWork low floor call s₀ s [studio.name]) (change : Change)
    (hsound : w.desired.validate = .ok ()) (hstudio : studio.validate = .ok ())
    (hprogress : w.Progress floor s.registry.links [studio.name])
    (hcoming : w.coming = (studio.name, studio) :: coming)
    (hmade : ∀ link : Link, link.studio = studio → floor ≤ link.generation →
      change.Makes floor studio (w.current.get? studio.name) (some link)) :
    GoesOn low floor call w s₀
      ((s.insertLink studio).putJob call (.configure
        { w with coming := coming, summary := w.summary.note studio.name change }) .next) := by
  refine (h.insertLink hstudio).settle change hsound hprogress hcoming ?_ ?_
  · intro other hne
    rw [links_insertLink, if_neg hne]
  · rw [links_insertLink, if_pos rfl]
    exact hmade _ rfl h.fresh

/-! ## Resizing -/

/-- A pool of a studio at the same place gets the bounds of the other. -/
theorem fixture_resize {p : Pool} {id : PoolId} (hp : p.fixture = link.studio.fixture id)
    (hname : link.studio.name = studio.name) (htarget : link.studio.sameTarget studio = true)
    (hsound : studio.validate = .ok ()) (now : Instant) :
    (p.resize studio.minPool.toNat studio.maxPool.toNat now).fixture = studio.fixture id := by
  obtain ⟨hmax, hmin⟩ := Studio.bounds_of_validate hsound
  have hplace : link.studio.host = studio.host ∧ link.studio.port = studio.port := by
    simpa [Studio.sameTarget] using htarget
  have hframe := congrArg Pool.Frame.fixture
    (Pool.frame_resize p studio.minPool.toNat studio.maxPool.toNat now)
  refine hframe.trans ?_
  show ({ p.fixture with
    min := Nat.min studio.minPool.toNat (Nat.max studio.maxPool.toNat 1)
    max := Nat.max studio.maxPool.toNat 1 } : Pool.Fixture) = studio.fixture id
  rw [hp, hmax, hmin]
  show (⟨id, link.studio.name, link.studio.host, link.studio.port, _, _⟩ : Pool.Fixture) = _
  rw [hname, hplace.1, hplace.2]
  rfl

/-- Doing what a resized pool asks for is aside. -/
theorem aside_resizePool (htidy : s.Tidy) {id : PoolId} {p : Pool}
    (hp : s.pools.get? id = some p) (min max : Nat) :
    Aside (s.putBack id (p.resize min max s.now)) (s.onPool id (·.resize min max s.now)) := by
  refine aside_onPool_settled (f := (·.resize min max s.now)) htidy hp fun c hc => ?_
  have hframe := congrArg Pool.Frame.refused (Pool.frame_resize p min max s.now)
  have hnobody : p.refused = [] := congrArg (List.filterMap PoolAct.refused?) (htidy _ p hp)
  rw [show (p.resize _ _ _).refused = p.refused from hframe, hnobody] at hc
  contradiction

theorem aside_resize (htidy : s.Tidy) {p : Pool} (hp : s.pools.get? link.pool = some p)
    (name : String) (studio : Studio) :
    Aside (s.withBounds name link (p.resize studio.minPool.toNat studio.maxPool.toNat s.now) studio)
      (((s.onRegistry (·.setState name .reconfiguring)).onPool link.pool
        (·.resize studio.minPool.toNat studio.maxPool.toNat s.now)).onRegistry
          (·.replaceLink name { link with studio := studio })) := by
  have hsettled := aside_resizePool (s := s.onRegistry (·.setState name .reconfiguring)) htidy hp
    studio.minPool.toNat studio.maxPool.toNat
  have hsame : s.withBounds name link
        (p.resize studio.minPool.toNat studio.maxPool.toNat s.now) studio =
      ((s.onRegistry (·.setState name .reconfiguring)).putBack link.pool
        (p.resize studio.minPool.toNat studio.maxPool.toNat s.now)).onRegistry
          (·.replaceLink name { link with studio := studio }) := by
    simp [withBounds, onRegistry, putBack, Registry.replaceLink, Registry.setState]
  rw [hsame]
  exact hsettled.onRegistry _

/-! ## The pieces -/

/-- A configuration past being queued is in the middle of its work. -/
theorem Orderly.configuring (h : s.Orderly low floor) {phase : JobPhase}
    (hwork : s.work? call = some (.configure w, phase)) (hphase : phase ≠ .queued) :
    AtWork low floor call s s ((Job.configure w).atHand phase) ∧ w.desired.validate = .ok () ∧
      w.Progress floor s.registry.links ((Job.configure w).atHand phase) ∧ w.Underway phase := by
  obtain ⟨hsound, hplan⟩ := h.plans call _ phase hwork
  have hholder := h.turns.alone call _ phase hwork hphase
  exact ⟨h.atWork hholder hwork, hsound, hplan hphase⟩

theorem upNext_of_gone {gone : List (String × Link)} (hgone : w.gone = (name, link) :: gone) :
    w.upNext = [name] := by
  rw [Reconfiguration.upNext, hgone]
  rfl

theorem upNext_of_coming (hgone : w.gone = []) (hcoming : w.coming = (name, studio) :: coming) :
    w.upNext = [name] := by
  rw [Reconfiguration.upNext, hgone, hcoming]
  rfl

/-- A configuration deals with a studio that has a link. -/
theorem AtWork.settleFound (h : AtWork low floor call s₀ s [])
    (hsound : w.desired.validate = .ok ()) (hprogress : w.Progress floor s.registry.links [])
    (hgone : w.gone = [])
    (hcoming : w.coming = (name, studio) :: coming) (hfound : w.current.get? name = some link) :
    GoesOn low floor call w s₀ (s.configureNext call w) := by
  obtain ⟨hwanted, hsame⟩ := hprogress.coming name studio (hcoming ▸ List.mem_cons_self)
  obtain ⟨hname, hvalid⟩ := Fleet.sound_of_validate hsound hwanted
  have hlink : s.registry.links.get? name = some link := (hsame List.not_mem_nil).trans hfound
  have hnext := upNext_of_coming hgone hcoming
  have htaken := hprogress.take hnext fun _ _ => rfl
  have hlinked := h.inLine.linked name link hlink
  obtain ⟨desired, current, gone, upcoming, summary⟩ := w
  obtain rfl : gone = [] := hgone
  obtain rfl : upcoming = (name, studio) :: coming := hcoming
  replace hfound : current.get? name = some link := hfound
  simp only [configureNext, hfound]
  split
  · rename_i heq
    exact h.settle .unchanged hsound htaken rfl (fun _ _ => rfl)
      ⟨link, hfound, heq, hlink⟩
  · rename_i hne
    split
    · rename_i htarget
      obtain ⟨p, hp⟩ := Option.ne_none_iff_exists'.mp hlinked.pool_ne_none
      have hfixture : p.fixture = link.studio.fixture link.pool := by
        have hpool := hlinked.pool
        rw [hp] at hpool
        exact Option.some.inj hpool
      have hbounds := h.withBounds hlink hname hvalid htarget hp
        (fixture_resize hfixture (hlinked.named.trans hname.symm) htarget hvalid s.now)
      have hresize := aside_resize h.ground.tidy hp name studio
      refine (hbounds.aside hresize).settle .resized hsound htaken rfl ?_ ?_
      · intro other hother
        rw [hresize.registry, links_withBounds, if_neg hother]
      · rw [hresize.registry, links_withBounds, if_pos rfl]
        exact ⟨link, hfound, hne, htarget, rfl⟩
    · rename_i htarget
      refine h.down link hsound hprogress hnext ?_
      intro _ name' studio' coming' hcoming'
      obtain ⟨hhead, -⟩ := List.cons.inj hcoming'
      obtain ⟨rfl, rfl⟩ := Prod.mk.inj hhead
      exact ⟨link, hfound, Bool.eq_false_iff.mpr htarget⟩

/-- A configuration deals with a studio that has no link. -/
theorem AtWork.settleMissing (h : AtWork low floor call s₀ s [])
    (hsound : w.desired.validate = .ok ()) (hprogress : w.Progress floor s.registry.links [])
    (hgone : w.gone = []) (hcoming : w.coming = (name, studio) :: coming)
    (hmissing : w.current.get? name = none) :
    GoesOn low floor call w s₀ (s.configureNext call w) := by
  obtain ⟨hwanted, hsame⟩ := hprogress.coming name studio (hcoming ▸ List.mem_cons_self)
  obtain ⟨rfl, hvalid⟩ := Fleet.sound_of_validate hsound hwanted
  have habsent : s.registry.links.get? studio.name = none :=
    (hsame List.not_mem_nil).trans hmissing
  have hnext := upNext_of_coming hgone hcoming
  have htaken := hprogress.take hnext fun _ _ => rfl
  obtain ⟨desired, current, gone, upcoming, summary⟩ := w
  obtain rfl : gone = [] := hgone
  obtain rfl : upcoming = (studio.name, studio) :: coming := hcoming
  replace hmissing : current.get? studio.name = none := hmissing
  simp only [configureNext, hmissing]
  split
  · have hstarting := (h.takeAbsent habsent).setState
      (List.mem_singleton_self studio.name) .starting
    refine hstarting.goOn (.launching studio) hnext (fun heq => by contradiction)
      ⟨hsound, fun _ => ⟨htaken, rfl, hmissing, coming, rfl⟩⟩ rfl rfl
  · exact (h.takeAbsent habsent).settleLinked .added hsound hvalid htaken rfl
      fun link hstudio hfloor => ⟨hmissing, link, rfl, hstudio, hfloor⟩

/-- The next piece of work of a configuration that is not done yet. -/
theorem configureNext_goesOn (h : s.Orderly low floor)
    (hwork : s.work? call = some (.configure w, .next)) (hmore : w.gone ≠ [] ∨ w.coming ≠ []) :
    GoesOn low floor call w s (s.configureNext call w) := by
  obtain ⟨hat, hsound, hprogress, -⟩ := h.configuring hwork fun heq => by contradiction
  cases hgone : w.gone with
  | cons first gone =>
    obtain ⟨name, link⟩ := first
    have hdown := hat.down link hsound hprogress (upNext_of_gone hgone)
      fun hnone => by rw [hgone] at hnone; contradiction
    unfold configureNext
    simp only [hgone]
    exact hdown
  | nil =>
    cases hcoming : w.coming with
    | nil => exact absurd hmore (by simp [hgone, hcoming])
    | cons first coming =>
      obtain ⟨name, studio⟩ := first
      cases hfound : w.current.get? name with
      | some link => exact hat.settleFound hsound hprogress hgone hcoming hfound
      | none => exact hat.settleMissing hsound hprogress hgone hcoming hfound

/-- A configuration goes on when a link was taken down. -/
theorem configureStopped_goesOn (h : s.Orderly low floor)
    (hwork : s.work? call = some (.configure w, .down link)) :
    GoesOn low floor call w s (s.configureStopped call w) := by
  obtain ⟨hat, hsound, hprogress, hunderway⟩ := h.configuring hwork fun heq => by contradiction
  replace hat : AtWork low floor call s s w.upNext := hat
  replace hprogress : w.Progress floor s.registry.links w.upNext := hprogress
  unfold configureStopped
  cases hgone : w.gone with
  | cons first gone =>
    obtain ⟨name, link⟩ := first
    rw [upNext_of_gone hgone] at hat hprogress
    have habsent := hat.inLine.away name List.mem_cons_self
    exact hat.clearState.goOn .next rfl (fun heq => by contradiction)
      ⟨hsound, fun _ => ⟨hprogress.drop hgone habsent, trivial⟩⟩ rfl rfl
  | nil =>
    cases hcoming : w.coming with
    | nil =>
      have hnext : w.upNext = [] := by
        rw [Reconfiguration.upNext, hgone, hcoming]
        rfl
      rw [hnext] at hat hprogress
      exact hat.goOn .next rfl (fun heq => by contradiction)
        ⟨hsound, fun _ => ⟨hprogress, trivial⟩⟩ rfl rfl
    | cons first coming =>
      obtain ⟨name, studio⟩ := first
      obtain ⟨hwanted, -⟩ := hprogress.coming name studio (hcoming ▸ List.mem_cons_self)
      obtain ⟨rfl, hvalid⟩ := Fleet.sound_of_validate hsound hwanted
      obtain ⟨old, hfound, htarget⟩ := hunderway hgone _ studio coming hcoming
      rw [upNext_of_coming hgone hcoming] at hat hprogress
      obtain ⟨desired, current, gone, upcoming, summary⟩ := w
      obtain rfl : gone = [] := hgone
      obtain rfl : upcoming = (studio.name, studio) :: coming := hcoming
      exact hat.settleLinked .recreated hsound hvalid hprogress rfl
        fun link hstudio hfloor => ⟨old, link, hfound, htarget, rfl, hstudio, hfloor⟩

/-- A configuration goes on when a studio was launched or its launch failed. -/
theorem configureLaunched_goesOn (h : s.Orderly low floor)
    (hwork : s.work? call = some (.configure w, .up studio)) (fault : Option Fault) :
    GoesOn low floor call w s (s.configureLaunched call w studio fault) := by
  obtain ⟨hat, hsound, hprogress, hgone, hmissing, coming, hcoming⟩ :=
    h.configuring hwork fun heq => by contradiction
  replace hat : AtWork low floor call s s w.upNext := hat
  replace hprogress : w.Progress floor s.registry.links w.upNext := hprogress
  rw [upNext_of_coming hgone hcoming] at hat hprogress
  obtain ⟨hwanted, -⟩ := hprogress.coming _ studio (hcoming ▸ List.mem_cons_self)
  have hvalid := (Fleet.sound_of_validate hsound hwanted).2
  unfold configureLaunched
  simp only [hcoming, List.head?_cons, Option.map_some, Option.getD_some, List.tail_cons]
  cases fault with
  | none =>
    exact hat.settleLinked .added hsound hvalid hprogress hcoming
      fun link hstudio hfloor => ⟨hmissing, link, rfl, hstudio, hfloor⟩
  | some _ =>
    have habsent := hat.inLine.away studio.name List.mem_cons_self
    exact hat.clearState.settle .launchFailed hsound hprogress hcoming
      (fun _ _ => rfl) ⟨hmissing, habsent⟩

/-- A configuration with nothing left to do is over. -/
theorem configureNext_of_done (s : Station) (call : CallId) (hgone : w.gone = [])
    (hcoming : w.coming = []) : s.configureNext call w =
      (s.onRegistry fun r => { r with desired := w.desired }).finishJob call
        (.summary w.summary) := by
  unfold configureNext
  simp only [hgone, hcoming]

theorem Orderly.configureNext (h : s.Orderly low floor)
    (hwork : s.work? call = some (.configure w, .next)) :
    (s.configureNext call w).Orderly low floor := by
  by_cases hmore : w.gone ≠ [] ∨ w.coming ≠ []
  · exact (configureNext_goesOn h hwork hmore).orderly
  · obtain ⟨hgone, hcoming⟩ := not_or.mp hmore
    obtain ⟨hat, hsound, -, -⟩ := h.configuring hwork fun heq => by contradiction
    rw [configureNext_of_done s call (not_not.mp hgone) (not_not.mp hcoming)]
    have hline : (s.onRegistry fun r => { r with desired := w.desired }).InLine [] :=
      hat.inLine.shrink (fun _ => rfl) (fun _ => rfl) rfl (fun _ _ hlink => hlink) hat.inLine.live
        hat.inLine.away
    exact (hat.onRegistry hline rfl rfl hsound).finishJob _

end BroadcastLink.Station
