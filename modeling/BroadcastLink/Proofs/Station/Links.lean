import BroadcastLink.Proofs.Station.Turns
import BroadcastLink.Proofs.Studio.Fleets

/-!
# Links in line with their studios

Between two calls that change the set of links, every link stands under the name of its studio, its
pool and its channel connect to where the studio is, and exactly the linked names are live. While
such a call is at work, this holds of all but the names it has taken in hand.
-/

namespace BroadcastLink

/-- Name, host, port and bounds of a pool made for a studio. -/
def Studio.fixture (studio : Studio) (pool : PoolId) : Pool.Fixture :=
  ⟨pool, studio.name, studio.host, studio.port, studio.minPool.toNat, studio.maxPool.toNat⟩

namespace Station

variable {s s' : Station} {away away' : List String} {name : String} {studio : Studio} {link : Link}

/-- Nothing is left to do for a pool, and the next numbers for pools and channels are free. -/
structure Ground (s : Station) : Prop where
  tidy : s.Tidy
  pools : ∀ id, s.pools.get? id ≠ none → id < s.pools.size
  channels : ∀ id, s.channels.get? id ≠ none → id < s.channels.size

theorem Ground.aside (h : s.Ground) (haside : Aside s s') : s'.Ground := by
  refine ⟨haside.tidy h.tidy, ?_, ?_⟩
  · intro id hid
    have hold : (s.pools.get? id).map Pool.fixture ≠ none := by
      rw [← haside.pools id]
      exact fun hnone => hid (Option.map_eq_none_iff.mp hnone)
    rw [haside.poolCount]
    exact h.pools id fun hnone => hold (Option.map_eq_none_iff.mpr hnone)
  · intro id hid
    have hold : (s.channels.get? id).map Channel.target ≠ none := by
      rw [← haside.channels id]
      exact fun hnone => hid (Option.map_eq_none_iff.mp hnone)
    rw [haside.channelCount]
    exact h.channels id fun hnone => hold (Option.map_eq_none_iff.mpr hnone)

theorem Ground.same (h : s.Ground) (hpools : s'.pools = s.pools)
    (hchannels : s'.channels = s.channels) : s'.Ground := by
  refine ⟨?_, ?_, ?_⟩
  · unfold Tidy
    rw [hpools]
    exact h.tidy
  · rw [hpools]
    exact h.pools
  · rw [hchannels]
    exact h.channels

/-- A link stands for its studio: it has the studio's name, and its pool and its channel connect to
the studio, the pool within the studio's bounds. -/
structure Linked (s : Station) (name : String) (link : Link) : Prop where
  named : link.studio.name = name
  sound : link.studio.validate = .ok ()
  pool : (s.pools.get? link.pool).map Pool.fixture = some (link.studio.fixture link.pool)
  channel : (s.channels.get? link.channel).map Channel.target =
    some (link.studio.host, link.studio.port)
  generation : link.generation < s.registry.nextGeneration

/-- The links are in line with their studios and the states with the links, apart from the names
that were taken in hand and have no link. -/
structure InLine (s : Station) (away : List String) : Prop where
  linked : ∀ name link, s.registry.links.get? name = some link → s.Linked name link
  apart : ∀ name other link link', s.registry.links.get? name = some link →
    s.registry.links.get? other = some link' → link.pool = link'.pool → name = other
  live : ∀ name, name ∉ away →
    s.registry.states.get? name = (s.registry.links.get? name).map fun _ => .live
  away : ∀ name ∈ away, s.registry.links.get? name = none

theorem Linked.pool_ne_none (h : s.Linked name link) : s.pools.get? link.pool ≠ none := by
  intro hnone
  have hpool := h.pool
  rw [hnone] at hpool
  contradiction

theorem Linked.channel_ne_none (h : s.Linked name link) :
    s.channels.get? link.channel ≠ none := by
  intro hnone
  have hchannel := h.channel
  rw [hnone] at hchannel
  contradiction

/-- A link depends on its pool, its channel and the next generation alone. -/
theorem Linked.same (h : s.Linked name link)
    (hpool : (s'.pools.get? link.pool).map Pool.fixture =
      (s.pools.get? link.pool).map Pool.fixture)
    (hchannel : (s'.channels.get? link.channel).map Channel.target =
      (s.channels.get? link.channel).map Channel.target)
    (hgeneration : s.registry.nextGeneration ≤ s'.registry.nextGeneration) :
    s'.Linked name link :=
  ⟨h.named, h.sound, hpool.trans h.pool, hchannel.trans h.channel,
    Nat.lt_of_lt_of_le h.generation hgeneration⟩

namespace InLine

/-- Links may be taken out, as long as the states follow. -/
theorem shrink (h : s.InLine away)
    (hpools : ∀ id, (s'.pools.get? id).map Pool.fixture = (s.pools.get? id).map Pool.fixture)
    (hchannels : ∀ id,
      (s'.channels.get? id).map Channel.target = (s.channels.get? id).map Channel.target)
    (hgeneration : s'.registry.nextGeneration = s.registry.nextGeneration)
    (hlinks : ∀ name link, s'.registry.links.get? name = some link →
      s.registry.links.get? name = some link)
    (hlive : ∀ name, name ∉ away' →
      s'.registry.states.get? name = (s'.registry.links.get? name).map fun _ => .live)
    (haway : ∀ name ∈ away', s'.registry.links.get? name = none) : s'.InLine away' := by
  refine ⟨?_, ?_, hlive, haway⟩
  · intro name link hlink
    have hold := h.linked name link (hlinks name link hlink)
    exact hold.same (hpools _) (hchannels _) (Nat.le_of_eq hgeneration.symm)
  · intro name other link link' hname hother hpool
    exact h.apart name other link link' (hlinks name link hname) (hlinks other link' hother) hpool

theorem aside (h : s.InLine away) (haside : Aside s s') : s'.InLine away := by
  refine h.shrink haside.pools haside.channels ?_ ?_ ?_ ?_ <;> rw [haside.registry]
  · exact fun _ _ hlink => hlink
  · exact h.live
  · exact h.away

/-- A name without a link may be taken in hand. -/
theorem takeAbsent (h : s.InLine []) (habsent : s.registry.links.get? name = none) :
    s.InLine [name] := by
  refine ⟨h.linked, h.apart, fun other _ => h.live other List.not_mem_nil, ?_⟩
  intro other hother
  rw [List.mem_singleton.mp hother]
  exact habsent

/-- A name is taken in hand by taking its link out. -/
theorem removeLink (h : s.InLine []) (name : String) :
    (s.onRegistry (·.removeLink name)).InLine [name] := by
  have hget : ∀ other, (s.registry.links.erase name).get? other =
      if other = name then none else s.registry.links.get? other :=
    fun other => Roster.get?_erase _ other name
  refine h.shrink (fun _ => rfl) (fun _ => rfl) rfl ?_ ?_ ?_
  · intro other link hlink
    replace hlink := (hget other).symm.trans hlink
    split at hlink
    · contradiction
    · exact hlink
  · intro other hother
    have hne : other ≠ name := fun heq => hother (heq ▸ List.mem_cons_self)
    refine (h.live other List.not_mem_nil).trans (congrArg (Option.map _) ?_)
    exact ((hget other).trans (if_neg hne)).symm
  · intro other hother
    exact (hget other).trans (if_pos (List.mem_singleton.mp hother))

/-- All names are taken in hand at once. -/
theorem removeAll (h : s.InLine []) :
    (s.onRegistry fun r => { r with links := {} }).InLine
      ((Registry.byName s.registry.links.entries).map (·.1)) := by
  refine h.shrink (fun _ => rfl) (fun _ => rfl) rfl ?_ ?_ fun _ _ => rfl
  · intro other link hlink
    contradiction
  · intro other hother
    have habsent : s.registry.links.get? other = none := by
      cases hlink : s.registry.links.get? other with
      | none => rfl
      | some link =>
        have hentry := Roster.mem_entries_iff.mpr hlink
        exact absurd (List.mem_map.mpr ⟨_, List.mem_mergeSort.mpr hentry, rfl⟩) hother
    have hstate := h.live other List.not_mem_nil
    rwa [habsent] at hstate

/-- The state of a name in hand may be anything. -/
theorem setState (h : s.InLine away) (hname : name ∈ away) (state : StudioState) :
    (s.onRegistry (·.setState name state)).InLine away := by
  refine h.shrink (fun _ => rfl) (fun _ => rfl) rfl (fun _ _ hlink => hlink) ?_ h.away
  intro other hother
  have hne : other ≠ name := fun heq => hother (heq ▸ hname)
  exact ((Roster.get?_put _ other name state).trans (if_neg hne)).trans (h.live other hother)

/-- A name in hand is let go as an absent one. -/
theorem clearState (h : s.InLine (name :: away)) :
    (s.onRegistry (·.clearState name)).InLine away := by
  refine h.shrink (fun _ => rfl) (fun _ => rfl) rfl (fun _ _ hlink => hlink) ?_
    fun other hother => h.away other (List.mem_cons_of_mem name hother)
  intro other hother
  refine (Roster.get?_erase _ other name).trans ?_
  split
  · rename_i heq
    have habsent := h.away name List.mem_cons_self
    rw [heq]
    exact (congrArg (Option.map _) habsent).symm
  · rename_i hne
    exact h.live other fun hmem => (List.mem_cons.mp hmem).elim hne hother

end InLine

/-! ## A new link -/

/-- The station with a studio linked over a new pool and a new channel. -/
def withLink (s : Station) (studio : Studio) : Station :=
  { s with
    pools := s.pools.put s.nextPool (.forStudio s.nextPool studio s.registry.settings.pool s.now)
    channels := s.channels.put s.nextChannel
      (.toStudio s.nextChannel studio s.registry.settings.channel s.now)
    registry := s.registry.insertLink studio s.nextPool s.nextChannel s.now }

theorem links_withLink (s : Station) (studio : Studio) (other : String) :
    (s.withLink studio).registry.links.get? other =
      if other = studio.name
      then some ⟨studio, s.nextPool, s.nextChannel, s.registry.nextGeneration, s.now⟩
      else s.registry.links.get? other :=
  Roster.get?_put _ _ _ _

theorem pools_withLink (s : Station) (studio : Studio) (id : PoolId) :
    (s.withLink studio).pools.get? id =
      if id = s.nextPool then some (.forStudio s.nextPool studio s.registry.settings.pool s.now)
      else s.pools.get? id :=
  Roster.get?_put _ _ _ _

theorem channels_withLink (s : Station) (studio : Studio) (id : ChannelId) :
    (s.withLink studio).channels.get? id =
      if id = s.nextChannel
      then some (.toStudio s.nextChannel studio s.registry.settings.channel s.now)
      else s.channels.get? id :=
  Roster.get?_put _ _ _ _

/-- Linking a studio also wakes the new pool's upkeep and the new channel's listener. -/
theorem exists_ready_insertLink (s : Station) (studio : Studio) :
    ∃ ready, s.insertLink studio = { s.withLink studio with ready := ready } := by
  let settings := s.registry.settings
  obtain ⟨ready, hpool⟩ : ∃ ready, s.openPool studio settings.pool =
      { s with
        pools := s.pools.put s.nextPool (.forStudio s.nextPool studio settings.pool s.now)
        ready := ready } :=
    exists_ready_wake _ _
  obtain ⟨ready', hchannel⟩ : ∃ ready', (s.openPool studio settings.pool).openChannel studio
      settings.channel =
      { s with
        pools := s.pools.put s.nextPool (.forStudio s.nextPool studio settings.pool s.now)
        channels := s.channels.put s.nextChannel
          (.toStudio s.nextChannel studio settings.channel s.now)
        ready := ready' } := by
    rw [hpool]
    exact exists_ready_wake _ _
  refine ⟨ready', ?_⟩
  unfold insertLink
  dsimp only
  rw [hchannel]
  rfl

theorem aside_insertLink (s : Station) (studio : Studio) :
    Aside (s.withLink studio) (s.insertLink studio) := by
  obtain ⟨ready, hinsert⟩ := exists_ready_insertLink s studio
  rw [hinsert]
  exact aside_of_same rfl rfl rfl rfl rfl

/-- An entry put under the number that is next is one more, and its number is below the next. -/
theorem lt_size_put {α : Type} {r : Roster Nat α} (h : ∀ id, r.get? id ≠ none → id < r.size)
    (a : α) : ∀ id, (r.put r.size a).get? id ≠ none → id < (r.put r.size a).size := by
  have hfree : r.get? r.size = none := by
    by_contra hne
    exact Nat.lt_irrefl _ (h r.size hne)
  intro id hid
  rw [Roster.size_put_of_none hfree]
  rw [Roster.get?_put] at hid
  split at hid
  · omega
  · have hlt := h id hid
    omega

theorem Ground.withLink (h : s.Ground) (studio : Studio) : (s.withLink studio).Ground := by
  refine ⟨?_, lt_size_put h.pools _, lt_size_put h.channels _⟩
  intro id p hp
  replace hp := (Roster.get?_put _ _ _ _).symm.trans hp
  split at hp
  · obtain rfl := Option.some.inj hp
    rfl
  · exact h.tidy id p hp

/-- A pool made for a sound studio has the studio's bounds. -/
theorem fixture_forStudio (id : PoolId) (hsound : studio.validate = .ok ())
    (settings : PoolSettings) (now : Instant) :
    (Pool.forStudio id studio settings now).fixture = studio.fixture id := by
  obtain ⟨hmax, hmin⟩ := Studio.bounds_of_validate hsound
  show (⟨id, studio.name, studio.host, studio.port,
    Nat.min studio.minPool.toNat (Nat.max studio.maxPool.toNat 1),
    Nat.max studio.maxPool.toNat 1⟩ : Pool.Fixture) = studio.fixture id
  rw [hmax, hmin]
  rfl

/-- The new link stands for its studio. -/
theorem linked_withLink (s : Station) (hsound : studio.validate = .ok ()) :
    (s.withLink studio).Linked studio.name
      ⟨studio, s.nextPool, s.nextChannel, s.registry.nextGeneration, s.now⟩ := by
  refine ⟨rfl, hsound, ?_, ?_, Nat.lt_succ_self _⟩
  · rw [pools_withLink, if_pos rfl]
    exact congrArg some (fixture_forStudio _ hsound _ _)
  · rw [channels_withLink, if_pos rfl]
    rfl

/-- A link that was there has an older pool and an older channel, and stands as before. -/
theorem Linked.withLink (h : s.Linked name link) (hground : s.Ground) (studio : Studio) :
    (s.withLink studio).Linked name link := by
  have hpool : link.pool ≠ s.nextPool := Nat.ne_of_lt (hground.pools _ h.pool_ne_none)
  have hchannel : link.channel ≠ s.nextChannel :=
    Nat.ne_of_lt (hground.channels _ h.channel_ne_none)
  refine h.same ?_ ?_ (Nat.le_succ _)
  · rw [pools_withLink, if_neg hpool]
  · rw [channels_withLink, if_neg hchannel]

/-- A sound studio that was taken in hand is let go with its new link. -/
theorem InLine.withLink (h : s.InLine [studio.name]) (hground : s.Ground)
    (hsound : studio.validate = .ok ()) : (s.withLink studio).InLine [] := by
  have holder : ∀ name link, s.registry.links.get? name = some link → link.pool ≠ s.nextPool :=
    fun name link hname =>
      Nat.ne_of_lt (hground.pools _ (h.linked name link hname).pool_ne_none)
  refine ⟨?_, ?_, ?_, fun _ hmem => absurd hmem List.not_mem_nil⟩
  · intro name link hname
    rw [links_withLink] at hname
    split at hname
    · rename_i heq
      obtain rfl := Option.some.inj hname
      exact heq ▸ linked_withLink s hsound
    · exact (h.linked name link hname).withLink hground studio
  · intro name other link link' hname hother hsame
    rw [links_withLink] at hname hother
    split at hname <;> split at hother
    · rename_i heq heq'
      exact heq.trans heq'.symm
    · obtain rfl := Option.some.inj hname
      exact absurd hsame.symm (holder other link' hother)
    · obtain rfl := Option.some.inj hother
      exact absurd hsame (holder name link hname)
    · exact h.apart name other link link' hname hother hsame
  · intro name _
    rw [links_withLink]
    refine (Roster.get?_put _ _ _ _).trans ?_
    split
    · rfl
    · rename_i hne
      exact h.live name fun hmem => hne (List.mem_singleton.mp hmem)

/-! ## Other bounds -/

/-- The station with a link's pool resized and the link put in its place. -/
def withBounds (s : Station) (name : String) (link : Link) (pool : Pool) (studio : Studio) :
    Station :=
  (s.putBack link.pool pool).onRegistry (·.replaceLink name { link with studio := studio })

theorem links_withBounds (s : Station) (name : String) (link : Link) (pool : Pool)
    (studio : Studio) (other : String) :
    (s.withBounds name link pool studio).registry.links.get? other =
      if other = name then some { link with studio := studio }
      else s.registry.links.get? other :=
  Roster.get?_put _ _ _ _

theorem pools_withBounds (s : Station) (name : String) (link : Link) (pool : Pool)
    (studio : Studio) (id : PoolId) :
    (s.withBounds name link pool studio).pools.get? id =
      if id = link.pool then some { pool with acts := [] } else s.pools.get? id :=
  Roster.get?_put _ _ _ _

theorem Ground.withBounds {p : Pool} (h : s.Ground) (hp : s.pools.get? link.pool = some p)
    (name : String) (pool : Pool) (studio : Studio) :
    (s.withBounds name link pool studio).Ground := by
  have hsize : (s.withBounds name link pool studio).pools.size = s.pools.size :=
    Roster.size_put_of_some hp _
  refine ⟨tidy_putBack h.tidy link.pool pool, ?_, h.channels⟩
  intro id hid
  rw [hsize]
  rw [pools_withBounds] at hid
  split at hid
  · rename_i heq
    exact h.pools id (by rw [heq, hp]; exact Option.some_ne_none p)
  · exact h.pools id hid

/-- The link with other bounds stands for its studio, if its pool has got them. -/
theorem Linked.withBounds (h : s.Linked name link) (hname : studio.name = name)
    (hsound : studio.validate = .ok ()) (htarget : link.studio.sameTarget studio = true)
    {pool : Pool} (hpool : pool.fixture = studio.fixture link.pool) :
    (s.withBounds name link pool studio).Linked name { link with studio := studio } := by
  have hplace : link.studio.host = studio.host ∧ link.studio.port = studio.port := by
    simpa [Studio.sameTarget] using htarget
  refine ⟨hname, hsound, ?_, ?_, h.generation⟩
  · rw [pools_withBounds, if_pos rfl]
    exact congrArg some hpool
  · show (s.channels.get? link.channel).map Channel.target = some (studio.host, studio.port)
    rw [h.channel, hplace.1, hplace.2]

/-- A linked studio may get other bounds, if its pool gets them too. -/
theorem InLine.withBounds (h : s.InLine []) (hlink : s.registry.links.get? name = some link)
    (hname : studio.name = name) (hsound : studio.validate = .ok ())
    (htarget : link.studio.sameTarget studio = true) {pool : Pool}
    (hpool : pool.fixture = studio.fixture link.pool) :
    (s.withBounds name link pool studio).InLine [] := by
  -- The new link has the pool of the old one, so other links have other pools.
  have hsamePool : ∀ other link', (s.withBounds name link pool studio).registry.links.get? other =
      some link' → ∃ old, s.registry.links.get? other = some old ∧ old.pool = link'.pool := by
    intro other link' hother
    rw [links_withBounds] at hother
    split at hother
    · rename_i heq
      obtain rfl := Option.some.inj hother
      exact ⟨link, heq ▸ hlink, rfl⟩
    · exact ⟨link', hother, rfl⟩
  refine ⟨?_, ?_, ?_, fun _ hmem => absurd hmem List.not_mem_nil⟩
  · intro other link' hother
    rw [links_withBounds] at hother
    split at hother
    · rename_i heq
      obtain rfl := Option.some.inj hother
      rw [heq]
      exact (h.linked name link hlink).withBounds hname hsound htarget hpool
    · rename_i hne
      have hapart : link'.pool ≠ link.pool := fun heq =>
        hne (h.apart other name link' link hother hlink heq)
      refine (h.linked other link' hother).same ?_ rfl (Nat.le_refl _)
      rw [pools_withBounds, if_neg hapart]
  · intro first second one two hone htwo hsame
    obtain ⟨old, hold, hp⟩ := hsamePool first one hone
    obtain ⟨old', hold', hp'⟩ := hsamePool second two htwo
    exact h.apart first second old old' hold hold' ((hp.trans hsame).trans hp'.symm)
  · intro other _
    rw [links_withBounds]
    refine (Roster.get?_put _ _ _ _).trans ?_
    split
    · rfl
    · exact h.live other List.not_mem_nil

end Station

end BroadcastLink
