import BroadcastLink.Proofs.Station.Tending

/-!
# Each pool and its channel

A link gets its pool and its channel together, so the two have one number and serve one studio. A
channel is shut down only once the pool of its number is drained; and a studio gets a new pool only
when no running channel listens to it any more, so that of two pools of a studio the older one is
drained.
-/

namespace BroadcastLink.Station

variable {asked : ChannelId → Prop} {s s₁ s' : Station} {call : CallId} {id : PoolId}
  {name : String} {studio : Studio} {link : Link}

/-- The pool of this number is drained, if there is one. -/
def IsDrained (s : Station) (id : PoolId) : Prop :=
  ∀ p, s.pools.get? id = some p → p.IsDrained

/-- Every pool of the studio is drained. -/
def IsVacated (s : Station) (name : String) : Prop :=
  ∀ id p, s.pools.get? id = some p → p.studio = name → p.IsDrained

/-- Pools and channels match: they have the same numbers and studios, a channel is shut down only
once its pool is drained, and of two pools of a studio the older one is drained. -/
structure Matched (s : Station) : Prop where
  studios : ∀ id,
    (s.pools.get? id).map Pool.studio = (s.channels.get? id).map Channel.studio
  count : s.pools.size = s.channels.size
  dense : ∀ id, id < s.pools.size → s.pools.get? id ≠ none
  due : ∀ id c, s.channels.get? id = some c → c.listener = .over → c.isCancelled = true
  cancelled : ∀ id c, s.channels.get? id = some c → c.isCancelled = true → s.IsDrained id
  newest : ∀ id id' p p', s.pools.get? id = some p → s.pools.get? id' = some p' →
    p.studio = p'.studio → id < id' → p.IsDrained

/-- When no running channel listens to a studio, its pools are drained. -/
theorem Matched.isVacated (h : s.Matched) (hunserved : s.Unserved name) : s.IsVacated name := by
  rintro id p hp rfl
  have hstudio := h.studios id
  rw [hp] at hstudio
  obtain ⟨c, hc, hname⟩ := Option.map_eq_some_iff.mp hstudio.symm
  exact h.cancelled id c hc (h.due id c hc (hunserved id c hc hname)) p hp

/-! ## Pools and channels go on -/

/-- There are no new pools and channels, and the channels go on. -/
structure Stays (asked : ChannelId → Prop) (s s' : Station) : Prop where
  poolCount : s'.pools.size = s.pools.size
  channelCount : s'.channels.size = s.channels.size
  pooled : ∀ id, s.pools.get? id = none → s'.pools.get? id = none
  channelled : ∀ id, s.channels.get? id ≠ none → s'.channels.get? id ≠ none
  channels : ∀ id d, s'.channels.get? id = some d →
    ∃ c, s.channels.get? id = some c ∧ c.Onward (asked id) d

/-- The pools and channels that there are go on, and there are no new ones. -/
structure Carries (asked : ChannelId → Prop) (s s' : Station) : Prop
    extends Tends s s', Stays asked s s'

theorem stays_of_aside (haside : Aside s s') (honward : Onward asked Nobody s s') :
    Stays asked s s' := by
  refine ⟨haside.poolCount, haside.channelCount, ?_, ?_, honward.channels⟩
  · intro id hnone
    have hfixture := haside.pools id
    rw [hnone] at hfixture
    exact Option.map_eq_none_iff.mp hfixture
  · intro id hne hnone
    have htarget := haside.channels id
    rw [hnone] at htarget
    exact hne (Option.map_eq_none_iff.mp htarget.symm)

/-- Nothing but pools and channels matters. -/
theorem Stays.along {t t' : Station} (h : Stays asked s s') (hpools : t.pools = s.pools)
    (hchannels : t.channels = s.channels) (hpools' : t'.pools = s'.pools)
    (hchannels' : t'.channels = s'.channels) : Stays asked t t' := by
  obtain ⟨hcount, hcount', hpooled, hchannelled, honward⟩ := h
  rw [← hpools, ← hpools'] at hcount hpooled
  rw [← hchannels, ← hchannels'] at hcount' hchannelled honward
  exact ⟨hcount, hcount', hpooled, hchannelled, honward⟩

theorem Stays.refl (s : Station) : Stays asked s s := stays_of_aside (.refl s) (.refl s)

namespace Carries

/-- A pool was there before. -/
theorem pool_before (h : Carries asked s s') {q : Pool} (hq : s'.pools.get? id = some q) :
    ∃ p, s.pools.get? id = some p ∧ p.Fares s'.now q := by
  cases hp : s.pools.get? id with
  | none =>
    rw [h.pooled id hp] at hq
    contradiction
  | some p =>
    obtain ⟨r, hr, hfares⟩ := h.pools id p hp
    obtain rfl := Option.some.inj (hr.symm.trans hq)
    exact ⟨p, rfl, hfares⟩

theorem isDrained (h : Carries asked s s') (hdrained : s.IsDrained id) : s'.IsDrained id := by
  intro q hq
  obtain ⟨p, hp, hfares⟩ := h.pool_before hq
  exact hfares.isDrained (hdrained p hp)

theorem isVacated (h : Carries asked s s') (hvacated : s.IsVacated name) : s'.IsVacated name := by
  intro id q hq hstudio
  obtain ⟨p, hp, hfares⟩ := h.pool_before hq
  exact hfares.isDrained (hvacated id p hp (hfares.studio.symm.trans hstudio))

theorem studios (h : Carries asked s s')
    (hstudios : (s.pools.get? id).map Pool.studio = (s.channels.get? id).map Channel.studio) :
    (s'.pools.get? id).map Pool.studio = (s'.channels.get? id).map Channel.studio := by
  cases hc : s'.channels.get? id with
  | none =>
    have hnone : s.channels.get? id = none := not_not.mp fun hne => h.channelled id hne hc
    rw [hnone] at hstudios
    rw [h.pooled id (Option.map_eq_none_iff.mp hstudios)]
    rfl
  | some d =>
    obtain ⟨c, hbefore, honward⟩ := h.channels id d hc
    rw [hbefore] at hstudios
    obtain ⟨p, hp, hsame⟩ := Option.map_eq_some_iff.mp hstudios
    obtain ⟨q, hq, hfares⟩ := h.pools id p hp
    rw [hq]
    exact congrArg some ((hfares.studio.trans hsame).trans honward.studio.symm)

end Carries

/-- Pools and channels that match go on to match, as long as channels are shut down only once their
pools are drained. -/
theorem Matched.carry (h : s.Matched) (hcarries : Carries asked s s')
    (hasked : ∀ id, asked id → s.IsDrained id) : s'.Matched := by
  refine ⟨fun id => hcarries.studios (h.studios id), ?_, ?_, ?_, ?_, ?_⟩
  · rw [hcarries.poolCount, hcarries.channelCount]
    exact h.count
  · intro id hlt
    rw [hcarries.poolCount] at hlt
    obtain ⟨p, hp⟩ := Option.ne_none_iff_exists'.mp (h.dense id hlt)
    obtain ⟨q, hq, -⟩ := hcarries.pools id p hp
    rw [hq]
    exact Option.some_ne_none q
  · intro id d hd hover
    obtain ⟨c, hc, honward⟩ := hcarries.channels id d hd
    rcases honward.due hover with hbefore | hcancelled
    · exact honward.cancelled (h.due id c hc hbefore)
    · exact hcancelled
  · intro id d hd hcancelled
    obtain ⟨c, hc, honward⟩ := hcarries.channels id d hd
    refine hcarries.isDrained ?_
    rcases honward.cause hcancelled with hbefore | hnow
    · exact h.cancelled id c hc hbefore
    · exact hasked id hnow
  · intro id id' q q' hq hq' hsame hlt
    obtain ⟨p, hp, hfares⟩ := hcarries.pool_before hq
    obtain ⟨p', hp', hfares'⟩ := hcarries.pool_before hq'
    rw [hfares.studio, hfares'.studio] at hsame
    exact hfares.isDrained (h.newest id id' p p' hp hp' hsame hlt)

/-! ## A new pool and its channel -/

theorem Matched.same (h : s.Matched) (hpools : s'.pools = s.pools)
    (hchannels : s'.channels = s.channels) : s'.Matched := by
  refine ⟨?_, ?_, ?_, ?_, ?_, ?_⟩
  · rw [hpools, hchannels]
    exact h.studios
  · rw [hpools, hchannels]
    exact h.count
  · rw [hpools]
    exact h.dense
  · rw [hchannels]
    exact h.due
  · intro id c hc hcancelled p hp
    rw [hchannels] at hc
    rw [hpools] at hp
    exact h.cancelled id c hc hcancelled p hp
  · rw [hpools]
    exact h.newest

/-- A studio whose pools are drained gets a new pool and a new channel. -/
theorem Matched.withLink (h : s.Matched) (hground : s.Ground)
    (hvacated : s.IsVacated studio.name) : (s.withLink studio).Matched := by
  have hcount : s.nextChannel = s.nextPool := h.count.symm
  have hfree : ∀ id p, s.pools.get? id = some p → id < s.nextPool := fun id p hp =>
    hground.pools id fun hnone => by rw [hp] at hnone; contradiction
  have hchannel (id : ChannelId) : (s.withLink studio).channels.get? id =
      if id = s.nextPool
      then some (.toStudio s.nextChannel studio s.registry.settings.channel s.now)
      else s.channels.get? id := by
    rw [channels_withLink, hcount]
  have hsize : (s.withLink studio).pools.size = s.pools.size + 1 := by
    refine Roster.size_put_of_none ?_ _
    by_contra hne
    exact Nat.lt_irrefl _ (hground.pools s.nextPool hne)
  have hsize' : (s.withLink studio).channels.size = s.channels.size + 1 := by
    refine Roster.size_put_of_none ?_ _
    by_contra hne
    exact Nat.lt_irrefl _ (hground.channels s.nextChannel hne)
  refine ⟨?_, ?_, ?_, ?_, ?_, ?_⟩
  · intro id
    rw [pools_withLink, hchannel]
    split
    · rfl
    · exact h.studios id
  · rw [hsize, hsize', h.count]
  · intro id hlt
    rw [hsize] at hlt
    rw [pools_withLink]
    split
    · exact Option.some_ne_none _
    · rename_i hne
      have hnext : id ≠ s.pools.size := hne
      exact h.dense id (by omega)
  · intro id c hc hover
    rw [hchannel] at hc
    split at hc
    · obtain rfl := Option.some.inj hc
      contradiction
    · exact h.due id c hc hover
  · intro id c hc hcancelled p hp
    rw [hchannel] at hc
    rw [pools_withLink] at hp
    split at hc
    · obtain rfl := Option.some.inj hc
      contradiction
    · rename_i hne
      rw [if_neg hne] at hp
      exact h.cancelled id c hc hcancelled p hp
  · intro id id' p p' hp hp' hsame hlt
    rw [pools_withLink] at hp hp'
    -- The new pool is the newest, and the others of its studio are drained.
    split at hp'
    · rename_i heq
      obtain rfl := Option.some.inj hp'
      rw [if_neg (Nat.ne_of_lt (heq ▸ hlt))] at hp
      exact hvacated id p hp hsame
    · have hlt' := Nat.lt_trans hlt (hfree id' p' hp')
      rw [if_neg (Nat.ne_of_lt hlt')] at hp
      exact h.newest id id' p p' hp hp' hsame hlt

theorem pools_insertLink (s : Station) (studio : Studio) :
    (s.insertLink studio).pools = (s.withLink studio).pools ∧
      (s.insertLink studio).channels = (s.withLink studio).channels ∧
      (s.insertLink studio).registry = (s.withLink studio).registry := by
  obtain ⟨ready, hinsert⟩ := exists_ready_insertLink s studio
  rw [hinsert]
  exact ⟨rfl, rfl, rfl⟩

/-! ## Deeds -/

/-- Resizing a pool brings no new pools and channels. -/
theorem stays_resize (htidy : s.Tidy) (id : PoolId) (min max : Nat) :
    Stays Nobody s (s.onPool id (·.resize min max s.now)) := by
  cases hp : s.pools.get? id with
  | none =>
    rw [onPool, hp]
    exact .refl s
  | some p =>
    have haside := aside_resizePool htidy hp min max
    have honward : Onward Nobody Nobody s (s.onPool id (·.resize min max s.now)) :=
      onward_onPool s id _
    have hget (other : PoolId) : (s.putBack id (p.resize min max s.now)).pools.get? other =
        if other = id then some { p.resize min max s.now with acts := [] }
        else s.pools.get? other := Roster.get?_put _ _ _ _
    refine ⟨haside.poolCount.trans (Roster.size_put_of_some hp _), haside.channelCount,
      fun other hnone => ?_, fun other hne hnone => ?_, honward.channels⟩
    · have hfixture := haside.pools other
      have hne : other ≠ id := by
        rintro rfl
        rw [hp] at hnone
        contradiction
      rw [hget, if_neg hne, hnone] at hfixture
      exact Option.map_eq_none_iff.mp hfixture
    · have htarget := haside.channels other
      rw [hnone] at htarget
      exact hne (Option.map_eq_none_iff.mp htarget.symm)

/-- A deed brings no new pools and channels, or those of a new link for a studio whose pools are
drained. -/
theorem Matched.deed (h : s.Matched) (hground : s.Ground) (hdeed : Deed call s s')
    (htends : Tends s s') : s'.Matched := by
  have hcarry (hstays : Stays Nobody s s') : s'.Matched :=
    h.carry ⟨htends, hstays⟩ fun _ hcalled => hcalled.elim
  cases hdeed with
  | @goesOn f job stage => exact hcarry ((Stays.refl s).along rfl rfl rfl rfl)
  | @ends f a =>
    obtain ⟨hpools, hchannels⟩ := pools_finishJob (s.onRegistry f) call a
    exact hcarry ((Stays.refl s).along rfl rfl hpools hchannels)
  | @takesDown f job link =>
    have hdown := aside_takeDown (s := s.onRegistry f) hground.tidy call job link
    exact hcarry ((stays_of_aside hdown (onward_onPool _ _ _)).along rfl rfl rfl rfl)
  | @inserts studio w hunserved =>
    obtain ⟨hpools, hchannels, -⟩ := pools_insertLink s studio
    exact (h.withLink hground (h.isVacated hunserved)).same hpools hchannels
  | @insertsLast studio a hunserved =>
    obtain ⟨hpools, hchannels, -⟩ := pools_insertLink s studio
    obtain ⟨hsame, hsame'⟩ := pools_finishJob (s.insertLink studio) call a
    exact (h.withLink hground (h.isVacated hunserved)).same (hsame.trans hpools)
      (hsame'.trans hchannels)
  | @resizes name link studio min max w hlink =>
    have hresized := stays_resize (s := s.onRegistry (·.setState name .reconfiguring)) hground.tidy
      link.pool min max
    exact hcarry (hresized.along rfl rfl rfl rfl)

end BroadcastLink.Station
