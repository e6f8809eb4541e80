import BroadcastLink.Proofs.Channel.Target
import BroadcastLink.Proofs.Pool.Frame
import BroadcastLink.Proofs.Roster.Values
import BroadcastLink.Station.Tasks

/-!
# What has nothing to do with the links

Most of what happens in a station leaves the set of links alone: pools lend and drain, channels
listen and write, calls come and go. The calls that change the set of links keep their work then,
and get no further than from one wait to its end; no pool or channel is made, and those there are
connect where they did, within the bounds they had.
-/

namespace BroadcastLink

/-- How far a call that changes the set of links has come, whether or not what it waits for has
happened. -/
inductive JobPhase where
  | queued
  | next
  /-- A link is taken down. -/
  | down (link : Link)
  /-- A studio is launched. -/
  | up (studio : Studio)
  deriving DecidableEq, Repr

def JobStage.phase : JobStage → JobPhase
  | .queued => .queued
  | .next => .next
  | .draining link | .drained link | .stopping link | .stopped link => .down link
  | .launching studio | .launched studio _ => .up studio

/-- The work on the links that a call does. -/
def Activity.work? : Activity → Option (Job × JobPhase)
  | .reconciling job stage => some (job, stage.phase)
  | _ => none

namespace Station

variable {s s' s'' : Station} {call : CallId}

/-- The work on the links that a call does. -/
def work? (s : Station) (call : CallId) : Option (Job × JobPhase) :=
  (s.calls.get? call).bind Activity.work?

/-- What pools asked for is done. -/
def Tidy (s : Station) : Prop := ∀ id p, s.pools.get? id = some p → p.acts = []

/-- The pool of this number is open. -/
def IsOpen (s : Station) (id : PoolId) : Prop :=
  ∃ p, s.pools.get? id = some p ∧ p.isClosed = false

/-- What happened has nothing to do with the set of links. -/
structure Aside (s s' : Station) : Prop where
  registry : s'.registry = s.registry
  work : ∀ call, s'.work? call = s.work? call
  pools : ∀ id, (s'.pools.get? id).map Pool.fixture = (s.pools.get? id).map Pool.fixture
  opens : ∀ id, s'.IsOpen id → s.IsOpen id
  channels : ∀ id,
    (s'.channels.get? id).map Channel.target = (s.channels.get? id).map Channel.target
  poolCount : s'.pools.size = s.pools.size
  channelCount : s'.channels.size = s.channels.size
  tidy : s.Tidy → s'.Tidy
  summaries : ∀ call summary, (call, .summary summary) ∈ s'.answers →
    (call, .summary summary) ∈ s.answers

theorem Aside.refl (s : Station) : Aside s s :=
  ⟨rfl, fun _ => rfl, fun _ => rfl, fun _ h => h, fun _ => rfl, rfl, rfl, fun h => h,
    fun _ _ h => h⟩

theorem Aside.trans (h : Aside s s') (h' : Aside s' s'') : Aside s s'' := by
  refine ⟨h'.registry.trans h.registry, ?_, ?_, fun id hid => h.opens id (h'.opens id hid), ?_,
    h'.poolCount.trans h.poolCount, h'.channelCount.trans h.channelCount, ?_, ?_⟩
  · intro call
    rw [h'.work, h.work]
  · intro id
    rw [h'.pools, h.pools]
  · intro id
    rw [h'.channels, h.channels]
  · intro htidy
    exact h'.tidy (h.tidy htidy)
  · intro call summary hmem
    exact h.summaries call summary (h'.summaries call summary hmem)

/-- What is aside stays so when the registry changes as well. -/
theorem Aside.onRegistry (h : Aside s s') (f : Registry → Registry) :
    Aside (s.onRegistry f) (s'.onRegistry f) :=
  ⟨congrArg f h.registry, h.work, h.pools, h.opens, h.channels, h.poolCount, h.channelCount, h.tidy,
    h.summaries⟩

/-! ## Small steps -/

theorem aside_of_same (hregistry : s'.registry = s.registry) (hcalls : s'.calls = s.calls)
    (hpools : s'.pools = s.pools) (hchannels : s'.channels = s.channels)
    (hanswers : s'.answers = s.answers) : Aside s s' := by
  refine ⟨hregistry, ?_, ?_, ?_, ?_, ?_, ?_, ?_, ?_⟩
  · intro call
    rw [work?, work?, hcalls]
  · intro id
    rw [hpools]
  · intro id hid
    rwa [IsOpen, hpools] at hid
  · intro id
    rw [hchannels]
  · rw [hpools]
  · rw [hchannels]
  · intro htidy id p hp
    rw [hpools] at hp
    exact htidy id p hp
  · intro call summary hmem
    rwa [hanswers] at hmem

theorem exists_ready_wake (s : Station) (t : Task) :
    ∃ ready, s.wake t = { s with ready := ready } := by
  unfold wake
  split
  · exact ⟨s.ready, rfl⟩
  · exact ⟨_, rfl⟩

theorem aside_wake (s : Station) (t : Task) : Aside s (s.wake t) := by
  obtain ⟨ready, hwake⟩ := exists_ready_wake s t
  rw [hwake]
  exact aside_of_same rfl rfl rfl rfl rfl

theorem aside_hangUp (s : Station) (line : LineId) : Aside s (s.hangUp line) :=
  aside_of_same rfl rfl rfl rfl rfl

/-- Calls are answered otherwise than with a summary. -/
theorem aside_answer (s : Station) (call : CallId) {a : Answer}
    (ha : ∀ summary, a ≠ .summary summary) : Aside s (s.answer call a) := by
  refine ⟨rfl, fun _ => rfl, fun _ => rfl, fun _ h => h, fun _ => rfl, rfl, rfl, fun h => h, ?_⟩
  intro c summary hmem
  rcases List.mem_append.mp hmem with hold | hnew
  · exact hold
  · obtain ⟨-, heq⟩ := Prod.mk.inj (List.mem_singleton.mp hnew)
    exact absurd heq.symm (ha summary)

/-- A call may do anything that is the same work on the links, or none if it had none. -/
theorem aside_putCall (s : Station) {activity : Activity}
    (hwork : activity.work? = s.work? call) : Aside s (s.putCall call activity) := by
  refine ⟨rfl, ?_, fun _ => rfl, fun _ h => h, fun _ => rfl, rfl, rfl, fun h => h, fun _ _ h => h⟩
  intro c
  show ((s.calls.put call activity).get? c).bind Activity.work? = s.work? c
  rw [Roster.get?_put]
  split
  · rename_i heq
    rw [heq]
    exact hwork
  · rfl

theorem aside_erase (hwork : s.work? call = none) :
    Aside s { s with calls := s.calls.erase call } := by
  refine ⟨rfl, ?_, fun _ => rfl, fun _ h => h, fun _ => rfl, rfl, rfl, fun h => h, fun _ _ h => h⟩
  intro c
  show ((s.calls.erase call).get? c).bind Activity.work? = s.work? c
  rw [Roster.get?_erase]
  split
  · rename_i heq
    rw [heq]
    exact hwork.symm
  · rfl

/-- A call that does not work on the links may be over. -/
theorem aside_finish (hwork : s.work? call = none) {a : Answer}
    (ha : ∀ summary, a ≠ .summary summary) : Aside s (s.finish call a) :=
  (aside_erase hwork).trans (aside_answer _ call ha)

theorem aside_startCall {activity : Activity} (hwork : activity.work? = s.work? call) :
    Aside s (s.startCall call activity) :=
  (aside_putCall s hwork).trans (aside_wake _ _)

/-- What a call is at says what work it does. -/
theorem work_of_calls {activity : Activity} (h : s.calls.get? call = some activity) :
    s.work? call = activity.work? := by
  rw [work?, h]
  rfl

/-! ## What pools ask for -/

theorem aside_lent (s : Station) (call : CallId) (id : Nat) : Aside s (s.lent call id) := by
  unfold lent
  split
  · rename_i hcall
    exact aside_finish (work_of_calls hcall) fun _ h => by contradiction
  · rename_i hcall
    exact aside_putCall s (work_of_calls hcall).symm
  · exact .refl s

theorem aside_drained (s : Station) (call : CallId) : Aside s (s.drained call) := by
  unfold drained
  split
  · rename_i hcall
    exact aside_finish (work_of_calls hcall) fun _ h => by contradiction
  · rename_i hcall
    exact aside_putCall s (work_of_calls hcall).symm
  · exact .refl s

/-- Nobody who works on the links is refused a session. -/
def Unrefused (s : Station) (acts : List PoolAct) : Prop :=
  ∀ call ∈ acts.filterMap PoolAct.refused?, s.work? call = none

theorem Unrefused.aside {acts : List PoolAct} (h : s.Unrefused acts) (haside : Aside s s') :
    s'.Unrefused acts := by
  intro call hcall
  rw [haside.work]
  exact h call hcall

theorem aside_doOwnAct (id : PoolId) (s : Station) {act : PoolAct} (h : s.Unrefused [act]) :
    Aside s (doOwnAct id s act) := by
  cases act with
  | hangUp line => exact aside_hangUp s line
  | freeIn other => exact .refl s
  | wake waiter =>
    cases waiter with
    | caller call => exact aside_wake s _
    | drainer =>
      unfold doOwnAct
      dsimp only
      split
      · exact aside_wake s _
      · exact .refl s
  | wakeUpkeep => exact aside_wake s _
  | lent call session => exact aside_lent s call session
  | refused call fault =>
    exact aside_finish (h call List.mem_cons_self) fun _ h => by contradiction
  | drained call => exact aside_drained s call

theorem aside_foldl {act : Station → PoolAct → Station} {acts : List PoolAct}
    (hact : ∀ s a, s.Tidy → s.Unrefused [a] → Aside s (act s a)) (htidy : s.Tidy)
    (h : s.Unrefused acts) : Aside s (acts.foldl act s) := by
  induction acts generalizing s with
  | nil => exact .refl s
  | cons a rest ih =>
    have hfirst : s.Unrefused [a] := by
      intro call hcall
      refine h call ?_
      rw [← List.singleton_append, List.filterMap_append]
      exact List.mem_append_left _ hcall
    have hrest : s.Unrefused rest := by
      intro call hcall
      refine h call ?_
      rw [← List.singleton_append, List.filterMap_append]
      exact List.mem_append_right _ hcall
    have hstep := hact s a htidy hfirst
    exact hstep.trans (ih (hstep.tidy htidy) (hrest.aside hstep))

/-- The station with a pool that has acted put back. -/
def putBack (s : Station) (id : PoolId) (p : Pool) : Station :=
  { s with pools := s.pools.put id { p with acts := [] } }

theorem tidy_putBack (htidy : s.Tidy) (id : PoolId) (p : Pool) : (s.putBack id p).Tidy := by
  intro other q hq
  replace hq : (s.pools.put id { p with acts := [] }).get? other = some q := hq
  rw [Roster.get?_put] at hq
  split at hq
  · obtain rfl := Option.some.inj hq
    rfl
  · exact htidy other q hq

theorem isOpen_putBack (s : Station) (id : PoolId) (p : Pool) (other : PoolId) :
    (s.putBack id p).IsOpen other ↔ if other = id then p.isClosed = false else s.IsOpen other := by
  show (∃ q, (s.pools.put id { p with acts := [] }).get? other = some q ∧ _) ↔ _
  rw [Roster.get?_put]
  split
  · constructor
    · rintro ⟨q, hq, hopen⟩
      obtain rfl := Option.some.inj hq
      exact hopen
    · exact fun hopen => ⟨_, rfl, hopen⟩
  · rfl

/-- A pool is put back that connects where it did, within the bounds it had, and is closed if it
was. -/
theorem aside_putBack {id : PoolId} {p q : Pool} (hp : s.pools.get? id = some p)
    (hfixture : q.fixture = p.fixture) (hclosed : p.isClosed = true → q.isClosed = true) :
    Aside s (s.putBack id q) := by
  refine ⟨rfl, fun _ => rfl, ?_, ?_, fun _ => rfl, ?_, rfl, fun h => tidy_putBack h id q,
    fun _ _ h => h⟩
  · intro other
    show ((s.pools.put id { q with acts := [] }).get? other).map Pool.fixture = _
    rw [Roster.get?_put]
    split
    · rename_i heq
      rw [heq, hp]
      exact congrArg some hfixture
    · rfl
  · intro other hother
    have hopen := (isOpen_putBack s id q other).mp hother
    split at hopen
    · rename_i heq
      refine ⟨p, heq ▸ hp, Bool.eq_false_iff.mpr fun hwas => ?_⟩
      rw [hclosed hwas] at hopen
      contradiction
    · exact hopen
  · exact Roster.size_put_of_some hp _

/-- What a pool asks for that has acted is done, and that is all. -/
theorem aside_settlePool {act : Station → PoolAct → Station}
    (hact : ∀ s a, s.Tidy → s.Unrefused [a] → Aside s (act s a)) (htidy : s.Tidy) {id : PoolId}
    {q : Pool} (h : s.Unrefused q.acts) : Aside (s.putBack id q) (s.settlePool id q act) :=
  aside_foldl hact (tidy_putBack htidy id q) h

/-- Telling a waiter that a place came free refuses nobody. -/
theorem unrefused_freePlace (s : Station) {p : Pool} (hp : p.acts = []) :
    s.Unrefused (p.freePlace true).acts := by
  have hrefused : (p.freePlace true).refused = [] :=
    (Pool.refused_of_frame (Pool.frame_freePlace p true)).trans (congrArg _ hp)
  intro call hcall
  replace hcall : call ∈ (p.freePlace true).refused := hcall
  rw [hrefused] at hcall
  contradiction

theorem aside_doPoolAct (id : PoolId) (s : Station) (act : PoolAct) (htidy : s.Tidy)
    (h : s.Unrefused [act]) : Aside s (doPoolAct id s act) := by
  cases act with
  | freeIn other =>
    unfold doPoolAct
    dsimp only
    split
    · exact .refl s
    · rename_i p hp
      have hput : Aside s (s.putBack other (p.freePlace true)) :=
        aside_putBack hp (Pool.fixture_of_frame (Pool.frame_freePlace p true))
          (Pool.onlyCloses_of_frame (Pool.frame_freePlace p true)).closed
      have hacts := unrefused_freePlace s (htidy other p hp)
      exact hput.trans (aside_settlePool (fun s a _ ha => aside_doOwnAct other s ha) htidy hacts)
  | hangUp line => exact aside_doOwnAct id s h
  | wake waiter => exact aside_doOwnAct id s h
  | wakeUpkeep => exact aside_doOwnAct id s h
  | lent call session => exact aside_doOwnAct id s h
  | refused call fault => exact aside_doOwnAct id s h
  | drained call => exact aside_doOwnAct id s h

/-- Letting a pool act comes down to putting it back, as long as it refuses nobody who works on the
links. -/
theorem aside_onPool_settled (htidy : s.Tidy) {id : PoolId} {p : Pool} {f : Pool → Pool}
    (hp : s.pools.get? id = some p) (hrefused : ∀ c ∈ (f p).refused, s.work? c = none) :
    Aside (s.putBack id (f p)) (s.onPool id f) := by
  rw [onPool, hp]
  exact aside_settlePool (aside_doPoolAct id) htidy hrefused

/-- What a pool does for a call that does not work on the links is aside. -/
theorem aside_onPool_answers (htidy : s.Tidy) {id : PoolId} {f : Pool → Pool}
    (hf : ∀ p, s.pools.get? id = some p → Pool.Answers p (f p) call)
    (hwork : s.work? call = none) : Aside s (s.onPool id f) := by
  cases hp : s.pools.get? id with
  | none =>
    rw [onPool, hp]
    exact .refl s
  | some p =>
    have hanswers := hf p hp
    have hnobody : p.refused = [] := congrArg (List.filterMap PoolAct.refused?) (htidy id p hp)
    have hput := aside_putBack hp hanswers.fixture hanswers.closed
    refine hput.trans (aside_onPool_settled htidy hp ?_)
    intro c hc
    rcases hanswers.refused c hc with hold | rfl
    · rw [hnobody] at hold
      contradiction
    · exact hwork

/-- What a pool does by itself is aside. -/
theorem aside_onPool (htidy : s.Tidy) {id : PoolId} {f : Pool → Pool}
    (hf : ∀ p, s.pools.get? id = some p → Pool.OnlyCloses p (f p)) : Aside s (s.onPool id f) := by
  cases hp : s.pools.get? id with
  | none =>
    rw [onPool, hp]
    exact .refl s
  | some p =>
    have hcloses := hf p hp
    have hnobody : p.refused = [] := congrArg (List.filterMap PoolAct.refused?) (htidy id p hp)
    have hput := aside_putBack hp hcloses.fixture hcloses.closed
    refine hput.trans (aside_onPool_settled htidy hp ?_)
    intro c hc
    rw [hcloses.refused, hnobody] at hc
    contradiction

theorem aside_onPool_frame (htidy : s.Tidy) {id : PoolId} {f : Pool → Pool}
    (hf : ∀ p, (f p).frame = p.frame) : Aside s (s.onPool id f) :=
  aside_onPool htidy fun p _ => Pool.onlyCloses_of_frame (hf p)

/-! ## What channels ask for -/

theorem aside_batchSent (s : Station) (call : CallId) (written : Bool) :
    Aside s (s.batchSent call written) := by
  unfold batchSent
  split
  · rename_i hcall
    exact aside_finish (work_of_calls hcall) fun _ h => by contradiction
  · rename_i hcall
    exact aside_finish (work_of_calls hcall) fun _ h => by contradiction
  · exact .refl s

theorem aside_channelStopped (s : Station) (call : CallId) : Aside s (s.channelStopped call) := by
  unfold channelStopped
  split
  · rename_i hcall
    exact aside_finish (work_of_calls hcall) fun _ h => by contradiction
  · rename_i hcall
    exact aside_putCall s (work_of_calls hcall).symm
  · exact .refl s

theorem aside_doChannelAct (id : ChannelId) (s : Station) (act : ChannelAct) :
    Aside s (doChannelAct id s act) := by
  cases act with
  | hangUp line => exact aside_hangUp s line
  | wake user =>
    cases user with
    | listener => exact aside_wake s _
    | call call => exact aside_wake s _
  | publish publication => exact aside_of_same rfl rfl rfl rfl rfl
  | sent call written => exact aside_batchSent s call written
  | stopped call => exact aside_channelStopped s call

theorem aside_fold {α : Type} {act : Station → α → Station} (hact : ∀ s a, Aside s (act s a))
    (acts : List α) (s : Station) : Aside s (acts.foldl act s) := by
  induction acts generalizing s with
  | nil => exact .refl s
  | cons a rest ih => exact (hact s a).trans (ih _)

/-- Whatever a channel does is aside. -/
theorem aside_onChannel (s : Station) {id : ChannelId} {f : Channel → Channel}
    (hf : ∀ c, s.channels.get? id = some c → (f c).target = c.target) :
    Aside s (s.onChannel id f) := by
  unfold onChannel
  split
  · exact .refl s
  · rename_i c hc
    have hput : Aside s { s with channels := s.channels.put id { f c with acts := [] } } := by
      refine ⟨rfl, fun _ => rfl, fun _ => rfl, fun _ h => h, ?_, rfl, Roster.size_put_of_some hc _,
        fun h => h, fun _ _ h => h⟩
      intro other
      show ((s.channels.put id { f c with acts := [] }).get? other).map Channel.target = _
      rw [Roster.get?_put]
      split
      · rename_i heq
        rw [heq, hc]
        exact congrArg some (hf c hc)
      · rfl
    have hacts := hput.trans (aside_fold (aside_doChannelAct id) (f c).acts _)
    dsimp only
    split
    · exact hacts.trans (aside_fold (fun s call => aside_wake s (.call call)) _ _)
    · exact hacts

end Station

end BroadcastLink
