import BroadcastLink.Pool.Borrow
import BroadcastLink.Pool.Drain
import BroadcastLink.Pool.Loan
import BroadcastLink.Pool.Upkeep

/-!
# What operations of a pool leave alone

Whose a pool is, where it connects to, its bounds, whether it is closed, the drain in progress and
who is refused: the frame of a pool. Bounds change only with a resize, and closing is a matter of
drains only. Who goes without a session is told so by an operation made for that very call.
-/

namespace BroadcastLink

/-- The call that is refused. -/
def PoolAct.refused? : PoolAct → Option CallId
  | .refused call _ => some call
  | _ => none

/-- Whose a pool is, where it connects to, and its bounds. -/
structure Pool.Fixture where
  id : PoolId
  studio : String
  host : String
  port : UInt16
  min : Nat
  max : Nat

/-- How far a pool is closed. -/
structure Pool.Closing where
  isClosed : Bool
  isFinished : Bool
  drain : Option Drain

/-- What most operations of a pool leave alone. -/
structure Pool.Frame where
  fixture : Pool.Fixture
  closing : Pool.Closing
  /-- The calls refused and not told yet. -/
  refused : List CallId

namespace Pool

variable {p q r : Pool} {call : CallId}

def fixture (p : Pool) : Fixture := ⟨p.id, p.studio, p.host, p.port, p.min, p.max⟩

def closing (p : Pool) : Closing := ⟨p.isClosed, p.isFinished, p.drain⟩

/-- The calls refused and not told yet. -/
def refused (p : Pool) : List CallId := p.acts.filterMap PoolAct.refused?

def frame (p : Pool) : Frame := ⟨p.fixture, p.closing, p.refused⟩

theorem fixture_of_frame (h : q.frame = p.frame) : q.fixture = p.fixture :=
  congrArg Frame.fixture h

theorem closing_of_frame (h : q.frame = p.frame) : q.closing = p.closing :=
  congrArg Frame.closing h

theorem refused_of_frame (h : q.frame = p.frame) : q.refused = p.refused :=
  congrArg Frame.refused h

/-! ## Small steps -/

/-- What is asked for of one sort, and not done yet. -/
def asked {α : Type} (p : Pool) (sort : PoolAct → Option α) : List α := p.acts.filterMap sort

theorem asked_ask {α : Type} (p : Pool) (act : PoolAct) (sort : PoolAct → Option α) :
    (p.ask act).asked sort = p.asked sort ++ (sort act).toList := by
  have hlast : [act].filterMap sort = (sort act).toList := by
    cases h : sort act <;> simp [h]
  rw [asked, ask, List.filterMap_append, hlast]
  rfl

theorem asked_wakeAll {α : Type} {sort : PoolAct → Option α} (hwake : ∀ w, sort (.wake w) = none)
    (p : Pool) (told : List Waiter) : (p.wakeAll told).asked sort = p.asked sort := by
  have hwakes : (told.map PoolAct.wake).filterMap sort = [] := by
    simp [List.filterMap_map, hwake]
  rw [asked, wakeAll, List.filterMap_append, hwakes]
  exact List.append_nil _

theorem refused_ask (p : Pool) (act : PoolAct) :
    (p.ask act).refused = p.refused ++ act.refused?.toList :=
  asked_ask p act PoolAct.refused?

theorem frame_ask (p : Pool) {act : PoolAct} (h : act.refused? = none) :
    (p.ask act).frame = p.frame := by
  have hrefused : (p.ask act).refused = p.refused := by
    rw [refused_ask, h]
    exact List.append_nil _
  rw [frame, frame, hrefused]
  rfl

theorem frame_wakeAll (p : Pool) (told : List Waiter) : (p.wakeAll told).frame = p.frame := by
  have hrefused : (p.wakeAll told).refused = p.refused := asked_wakeAll (fun _ => rfl) p told
  rw [frame, frame, hrefused]
  rfl

theorem frame_tellOne (p : Pool) : p.tellOne.frame = p.frame :=
  frame_wakeAll { p with available := p.available.tellOne.1 } _

theorem frame_tellAll (p : Pool) : p.tellAll.frame = p.frame :=
  frame_wakeAll { p with available := p.available.tellAll.1 } _

theorem frame_leave (p : Pool) (w : Waiter) : (p.leave w).frame = p.frame :=
  frame_wakeAll { p with available := (p.available.leave w).1 } _

/-- Whether a live session is counted off and whether a place is owed are counts only; then somebody
is told. -/
theorem freePlace_eq (p : Pool) (isOpen : Bool) : ∃ places owed, p.freePlace isOpen =
    ({ p with live := p.live - isOpen.toNat, places := places, owed := owed } : Pool).tellOne := by
  unfold freePlace
  cases isOpen with
  | true =>
    rw [if_pos rfl]
    dsimp only
    split
    · exact ⟨p.places, p.owed - 1, rfl⟩
    · exact ⟨p.places + 1, p.owed, rfl⟩
  | false =>
    rw [if_neg Bool.false_ne_true]
    dsimp only
    split
    · exact ⟨p.places, p.owed - 1, rfl⟩
    · exact ⟨p.places + 1, p.owed, rfl⟩

theorem asked_freePlace {α : Type} {sort : PoolAct → Option α} (hwake : ∀ w, sort (.wake w) = none)
    (p : Pool) (isOpen : Bool) : (p.freePlace isOpen).asked sort = p.asked sort := by
  obtain ⟨places, owed, heq⟩ := freePlace_eq p isOpen
  rw [heq, tellOne, asked_wakeAll hwake]
  rfl

theorem frame_freePlace (p : Pool) (isOpen : Bool) : (p.freePlace isOpen).frame = p.frame := by
  obtain ⟨places, owed, heq⟩ := freePlace_eq p isOpen
  rw [heq, frame_tellOne]
  rfl

theorem frame_askUpkeep (p : Pool) : p.askUpkeep.frame = p.frame :=
  frame_ask { p with upkeep := p.upkeep.ask } rfl

theorem frame_discard (p : Pool) (s : Session) : (p.discard s).frame = p.frame := by
  have hasked : (p.ask (.hangUp s.line)).frame = p.frame := frame_ask p rfl
  unfold discard
  dsimp only
  split
  · exact hasked
  · split
    · rw [frame_freePlace, hasked]
    · rw [frame_ask _ rfl, hasked]

theorem frame_destroy (p : Pool) (s : Session) : (p.destroy s).frame = p.frame := by
  unfold destroy
  dsimp only
  split
  · exact frame_discard p s
  · rw [frame_askUpkeep]
    exact frame_discard p s

theorem frame_foldl {close : Pool → Session → Pool} (hclose : ∀ p s, (close p s).frame = p.frame)
    (gone : List Session) (p : Pool) : (gone.foldl close p).frame = p.frame := by
  induction gone generalizing p with
  | nil => rfl
  | cons s rest ih => rw [List.foldl_cons, ih, hclose]

theorem frame_clear (p : Pool) : p.clear.frame = p.frame :=
  frame_foldl (fun p s => frame_discard { p with destroyed := p.destroyed + 1 } s) p.idle
    { p with idle := [] }

theorem frame_abandon (p : Pool) : p.abandon.frame = p.frame :=
  frame_foldl frame_discard p.idle { p with idle := [] }

/-! ## Loans -/

theorem frame_takeBack (p : Pool) (s : Session) : (p.takeBack s).frame = p.frame := by
  unfold takeBack
  split
  · exact frame_destroy p s
  · split
    · exact frame_destroy p s
    · exact frame_tellOne { p with idle := p.idle ++ [s] }

theorem frame_release (p : Pool) (call : CallId) : (p.release call).frame = p.frame := by
  unfold release
  split
  · exact frame_takeBack (p.endLoan call) _
  · rfl

theorem frame_destroyLoan (p : Pool) (call : CallId) : (p.destroyLoan call).frame = p.frame := by
  unfold destroyLoan
  split
  · exact frame_destroy (p.endLoan call) _
  · rfl

theorem frame_loseLoan (p : Pool) (call : CallId) : (p.loseLoan call).frame = p.frame := by
  unfold loseLoan
  split
  · exact frame_discard (p.endLoan call) _
  · rfl

theorem frame_beginOn (p : Pool) (call : CallId) (begin : Session → Begun) :
    (p.beginOn call begin).1.frame = p.frame := by
  unfold beginOn
  split
  · split <;> rfl
  · rfl

theorem frame_hearLoan (p : Pool) (call : CallId) (now : Instant) (stimulus : Stimulus) :
    (p.hearLoan call now stimulus).1.frame = p.frame := by
  unfold hearLoan
  split <;> rfl

theorem frame_abandonLoan (p : Pool) (call : CallId) : (p.abandonLoan call).frame = p.frame := by
  unfold abandonLoan
  split <;> rfl

theorem frame_invalidateLoan (p : Pool) (call : CallId) :
    (p.invalidateLoan call).frame = p.frame := by
  unfold invalidateLoan
  split <;> rfl

/-! ## Upkeep -/

theorem frame_evict (p : Pool) (now : Instant) : (p.evict now).frame = p.frame :=
  frame_foldl frame_destroy _ { p with idle := (p.sift now p.live p.idle).1 }

theorem frame_fill (p : Pool) (now : Instant) : (p.fill now).frame = p.frame := by
  unfold fill
  split <;> rfl

theorem frame_round (p : Pool) (u : Upkeep) (now : Instant) :
    (({ p with upkeep := u }.evict now).fill now).frame = p.frame :=
  (frame_fill _ now).trans (frame_evict { p with upkeep := u } now)

theorem frame_tend (p : Pool) (now : Instant) : (p.tend now).frame = p.frame := by
  unfold tend
  split
  · split
    · rfl
    · split
      · exact frame_round p _ now
      · split
        · exact frame_round p _ now
        · rfl
  · rfl

theorem frame_upkeepDialled (p : Pool) (now : Instant) (outcome : Except IoFault LineId) :
    (p.upkeepDialled now outcome).frame = p.frame := by
  unfold upkeepDialled
  split
  · split
    · rename_i id _ _ line
      dsimp only
      rw [frame_fill, frame_tellOne]
      rfl
    · exact frame_freePlace (p.noteFailure now) false
  · rfl

theorem frame_upkeepExpired (p : Pool) (now : Instant) : (p.upkeepExpired now).frame = p.frame := by
  unfold upkeepExpired
  split
  · split
    · exact frame_upkeepDialled p now _
    · rfl
  · rfl

/-- A resize changes the bounds: the maximum is at least one, the minimum at most the maximum. -/
theorem frame_resize (p : Pool) (min max : Nat) (now : Instant) :
    (p.resize min max now).frame =
      { p.frame with
        fixture := { p.fixture with
          min := Nat.min min (Nat.max max 1)
          max := Nat.max max 1 } } := by
  unfold resize
  dsimp only
  rw [frame_askUpkeep]
  split
  · rw [frame_tellAll]
    rfl
  · split
    · rw [frame_evict]
      rfl
    · rfl

/-! ## Drains -/

theorem fixture_finishDrain (p : Pool) (call : CallId) :
    (p.finishDrain call).fixture = p.fixture :=
  congrArg Frame.fixture (frame_clear { p with drain := none })

theorem refused_finishDrain (p : Pool) (call : CallId) :
    (p.finishDrain call).refused = p.refused := by
  rw [finishDrain, refused_ask]
  dsimp only [PoolAct.refused?, Option.toList]
  rw [List.append_nil]
  exact congrArg Frame.refused (frame_clear { p with drain := none })

theorem isClosed_finishDrain (p : Pool) (call : CallId) :
    (p.finishDrain call).isClosed = p.isClosed :=
  congrArg (·.closing.isClosed) (frame_clear { p with drain := none })

/-- A drain changes nothing but how far the pool is closed, and opens none that is. -/
structure OnlyCloses (p q : Pool) : Prop where
  fixture : q.fixture = p.fixture
  refused : q.refused = p.refused
  closed : p.isClosed = true → q.isClosed = true

theorem OnlyCloses.trans (h : OnlyCloses p q) (h' : OnlyCloses q r) : OnlyCloses p r :=
  ⟨h'.fixture.trans h.fixture, h'.refused.trans h.refused, fun hp => h'.closed (h.closed hp)⟩

theorem onlyCloses_of_frame (h : q.frame = p.frame) : OnlyCloses p q :=
  ⟨fixture_of_frame h, refused_of_frame h,
    (congrArg Closing.isClosed (closing_of_frame h)).trans⟩

theorem OnlyCloses.refl (p : Pool) : OnlyCloses p p := onlyCloses_of_frame rfl

theorem onlyCloses_finishDrain (p : Pool) (call : CallId) : OnlyCloses p (p.finishDrain call) :=
  ⟨fixture_finishDrain p call, refused_finishDrain p call, (isClosed_finishDrain p call).trans⟩

theorem onlyCloses_lookForLent (p : Pool) (d : Drain) (now : Instant) :
    OnlyCloses p (p.lookForLent d now) := by
  unfold lookForLent
  dsimp only
  split
  · have hleft : OnlyCloses p ((p.enter .drainer).leave .drainer) :=
      onlyCloses_of_frame (frame_leave (p.enter .drainer) .drainer)
    exact hleft.trans (onlyCloses_finishDrain _ d.call)
  · exact ⟨rfl, rfl, fun h => h⟩

theorem onlyCloses_startDrain (p : Pool) (call : CallId) (now : Instant) :
    OnlyCloses p (p.startDrain call now) := by
  unfold startDrain
  split
  · exact onlyCloses_of_frame (frame_ask p rfl)
  · have hclosed : OnlyCloses p ({ p with isClosed := true }.ask .wakeUpkeep) := by
      refine ⟨rfl, ?_, fun _ => rfl⟩
      rw [refused_ask]
      exact List.append_nil _
    have htold := onlyCloses_of_frame (frame_tellAll ({ p with isClosed := true }.ask .wakeUpkeep))
    exact (hclosed.trans htold).trans (onlyCloses_lookForLent _ _ now)

/-- A pool that a drain begins in is closed. -/
theorem isClosed_startDrain (p : Pool) (call : CallId) (now : Instant) :
    (p.startDrain call now).isClosed = true := by
  cases hclosed : p.isClosed with
  | true => exact (onlyCloses_startDrain p call now).closed hclosed
  | false =>
    rw [startDrain, hclosed, if_neg Bool.false_ne_true]
    refine (onlyCloses_lookForLent _ _ now).closed ?_
    exact congrArg (·.closing.isClosed)
      (frame_tellAll ({ p with isClosed := true }.ask .wakeUpkeep))

theorem onlyCloses_resumeDrain (p : Pool) (now : Instant) : OnlyCloses p (p.resumeDrain now) := by
  unfold resumeDrain
  split
  · rename_i d _
    split
    · have hheard : OnlyCloses p { p with available := p.available.hear .drainer } :=
        ⟨rfl, rfl, fun h => h⟩
      exact hheard.trans (onlyCloses_lookForLent _ d now)
    · split
      · have hleft := onlyCloses_of_frame (frame_leave p .drainer)
        exact hleft.trans (onlyCloses_lookForLent _ d now)
      · exact .refl p
  · exact .refl p

theorem onlyCloses_drainExpired (p : Pool) (now : Instant) :
    OnlyCloses p (p.drainExpired now) := by
  unfold drainExpired
  split
  · rename_i d _
    split
    · have hleft := onlyCloses_of_frame (frame_leave p .drainer)
      exact hleft.trans (onlyCloses_finishDrain _ d.call)
    · exact .refl p
  · exact .refl p

theorem onlyCloses_cancelDrain (p : Pool) (call : CallId) : OnlyCloses p (p.cancelDrain call) := by
  unfold cancelDrain
  split
  · split
    · have hleft := onlyCloses_of_frame (frame_leave p .drainer)
      exact ⟨hleft.fixture, hleft.refused, hleft.closed⟩
    · exact .refl p
  · exact .refl p

/-! ## Callers -/

/-- What an operation made for one call does to the frame: it may refuse that call. -/
structure Answers (p q : Pool) (call : CallId) : Prop where
  fixture : q.fixture = p.fixture
  closing : q.closing = p.closing
  refused : ∀ c ∈ q.refused, c ∈ p.refused ∨ c = call

theorem Answers.closed (h : Answers p q call) : p.isClosed = true → q.isClosed = true :=
  (congrArg Closing.isClosed h.closing).trans

theorem answers_of_frame (h : q.frame = p.frame) (call : CallId) : Answers p q call :=
  ⟨fixture_of_frame h, closing_of_frame h, fun _ hc => .inl (refused_of_frame h ▸ hc)⟩

/-- Refusing nobody answers nobody. -/
theorem answers_nobody (hfixture : q.fixture = p.fixture) (hclosing : q.closing = p.closing)
    (hrefused : q.refused = p.refused) : Answers p q call :=
  ⟨hfixture, hclosing, fun _ hc => .inl (hrefused ▸ hc)⟩

/-- What leaves the frame alone may come first. -/
theorem Answers.after (h : Answers q r call) (hframe : q.frame = p.frame) : Answers p r call := by
  refine ⟨h.fixture.trans (fixture_of_frame hframe), h.closing.trans (closing_of_frame hframe), ?_⟩
  intro c hc
  rw [← refused_of_frame hframe]
  exact h.refused c hc

theorem frame_endBorrow (p : Pool) (call : CallId) : (p.endBorrow call).frame = p.frame :=
  frame_leave p (.caller call)

theorem frame_lend (p : Pool) (call : CallId) (s : Session) : (p.lend call s).frame = p.frame := by
  unfold lend
  dsimp only
  rw [frame_ask _ rfl]
  exact frame_endBorrow p call

theorem answers_asked (p : Pool) (call : CallId) (fault : Fault) :
    Answers p (p.ask (.refused call fault)) call := by
  refine ⟨rfl, rfl, ?_⟩
  intro c hc
  rw [refused_ask] at hc
  rcases List.mem_append.mp hc with hold | hnew
  · exact .inl hold
  · exact .inr (List.mem_singleton.mp hnew)

theorem answers_refuse (p : Pool) (call : CallId) (fault : Fault) :
    Answers p (p.refuse call fault) call :=
  (answers_asked (p.endBorrow call) call fault).after (frame_endBorrow p call)

theorem answers_connectOrPark (p : Pool) (call : CallId) (b : Borrow) (now : Instant) :
    Answers p (p.connectOrPark call b now) call := by
  unfold connectOrPark
  split
  · dsimp only
    split
    · exact answers_nobody rfl rfl rfl
    · exact answers_nobody rfl rfl rfl
  · split
    · exact answers_refuse p call _
    · exact answers_nobody rfl rfl rfl

theorem frame_replace (p : Pool) (call : CallId) (s : Session) :
    ((p.destroy s).leave (.caller call)).frame = p.frame := by
  rw [frame_leave, frame_destroy]

theorem answers_seekAmong (p : Pool) (call : CallId) (b : Borrow) (now : Instant)
    (idle : List Session) : Answers p (p.seekAmong call b now idle) call := by
  -- By induction on the idle sessions, as the search goes through them.
  induction idle generalizing p with
  | nil =>
    rw [seekAmong]
    exact (answers_connectOrPark _ call b now).after (p := p) rfl
  | cons s rest ih =>
    rw [seekAmong]
    split
    · exact answers_nobody rfl rfl rfl
    · refine (ih _).after (p := p) ?_
      exact frame_replace ({ p with idle := rest }.enter (.caller call)) call s

theorem answers_seek (p : Pool) (call : CallId) (b : Borrow) (now : Instant) :
    Answers p (p.seek call b now) call := by
  unfold seek
  split
  · exact answers_refuse p call _
  · exact answers_seekAmong p call b now p.idle

theorem answers_acquire (p : Pool) (call : CallId) (now : Instant) :
    Answers p (p.acquire call now) call := by
  unfold acquire
  split
  · exact answers_asked p call _
  · exact (answers_seek _ call _ now).after (p := p) rfl

theorem answers_hearCheck (p : Pool) (call : CallId) (now : Instant) (stimulus : Stimulus) :
    Answers p (p.hearCheck call now stimulus) call := by
  unfold hearCheck
  split
  · dsimp only
    split
    · exact answers_nobody rfl rfl rfl
    · exact answers_of_frame (frame_lend p call _) call
    · exact (answers_seek _ call _ now).after (frame_replace p call _)
  · exact answers_nobody rfl rfl rfl

theorem frame_rested (p : Pool) (call : CallId) (now : Instant) :
    (p.rested call now).frame = p.frame := by
  unfold rested
  split
  · split <;> rfl
  · rfl

theorem answers_dialled (p : Pool) (call : CallId) (now : Instant)
    (outcome : Except IoFault LineId) : Answers p (p.dialled call now outcome) call := by
  unfold dialled
  split
  · split
    · exact answers_of_frame (p := p) (frame_lend p.noteOpened call _) call
    · have hfreed : (((p.noteFailure now).freePlace false).leave (.caller call)).frame =
          p.frame := by
        rw [frame_leave, frame_freePlace]
        rfl
      exact (answers_seek _ call _ now).after hfreed
  · exact answers_nobody rfl rfl rfl

theorem answers_resume (p : Pool) (call : CallId) (now : Instant) :
    Answers p (p.resume call now) call := by
  unfold resume
  split
  · split
    · exact (answers_seek _ call _ now).after (p := p) rfl
    · exact answers_nobody rfl rfl rfl
  · exact answers_nobody rfl rfl rfl

theorem answers_stageExpired (p : Pool) (call : CallId) (now : Instant) :
    Answers p (p.stageExpired call now) call := by
  unfold stageExpired
  split
  · exact answers_hearCheck p call now .expired
  · exact answers_of_frame (frame_rested p call now) call
  · split
    · exact answers_dialled p call now _
    · exact answers_nobody rfl rfl rfl
  · exact answers_nobody rfl rfl rfl

theorem frame_letGo (p : Pool) (stage : BorrowStage) : (p.letGo stage).frame = p.frame := by
  cases stage with
  | checking s => exact frame_discard p s
  | resting | dialling => exact frame_freePlace p false
  | parked => rfl

theorem frame_cancelBorrow (p : Pool) (call : CallId) : (p.cancelBorrow call).frame = p.frame := by
  unfold cancelBorrow
  split
  · rw [frame_endBorrow, frame_letGo]
  · rfl

theorem answers_borrowExpired (p : Pool) (call : CallId) (now : Instant) :
    Answers p (p.borrowExpired call now) call := by
  unfold borrowExpired
  split
  · split
    · exact (answers_asked _ call _).after (frame_cancelBorrow p call)
    · exact answers_nobody rfl rfl rfl
  · exact answers_nobody rfl rfl rfl

end Pool

end BroadcastLink
