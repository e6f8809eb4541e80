import BroadcastLink.Proofs.Pool.Closing
import BroadcastLink.Proofs.Sync.Signals

/-!
# No caller is left waiting for what is there

In an open pool a caller that waits for the signal was not forgotten: for every idle session and
every free place there is somebody who was told and has not looked yet. When one operation is made
for a caller, that caller is out of line for a while, and what it had been told is then to spare
until it has looked itself.
-/

namespace BroadcastLink.Pool

variable {p q : Pool} {call : CallId} {away : Option CallId} {spare : Nat}

/-- How many callers could be served at once: from the idle sessions, and on the free places. -/
def ready (p : Pool) : Nat := p.idle.length + p.places

/-- A caller waits for the signal. -/
def IsParked (p : Pool) (call : CallId) : Prop :=
  ∃ b, p.borrows.get? call = some b ∧ b.stage = .parked

/-- Every caller but one that may be away stands in line, once; and if one of them waits there
parked, then all that is ready, but for what is to spare, was told to somebody. -/
structure Watched (p : Pool) (away : Option CallId) (spare : Nat) : Prop where
  distinct : p.available.names.Nodup
  callers : ∀ w ∈ p.available.names, ∃ call, w = .caller call ∧
    (away = some call ∨ p.borrows.get? call ≠ none)
  present : ∀ call, away ≠ some call → p.borrows.get? call ≠ none →
    .caller call ∈ p.available.names
  told : ∀ call, away ≠ some call → p.IsParked call → p.available.Waits (.caller call) →
    p.ready ≤ p.available.told + spare

namespace Watched

/-! ## Telling -/

/-- What leaves line and callers alone may make ready as much as is then to spare. -/
theorem of_ready {spare' : Nat} (h : Watched p away spare) (havailable : q.available = p.available)
    (hborrows : q.borrows = p.borrows) (hready : q.ready + spare ≤ p.ready + spare') :
    Watched q away spare' := by
  refine ⟨?_, ?_, ?_, ?_⟩
  · rw [havailable]
    exact h.distinct
  · rw [havailable, hborrows]
    exact h.callers
  · rw [havailable, hborrows]
    exact h.present
  · intro call haway hparked hwaits
    rw [IsParked, hborrows] at hparked
    rw [havailable] at hwaits ⊢
    have htold := h.told call haway hparked hwaits
    omega

theorem weaken {spare' : Nat} (h : Watched p away spare) (hspare : spare ≤ spare') :
    Watched p away spare' :=
  h.of_ready rfl rfl (by omega)

/-- With nothing ready, nothing need be to spare. -/
theorem of_none_ready (h : Watched p away spare) (hready : p.ready = 0) : Watched p away 0 := by
  refine ⟨h.distinct, h.callers, h.present, ?_⟩
  intro call _ _ _
  rw [hready]
  exact Nat.zero_le _

/-- To tell one makes up for one more that is ready. -/
theorem tellOne (h : Watched p away (spare + 1)) : Watched p.tellOne away spare := by
  have hnames : p.tellOne.available.names = p.available.names := Signal.names_tellOne p.available
  refine ⟨?_, ?_, ?_, ?_⟩
  · rw [hnames]
    exact h.distinct
  · rw [hnames]
    exact h.callers
  · rw [hnames]
    exact h.present
  · intro call haway hparked hwaits
    have hwaited : p.available.Waits (.caller call) := Signal.waits_of_tellOne hwaits
    have htold : p.ready ≤ p.available.told + (spare + 1) := h.told call haway hparked hwaited
    have hone : p.tellOne.available.told = p.available.told + 1 := Signal.told_tellOne hwaited
    have hready : p.tellOne.ready = p.ready := rfl
    omega

/-- When all were told nobody waits, however much has become ready. -/
theorem tellAll (h : Watched p away spare) (havailable : q.available = p.available)
    (hborrows : q.borrows = p.borrows) : Watched q.tellAll away 0 := by
  have hnames : q.tellAll.available.names = p.available.names :=
    (Signal.names_tellAll q.available).trans (congrArg Signal.names havailable)
  have hsame : q.tellAll.borrows = p.borrows := hborrows
  refine ⟨?_, ?_, ?_, ?_⟩
  · rw [hnames]
    exact h.distinct
  · rw [hnames, hsame]
    exact h.callers
  · rw [hnames, hsame]
    exact h.present
  · intro call _ _ hwaits
    exact absurd hwaits (Signal.not_waits_tellAll q.available (.caller call))

theorem freePlace (h : Watched p away spare) (isOpen : Bool) :
    Watched (p.freePlace isOpen) away spare := by
  unfold Pool.freePlace
  dsimp only
  refine (h.of_ready ?_ ?_ ?_).tellOne
  -- Whether the place is given up because one is owed, at most one more is ready.
  · cases isOpen <;> simp only [Bool.false_eq_true, if_false, if_true] <;> split <;> rfl
  · cases isOpen <;> simp only [Bool.false_eq_true, if_false, if_true] <;> split <;> rfl
  · cases isOpen <;> simp only [Bool.false_eq_true, if_false, if_true, ready] <;> split <;>
      dsimp only <;> omega

theorem ask (h : Watched p away spare) (act : PoolAct) : Watched (p.ask act) away spare :=
  h.of_ready rfl rfl (Nat.le_refl _)

theorem askUpkeep (h : Watched p away spare) : Watched p.askUpkeep away spare :=
  h.of_ready rfl rfl (Nat.le_refl _)

theorem discard (h : Watched p away spare) (s : Session) : Watched (p.discard s) away spare := by
  unfold Pool.discard
  dsimp only
  split
  · exact h.ask _
  · split
    · exact (h.ask _).freePlace true
    · exact (h.ask _).ask _

theorem destroy (h : Watched p away spare) (s : Session) : Watched (p.destroy s) away spare := by
  have hdestroyed : Watched { p.discard s with destroyed := (p.discard s).destroyed + 1 } away
      spare :=
    (h.discard s).of_ready rfl rfl (Nat.le_refl _)
  unfold Pool.destroy
  dsimp only
  split
  · exact hdestroyed
  · exact hdestroyed.askUpkeep

theorem foldl {close : Pool → Session → Pool}
    (hclose : ∀ p s, Watched p away spare → Watched (close p s) away spare) (gone : List Session)
    {p : Pool} (h : Watched p away spare) : Watched (gone.foldl close p) away spare := by
  induction gone generalizing p with
  | nil => exact h
  | cons s rest ih => exact ih (hclose p s h)

/-- Idle sessions may be taken out. -/
theorem keepIdle (h : Watched p away spare) {kept : List Session}
    (hkept : kept.length ≤ p.idle.length) : Watched { p with idle := kept } away spare := by
  refine h.of_ready rfl rfl ?_
  rw [ready, ready]
  dsimp only
  omega

theorem clear (h : Watched p away spare) : Watched p.clear away spare := by
  refine foldl ?_ p.idle (h.keepIdle (Nat.zero_le _))
  intro p s h
  have hready : Watched { p with destroyed := p.destroyed + 1 } _ _ :=
    h.of_ready rfl rfl (Nat.le_refl _)
  exact hready.discard s

theorem abandon (h : Watched p away spare) : Watched p.abandon away spare :=
  foldl (fun _ s h => h.discard s) p.idle (h.keepIdle (Nat.zero_le _))

theorem evict (h : Watched p away spare) (now : Instant) : Watched (p.evict now) away spare := by
  have hlength := (perm_sift p now p.live p.idle).length_eq
  rw [List.length_append] at hlength
  exact foldl (fun _ s h => h.destroy s) _ (h.keepIdle (by omega))

/-- What comes to be idle is told. -/
theorem keepBack (h : Watched p away spare) (s : Session) :
    Watched { p with idle := p.idle ++ [s] }.tellOne away spare := by
  refine Watched.tellOne (h.of_ready rfl rfl ?_)
  rw [ready, ready]
  dsimp only
  rw [List.length_append, List.length_singleton]
  omega

theorem takeBack (h : Watched p away spare) (s : Session) : Watched (p.takeBack s) away spare := by
  unfold Pool.takeBack
  split
  · exact h.destroy s
  · split
    · exact h.destroy s
    · exact h.keepBack s

/-! ## Coming and going -/

/-- A caller may be away, or come new. -/
theorem goAway (h : Watched p none spare) (call : CallId) : Watched p (some call) spare := by
  refine ⟨h.distinct, ?_, ?_, ?_⟩
  · intro w hw
    obtain ⟨c, hc, habsurd | hborrow⟩ := h.callers w hw
    · contradiction
    · exact ⟨c, hc, .inr hborrow⟩
  · intro c _ hborrow
    exact h.present c (by simp) hborrow
  · intro c _ hparked hwaits
    exact h.told c (by simp) hparked hwaits

/-- Nobody who is not a caller stands in line. -/
theorem not_mem_of_fresh (h : Watched p none spare) (hfresh : p.borrows.get? call = none) :
    .caller call ∉ p.available.names := by
  intro hmem
  obtain ⟨c, heq, haway | hborrow⟩ := h.callers _ hmem
  · contradiction
  · obtain rfl := Waiter.caller.inj heq
    exact hborrow hfresh

theorem enter (h : Watched p (some call) spare) (hout : .caller call ∉ p.available.names) :
    Watched (p.enter (.caller call)) (some call) spare := by
  have hnames : (p.enter (.caller call)).available.names = p.available.names ++ [.caller call] :=
    Signal.names_enter p.available (.caller call)
  refine ⟨?_, ?_, ?_, ?_⟩
  · rw [hnames]
    exact List.nodup_append.mpr ⟨h.distinct, List.nodup_singleton _, by
      intro a ha b hb heq
      rw [List.mem_singleton.mp hb] at heq
      exact hout (heq ▸ ha)⟩
  · intro w hw
    rw [hnames] at hw
    rcases List.mem_append.mp hw with hold | hnew
    · exact h.callers w hold
    · exact ⟨call, List.mem_singleton.mp hnew, .inl rfl⟩
  · intro c haway hborrow
    rw [hnames]
    exact List.mem_append_left _ (h.present c haway hborrow)
  · intro c haway hparked hwaits
    have hne : Waiter.caller c ≠ .caller call := by
      intro heq
      exact haway (congrArg some (Waiter.caller.inj heq).symm)
    have htold := h.told c haway hparked (Signal.waits_of_enter hwaits hne)
    have hsame : (p.enter (.caller call)).available.told = p.available.told :=
      Signal.told_enter p.available (.caller call)
    rw [hsame]
    exact htold

/-- A caller that is away is out of line, and nobody else moved. -/
theorem out (h : Watched p (some call) spare) (hborrows : q.borrows = p.borrows)
    (hnames : q.available.names = (p.available.without (.caller call)).names)
    {spare' : Nat} (htold : ∀ c, Waiter.caller c ≠ .caller call →
      q.available.Waits (.caller c) → p.available.Waits (.caller c) ∧
        q.ready + p.available.told + spare ≤ p.ready + q.available.told + spare') :
    Watched q (some call) spare' := by
  have hmem : ∀ w, w ∈ q.available.names ↔ w ∈ p.available.names ∧ w ≠ .caller call := by
    intro w
    rw [hnames, Signal.names_without, List.mem_filter, decide_eq_true_iff]
  have hother : ∀ {c : CallId}, some call ≠ some c → Waiter.caller c ≠ .caller call := by
    intro c haway heq
    exact haway (congrArg some (Waiter.caller.inj heq).symm)
  refine ⟨?_, ?_, ?_, ?_⟩
  · rw [hnames]
    exact Signal.nodup_without h.distinct _
  · intro w hw
    rw [hborrows]
    exact h.callers w ((hmem w).mp hw).1
  · intro c haway hborrow
    rw [hborrows] at hborrow
    exact (hmem _).mpr ⟨h.present c haway hborrow, hother haway⟩
  · intro c haway hparked hwaits
    obtain ⟨hwaited, hbalance⟩ := htold c (hother haway) hwaits
    rw [IsParked, hborrows] at hparked
    have hbefore := h.told c haway hparked hwaited
    omega

/-- Who leaves the line passes on what was told. -/
theorem leave (h : Watched p (some call) spare) :
    Watched (p.leave (.caller call)) (some call) spare := by
  have hnames : (p.leave (.caller call)).available.names =
      (p.available.without (.caller call)).names := Signal.names_leave _ _
  refine h.out (q := p.leave (.caller call)) rfl hnames ?_
  intro c _ hwaits
  have htold : p.available.told ≤ (p.leave (.caller call)).available.told :=
    Signal.told_le_leave h.distinct hwaits
  have hready : (p.leave (.caller call)).ready = p.ready := rfl
  exact ⟨Signal.waits_of_leave hwaits, by omega⟩

/-- Who has heard takes along what was told, to look itself. -/
theorem hear (h : Watched p (some call) spare) :
    Watched { p with available := p.available.hear (.caller call) } (some call) (spare + 1) := by
  have hnames : (p.available.hear (.caller call)).names =
      (p.available.without (.caller call)).names := rfl
  refine h.out (q := { p with available := p.available.hear (.caller call) }) rfl hnames ?_
  intro c _ hwaits
  have htold := Signal.told_le_without h.distinct (.caller call)
  refine ⟨Signal.waits_of_without hwaits, ?_⟩
  show p.ready + p.available.told + spare ≤
    p.ready + (p.available.without (.caller call)).told + (spare + 1)
  omega

/-- A caller in line is back; if it is parked, all that is ready was told. -/
theorem putBorrow (h : Watched p (some call) spare) (hin : .caller call ∈ p.available.names)
    {b : Borrow} (hparked : b.stage = .parked → p.ready ≤ spare) :
    Watched (p.putBorrow call b) none spare := by
  have hborrow : ∀ c, (p.putBorrow call b).borrows.get? c =
      if c = call then some b else p.borrows.get? c :=
    fun c => Roster.get?_put p.borrows c call b
  refine ⟨h.distinct, ?_, ?_, ?_⟩
  · intro w hw
    obtain ⟨c, hc, haway | hother⟩ := h.callers w hw
    · obtain rfl := Option.some.inj haway
      exact ⟨call, hc, .inr (by rw [hborrow, if_pos rfl]; simp)⟩
    · refine ⟨c, hc, .inr ?_⟩
      rw [hborrow]
      split
      · simp
      · exact hother
  · intro c _ hc
    by_cases heq : c = call
    · rw [heq]
      exact hin
    · rw [hborrow, if_neg heq] at hc
      exact h.present c (fun haway => heq (Option.some.inj haway).symm) hc
  · intro c _ hc hwaits
    obtain ⟨b', hb', hstage⟩ := hc
    rw [hborrow] at hb'
    by_cases heq : c = call
    · rw [if_pos heq] at hb'
      obtain rfl := Option.some.inj hb'
      exact Nat.le_add_left_of_le (hparked hstage)
    · rw [if_neg heq] at hb'
      exact h.told c (fun haway => heq (Option.some.inj haway).symm) ⟨b', hb', hstage⟩ hwaits

/-- How far a caller that is away has come does not matter. -/
theorem putAway (h : Watched p (some call) spare) (b : Borrow) :
    Watched (p.putBorrow call b) (some call) spare := by
  have hborrow : ∀ c, some call ≠ some c →
      (p.putBorrow call b).borrows.get? c = p.borrows.get? c := by
    intro c haway
    have hput := Roster.get?_put p.borrows c call b
    rwa [if_neg (fun heq => haway (congrArg some heq).symm)] at hput
  refine ⟨h.distinct, ?_, ?_, ?_⟩
  · intro w hw
    obtain ⟨c, hc, haway | hother⟩ := h.callers w hw
    · exact ⟨c, hc, .inl haway⟩
    · by_cases haway : some call = some c
      · exact ⟨c, hc, .inl haway⟩
      · exact ⟨c, hc, .inr (by rw [hborrow c haway]; exact hother)⟩
  · intro c haway hc
    rw [hborrow c haway] at hc
    exact h.present c haway hc
  · intro c haway hparked hwaits
    rw [IsParked, hborrow c haway] at hparked
    exact h.told c haway hparked hwaits

/-- A caller that is done leaves the line for good. -/
theorem endBorrow (h : Watched p (some call) spare) : Watched (p.endBorrow call) none spare := by
  have hleft := h.leave
  have hborrow : ∀ c, (p.endBorrow call).borrows.get? c =
      if c = call then none else p.borrows.get? c :=
    fun c => Roster.get?_erase p.borrows c call
  refine ⟨hleft.distinct, ?_, ?_, ?_⟩
  · intro w hw
    have hne : w ≠ .caller call := by
      rintro rfl
      have hnames : (p.leave (.caller call)).available.names =
          (p.available.without (.caller call)).names := Signal.names_leave _ _
      exact Signal.not_mem_names_without p.available (.caller call) (hnames ▸ hw)
    obtain ⟨c, hc, haway | hother⟩ := hleft.callers w hw
    · exact absurd (Option.some.inj haway ▸ hc) hne
    · refine ⟨c, hc, .inr ?_⟩
      rw [hborrow, if_neg (by rintro rfl; exact hne hc)]
      exact hother
  · intro c _ hc
    rw [hborrow] at hc
    split at hc
    · contradiction
    · rename_i hne
      exact hleft.present c (fun haway => hne (Option.some.inj haway).symm) hc
  · intro c _ hc hwaits
    obtain ⟨b, hb, hstage⟩ := hc
    rw [hborrow] at hb
    split at hb
    · contradiction
    · rename_i hne
      exact hleft.told c (fun haway => hne (Option.some.inj haway).symm) ⟨b, hb, hstage⟩ hwaits

theorem refuse (h : Watched p (some call) spare) (fault : Fault) :
    Watched (p.refuse call fault) none spare :=
  h.endBorrow.ask _

theorem lend (h : Watched p (some call) spare) (s : Session) :
    Watched (p.lend call s) none spare := by
  have hready : Watched
      { p.endBorrow call with loans := (p.endBorrow call).loans.put call s } none spare :=
    h.endBorrow.of_ready rfl rfl (Nat.le_refl _)
  exact hready.ask _

/-! ## Looking for a session -/

theorem names_leave (p : Pool) (call : CallId) :
    .caller call ∉ (p.leave (.caller call)).available.names := by
  have hnames : (p.leave (.caller call)).available.names =
      (p.available.without (.caller call)).names := Signal.names_leave _ _
  rw [hnames]
  exact Signal.not_mem_names_without p.available (.caller call)

theorem mem_names_enter (p : Pool) (call : CallId) :
    .caller call ∈ (p.enter (.caller call)).available.names := by
  have hnames : (p.enter (.caller call)).available.names = p.available.names ++ [.caller call] :=
    Signal.names_enter p.available (.caller call)
  rw [hnames]
  exact List.mem_append_right _ List.mem_cons_self

/-- A caller parks when nothing is ready. -/
theorem park (h : Watched p (some call) spare) (hin : .caller call ∈ p.available.names)
    (hready : p.ready = 0) (b : Borrow) : Watched (p.park call b) none 0 := by
  unfold Pool.park
  dsimp only
  split
  · -- It was told on arrival, and gets in line anew.
    have hout : .caller call ∉ (p.available.hear (.caller call)).names :=
      Signal.not_mem_names_without p.available (.caller call)
    have hagain := h.hear.enter hout
    have hback := mem_names_enter { p with available := p.available.hear (.caller call) } call
    exact (hagain.of_none_ready hready).putBorrow hback fun _ => Nat.le_of_eq hready
  · exact (h.of_none_ready hready).putBorrow hin fun _ => Nat.le_of_eq hready

/-- A caller that found nothing idle takes a place, parks, or is refused. -/
theorem connectOrPark (h : Watched p (some call) 1) (hin : .caller call ∈ p.available.names)
    (hidle : p.idle = []) (hfinished : p.isFinished = false) (b : Borrow) (now : Instant) :
    Watched (p.connectOrPark call b now) none 0 := by
  unfold Pool.connectOrPark
  split
  · rename_i hplace
    rw [hasPlace, Bool.and_eq_true, decide_eq_true_iff] at hplace
    -- One fewer is ready, which makes up for what the caller had been told.
    have htaken : Watched { p with places := p.places - 1 } (some call) 0 := by
      refine h.of_ready rfl rfl ?_
      rw [ready, ready]
      dsimp only
      omega
    dsimp only
    split
    · exact htaken.putBorrow hin (by simp)
    · unfold dial
      have hnumbered : Watched { p with places := p.places - 1 }.takeId (some call) 0 :=
        htaken.of_ready rfl rfl (Nat.le_refl _)
      exact hnumbered.putBorrow hin (by simp)
  · rename_i hplace
    have hready : p.ready = 0 := by
      rw [hasPlace, hfinished, Bool.not_false, Bool.and_true, decide_eq_true_iff] at hplace
      rw [ready, hidle, List.length_nil]
      omega
    split
    · exact (h.of_none_ready hready).refuse _
    · exact h.park hin hready b

/-- A caller looks, having been told as the one or not. -/
theorem seekAmong {idle : List Session} (h : Watched p (some call) 1)
    (hout : .caller call ∉ p.available.names) (hidle : p.idle = idle)
    (hfinished : p.isFinished = false) (b : Borrow) (now : Instant) :
    Watched (p.seekAmong call b now idle) none 0 := by
  induction idle generalizing p with
  | nil =>
    have hentered : Watched ({ p with idle := [] }.enter (.caller call)) (some call) 1 :=
      (h.keepIdle (Nat.zero_le _)).enter hout
    rw [Pool.seekAmong]
    exact hentered.connectOrPark (mem_names_enter _ call) rfl hfinished b now
  | cons s rest ih =>
    have htaken : Watched { p with idle := rest } (some call) 0 := by
      refine h.of_ready rfl rfl ?_
      rw [ready, ready, hidle, List.length_cons]
      dsimp only
      omega
    have hentered : Watched ({ p with idle := rest }.enter (.caller call)) (some call) 0 :=
      htaken.enter hout
    rw [Pool.seekAmong]
    split
    · exact hentered.putBorrow (mem_names_enter _ call) (by simp)
    · -- The session cannot even be checked: it is closed, and what follows it is looked at.
      have hclosed := (hentered.destroy s).leave
      have hidle' : ((({ p with idle := rest }.enter (.caller call)).destroy s).leave
          (.caller call)).idle = rest := idle_destroy _ s
      have hfinished' := isFinished_of_closing (closing_of_frame
        (frame_replace ({ p with idle := rest }.enter (.caller call)) call s))
      exact ih (hclosed.weaken (Nat.zero_le 1)) (names_leave _ call) hidle'
        (hfinished'.trans hfinished)

theorem seek (h : Watched p (some call) 1) (hout : .caller call ∉ p.available.names)
    (hopen : p.closing = ⟨false, false, none⟩) (b : Borrow) (now : Instant) :
    Watched (p.seek call b now) none 0 := by
  have hclosed : p.isClosed = false := congrArg Closing.isClosed hopen
  unfold Pool.seek
  rw [if_neg (by rw [hclosed]; exact Bool.false_ne_true)]
  exact h.seekAmong hout rfl (congrArg Closing.isFinished hopen) b now

/-! ## Callers -/

theorem acquire (h : Watched p none 0) (hfresh : p.IsFresh call)
    (hopen : p.closing = ⟨false, false, none⟩) (now : Instant) :
    Watched (p.acquire call now) none 0 := by
  have hclosed : p.isClosed = false := congrArg Closing.isClosed hopen
  unfold Pool.acquire
  rw [if_neg (by rw [hclosed]; exact Bool.false_ne_true)]
  have hcame := ((h.goAway call).putAway
    ⟨.parked, p.settings.acquireTimeout.after now, false⟩).weaken (Nat.zero_le 1)
  exact hcame.seek (h.not_mem_of_fresh hfresh.1) hopen _ now

/-- A caller that is not parked stays in line while it goes on. -/
theorem goOn (h : Watched p none 0) {b b' : Borrow} (hb : p.borrows.get? call = some b)
    (hstage : b'.stage ≠ .parked) : Watched (p.putBorrow call b') none 0 := by
  have hin : .caller call ∈ p.available.names := h.present call (by simp) (by rw [hb]; simp)
  exact (h.goAway call).putBorrow hin fun hparked => absurd hparked hstage

/-- What a caller had failed, and was closed; it looks again. -/
theorem startOver (hclosed : Watched q (some call) 0) (hsame : q.closing = p.closing)
    (hopen : p.closing = ⟨false, false, none⟩) (b : Borrow) (now : Instant) :
    Watched ((q.leave (.caller call)).seek call b now) none 0 := by
  have hleft : (q.leave (.caller call)).closing = ⟨false, false, none⟩ :=
    (closing_of_frame (frame_leave q (.caller call))).trans (hsame.trans hopen)
  exact (hclosed.leave.weaken (Nat.zero_le 1)).seek (names_leave q call) hleft b now

theorem hearCheck (h : Watched p none 0) (hopen : p.closing = ⟨false, false, none⟩)
    (call : CallId) (now : Instant) (stimulus : Stimulus) :
    Watched (p.hearCheck call now stimulus) none 0 := by
  unfold Pool.hearCheck
  split
  · rename_i s deadline counts hb
    dsimp only
    split
    · exact h.goOn hb (by simp)
    · exact (h.goAway call).lend _
    · exact ((h.goAway call).destroy _).startOver (closing_of_frame (frame_destroy p _)) hopen _ now
  · exact h

theorem rested (h : Watched p none 0) (call : CallId) (now : Instant) :
    Watched (p.rested call now) none 0 := by
  unfold Pool.rested
  split
  · rename_i wakeAt deadline counts hb
    split
    · have hnumbered : Watched p.takeId none 0 := h.of_ready rfl rfl (Nat.le_refl _)
      exact hnumbered.goOn (b := ⟨.resting wakeAt, deadline, counts⟩) hb (by simp)
    · exact h
  · exact h

theorem dialled (h : Watched p none 0) (hopen : p.closing = ⟨false, false, none⟩)
    (call : CallId) (now : Instant) (outcome : Except IoFault LineId) :
    Watched (p.dialled call now outcome) none 0 := by
  unfold Pool.dialled
  split
  · split
    · have hopened : Watched p.noteOpened none 0 := h.of_ready rfl rfl (Nat.le_refl _)
      exact (hopened.goAway call).lend _
    · have hfailed : Watched (p.noteFailure now) (some call) 0 :=
        (h.goAway call).of_ready rfl rfl (Nat.le_refl _)
      have hsame : ((p.noteFailure now).freePlace false).closing = p.closing :=
        closing_of_frame (frame_freePlace (p.noteFailure now) false)
      exact (hfailed.freePlace false).startOver hsame hopen _ now
  · exact h

theorem resume (h : Watched p none 0) (hopen : p.closing = ⟨false, false, none⟩)
    (call : CallId) (now : Instant) : Watched (p.resume call now) none 0 := by
  unfold Pool.resume
  split
  · split
    · have hout : .caller call ∉ (p.available.hear (.caller call)).names :=
        Signal.not_mem_names_without p.available (.caller call)
      exact (h.goAway call).hear.seek hout hopen _ now
    · exact h
  · exact h

theorem stageExpired (h : Watched p none 0) (hopen : p.closing = ⟨false, false, none⟩)
    (call : CallId) (now : Instant) : Watched (p.stageExpired call now) none 0 := by
  unfold Pool.stageExpired
  split
  · exact h.hearCheck hopen call now .expired
  · exact h.rested call now
  · split
    · exact h.dialled hopen call now _
    · exact h
  · exact h

theorem letGo (h : Watched p away spare) (stage : BorrowStage) :
    Watched (p.letGo stage) away spare := by
  cases stage with
  | checking s => exact h.discard s
  | resting | dialling => exact h.freePlace false
  | parked => exact h

theorem cancelBorrow (h : Watched p none 0) (call : CallId) :
    Watched (p.cancelBorrow call) none 0 := by
  unfold Pool.cancelBorrow
  split
  · exact ((h.goAway call).letGo _).endBorrow
  · exact h

theorem borrowExpired (h : Watched p none 0) (call : CallId) (now : Instant) :
    Watched (p.borrowExpired call now) none 0 := by
  unfold Pool.borrowExpired
  split
  · split
    · exact (h.cancelBorrow call).ask _
    · exact h
  · exact h

/-! ## Loans -/

theorem endLoan (h : Watched p away spare) (call : CallId) : Watched (p.endLoan call) away spare :=
  h.of_ready rfl rfl (Nat.le_refl _)

theorem putLoan (h : Watched p away spare) (call : CallId) (s : Session) :
    Watched (p.putLoan call s) away spare :=
  h.of_ready rfl rfl (Nat.le_refl _)

theorem beginOn (h : Watched p away spare) (call : CallId) (begin : Session → Begun) :
    Watched (p.beginOn call begin).1 away spare := by
  unfold Pool.beginOn
  split
  · split
    · exact h
    · exact h.putLoan call _
  · exact h

theorem hearLoan (h : Watched p away spare) (call : CallId) (now : Instant) (stimulus : Stimulus) :
    Watched (p.hearLoan call now stimulus).1 away spare := by
  unfold Pool.hearLoan
  split
  · exact h.putLoan call _
  · exact h

theorem abandonLoan (h : Watched p away spare) (call : CallId) :
    Watched (p.abandonLoan call) away spare := by
  unfold Pool.abandonLoan
  split
  · exact h.putLoan call _
  · exact h

theorem invalidateLoan (h : Watched p away spare) (call : CallId) :
    Watched (p.invalidateLoan call) away spare := by
  unfold Pool.invalidateLoan
  split
  · exact h.putLoan call _
  · exact h

theorem release (h : Watched p away spare) (call : CallId) :
    Watched (p.release call) away spare := by
  unfold Pool.release
  split
  · exact (h.endLoan call).takeBack _
  · exact h

theorem destroyLoan (h : Watched p away spare) (call : CallId) :
    Watched (p.destroyLoan call) away spare := by
  unfold Pool.destroyLoan
  split
  · exact (h.endLoan call).destroy _
  · exact h

theorem loseLoan (h : Watched p away spare) (call : CallId) :
    Watched (p.loseLoan call) away spare := by
  unfold Pool.loseLoan
  split
  · exact (h.endLoan call).discard _
  · exact h

/-! ## Upkeep and bounds -/

theorem fill (h : Watched p away spare) (now : Instant) : Watched (p.fill now) away spare := by
  unfold Pool.fill
  split
  · exact h.of_ready rfl rfl (Nat.le_refl _)
  · refine h.of_ready rfl rfl ?_
    rw [ready, ready]
    show p.idle.length + (p.places - 1) + spare ≤ _
    omega

theorem round (h : Watched p away spare) (u : Upkeep) (now : Instant) :
    Watched (({ p with upkeep := u }.evict now).fill now) away spare := by
  have htending : Watched { p with upkeep := u } away spare := h.of_ready rfl rfl (Nat.le_refl _)
  exact (htending.evict now).fill now

theorem tend (h : Watched p away spare) (now : Instant) : Watched (p.tend now) away spare := by
  unfold Pool.tend
  split
  · split
    · exact h.of_ready rfl rfl (Nat.le_refl _)
    · split
      · exact h.round _ now
      · split
        · exact h.round _ now
        · exact h
  · exact h

theorem upkeepDialled (h : Watched p away spare) (now : Instant) (outcome : Except IoFault LineId) :
    Watched (p.upkeepDialled now outcome) away spare := by
  unfold Pool.upkeepDialled
  split
  · split
    · have hopened : Watched p.noteOpened away spare := h.of_ready rfl rfl (Nat.le_refl _)
      exact (hopened.keepBack _).fill now
    · have hfailed : Watched (p.noteFailure now) away spare := h.of_ready rfl rfl (Nat.le_refl _)
      exact (hfailed.freePlace false).of_ready rfl rfl (Nat.le_refl _)
  · exact h

theorem upkeepExpired (h : Watched p away spare) (now : Instant) :
    Watched (p.upkeepExpired now) away spare := by
  unfold Pool.upkeepExpired
  split
  · split
    · exact h.upkeepDialled now _
    · exact h
  · exact h

theorem resize (h : Watched p away 0) (min max : Nat) (now : Instant) :
    Watched (p.resize min max now) away 0 := by
  unfold Pool.resize
  dsimp only
  refine Watched.askUpkeep ?_
  split
  · -- New places may be many at once, and all are told.
    exact h.tellAll rfl rfl
  · split
    · refine Watched.evict ?_ now
      refine h.of_ready rfl rfl ?_
      rw [ready, ready]
      dsimp only
      omega
    · exact h.of_ready rfl rfl (Nat.le_refl _)

end Watched

/-! ## Every event -/

/-- A pool to which no drain came, and in which everybody who waits is looked after. -/
structure Attended (p : Pool) : Prop where
  isOpen : p.closing = ⟨false, false, none⟩
  watched : Watched p none 0

theorem attended_forStudio (id : PoolId) (studio : Studio) (settings : PoolSettings)
    (now : Instant) : (forStudio id studio settings now).Attended := by
  refine ⟨rfl, List.nodup_nil, ?_, ?_, ?_⟩
  · intro w hw
    contradiction
  · intro call _ hborrow
    exact absurd rfl hborrow
  · intro call _ hparked
    obtain ⟨b, hb, -⟩ := hparked
    contradiction

/-- What is no drain's leaves nobody waiting for what is there. -/
theorem Attended.performed (h : p.Attended) {event : PoolEvent} (hdrains : event.isDrains = false) :
    Watched (p.perform event) none 0 := by
  cases event with
  | startDrain | resumeDrain | drainExpired | cancelDrain => contradiction
  | acquire call now =>
    rw [perform]
    split
    · rename_i hfresh
      exact h.watched.acquire hfresh h.isOpen now
    · exact h.watched
  | hearCheck call now stimulus => exact h.watched.hearCheck h.isOpen call now stimulus
  | rested call now => exact h.watched.rested call now
  | dialled call now outcome => exact h.watched.dialled h.isOpen call now outcome
  | resume call now => exact h.watched.resume h.isOpen call now
  | stageExpired call now => exact h.watched.stageExpired h.isOpen call now
  | borrowExpired call now => exact h.watched.borrowExpired call now
  | cancelBorrow call => exact h.watched.cancelBorrow call
  | sendOn call | checkOn call => exact h.watched.beginOn call _
  | hearLoan call now stimulus => exact h.watched.hearLoan call now stimulus
  | abandonLoan call => exact h.watched.abandonLoan call
  | invalidateLoan call => exact h.watched.invalidateLoan call
  | release call => exact h.watched.release call
  | destroyLoan call => exact h.watched.destroyLoan call
  | loseLoan call => exact h.watched.loseLoan call
  | takeGuest guest =>
    rw [perform]
    split
    · exact h.watched
    · exact h.watched.takeBack guest
  | destroyGuest guest =>
    rw [perform]
    split
    · exact h.watched
    · exact h.watched.destroy guest
  | resize min max now => exact h.watched.resize min max now
  | clear => exact h.watched.clear
  | tend now => exact h.watched.tend now
  | upkeepDialled now outcome => exact h.watched.upkeepDialled now outcome
  | upkeepExpired now => exact h.watched.upkeepExpired now
  | abandon => exact h.watched.abandon
  | settled => exact h.watched.of_ready rfl rfl (Nat.le_refl _)

/-- One event leaves nobody waiting for what is there, unless it closes the pool. -/
theorem Attended.perform (h : p.Attended) {event : PoolEvent}
    (hafter : (p.perform event).isClosed = false) : (p.perform event).Attended := by
  cases hdrains : event.isDrains with
  | false => exact ⟨(closing_perform hdrains).trans h.isOpen, h.performed hdrains⟩
  | true =>
    rcases perform_of_open h.isOpen hdrains with hclosed | hsame
    · exact absurd (hafter.symm.trans hclosed) Bool.false_ne_true
    · rw [hsame]
      exact h

theorem Attended.run {events : List PoolEvent} (h : p.Attended)
    (hafter : (p.run events).isClosed = false) : (p.run events).Attended := by
  induction events generalizing p with
  | nil => exact h
  | cons event rest ih =>
    -- A pool that is open in the end was open all along.
    have hopen : (p.perform event).isClosed = false := by
      cases hclosed : (p.perform event).isClosed with
      | false => rfl
      | true =>
        have hrun : ((p.perform event).run rest).isClosed = true := isClosed_run hclosed rest
        exact absurd (hafter.symm.trans hrun) Bool.false_ne_true
    exact ih (h.perform hopen) hafter

/-! ## When nothing can go on -/

/-- Every caller is parked and has nothing to do before time passes. -/
def IsStill (p : Pool) : Prop :=
  ∀ e ∈ p.borrows.entries, e.2.stage = .parked ∧ p.borrowWant e.1 = .patience

instance (p : Pool) : Decidable p.IsStill := inferInstanceAs (Decidable (∀ _ ∈ _, _))

/-- A parked caller who has nothing to do may not go on. -/
theorem IsStill.not_mayGo (h : p.IsStill) {b : Borrow} (hb : p.borrows.get? call = some b) :
    p.available.mayGo (.caller call) = false := by
  obtain ⟨hstage, hpatient⟩ := h _ (Roster.mem_entries_iff.mpr hb)
  obtain ⟨stage, deadline, counts⟩ := b
  obtain rfl : stage = .parked := hstage
  cases hgo : p.available.mayGo (.caller call) with
  | false => rfl
  | true =>
    rw [borrowWant, hb] at hpatient
    simp [hgo] at hpatient

/-- When nothing can go on, all who stand in line wait there. -/
theorem Watched.waiting_of_still (h : Watched p none 0) (hstill : p.IsStill) :
    ∀ e ∈ p.available.line, e.2 = .waiting := by
  intro e he
  obtain ⟨w, standing⟩ := e
  obtain ⟨call, rfl, haway | hborrow⟩ := h.callers w (List.mem_map.mpr ⟨_, he, rfl⟩)
  · contradiction
  · obtain ⟨b, hb⟩ := Option.ne_none_iff_exists'.mp hborrow
    have hquiet := hstill.not_mayGo hb
    rw [Signal.mayGo, Signal.standing_of_mem h.distinct he] at hquiet
    cases standing with
    | waiting => rfl
    | told | freed => contradiction

/-- No wake-up is lost: whatever happened to a pool that is still open, when every caller is parked
and nothing can go on before time passes, and there is such a caller, then no session is idle and
no place is free. -/
theorem run_loses_no_wakeup (id : PoolId) (studio : Studio) (settings : PoolSettings)
    (now : Instant) (events : List PoolEvent) :
    let p := (forStudio id studio settings now).run events
    p.isClosed = false → p.IsStill → p.borrows.entries ≠ [] → p.idle = [] ∧ p.places = 0 := by
  intro p hopen hstill hpending
  have hattended : p.Attended := (attended_forStudio id studio settings now).run hopen
  have hwaiting := hattended.watched.waiting_of_still hstill
  -- Nobody was told, and somebody waits.
  have hnobody : p.available.told = 0 := by
    refine List.countP_eq_zero.mpr ?_
    intro e he
    rw [Signal.wasTold, hwaiting e he]
    decide
  obtain ⟨⟨call, b⟩, hmem⟩ := List.exists_mem_of_ne_nil _ hpending
  have hb : p.borrows.get? call = some b := Roster.mem_entries_iff.mp hmem
  have hin : .caller call ∈ p.available.names :=
    hattended.watched.present call (by simp) (by rw [hb]; simp)
  have hwaits : p.available.Waits (.caller call) := by
    obtain ⟨⟨w, standing⟩, hline, rfl⟩ := List.mem_map.mp hin
    obtain rfl : standing = .waiting := hwaiting _ hline
    exact hline
  have hready := hattended.watched.told call (by simp) ⟨b, hb, (hstill _ hmem).1⟩ hwaits
  rw [hnobody, ready] at hready
  exact ⟨List.eq_nil_of_length_eq_zero (by omega), by omega⟩

/-- One session may be open. While it is lent two callers park; when it is closed the first is told,
but gives up, so that the second goes on in its stead, and a third parks. -/
def toldAndGone : List PoolEvent :=
  [.acquire 1 0, .dialled 1 0 (.ok 7), .acquire 2 0, .acquire 3 0, .destroyLoan 1, .cancelBorrow 2,
    .resume 3 1, .dialled 3 1 (.ok 8), .acquire 4 2]

/-- Nobody is left waiting for the place that came free. -/
theorem toldAndGone_loses_no_wakeup :
    let p := (forStudio 0 ⟨"s", "h", 1, 0, 1, none, false⟩ {} 0).run toldAndGone
    p.borrows.keys = [4] ∧ p.idle = [] ∧ p.places = 0 := by
  have hall := run_loses_no_wakeup 0 ⟨"s", "h", 1, 0, 1, none, false⟩ {} 0 toldAndGone
  exact ⟨by decide, hall (by decide) (by decide) (by decide)⟩

end BroadcastLink.Pool
