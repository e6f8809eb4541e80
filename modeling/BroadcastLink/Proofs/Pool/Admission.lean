import BroadcastLink.Proofs.Pool.Draining
import BroadcastLink.Proofs.Pool.Wakeups
import Mathlib.Data.List.Induction

/-!
# How many may wait

A caller that finds neither a session nor a place waits, unless too many wait already. Once it was
let in to wait it counts until it is done, whatever else it tries in between, and it is not turned
away for want of room again. So the number of those who count never exceeds the limit.
-/

namespace BroadcastLink

/-- The call that was refused because too many wait, and how many those were. -/
def PoolAct.exhausted? : PoolAct → Option (CallId × Nat)
  | .refused call (.poolExhausted waiting) => some (call, waiting)
  | _ => none

namespace Pool

variable {p q r : Pool} {call : CallId} {b : Borrow} {now : Instant} {event : PoolEvent}

/-- The calls refused because too many wait, and not told yet. -/
def exhausted (p : Pool) : List (CallId × Nat) := p.asked PoolAct.exhausted?

/-- Does the caller count as waiting? -/
def Counts (p : Pool) (call : CallId) : Prop :=
  ∃ b, p.borrows.get? call = some b ∧ b.counts = true

/-- After these events a call is pending that was parked at some point since it came. -/
def HasWaited (p : Pool) (events : List PoolEvent) (call : CallId) : Prop :=
  ∃ before after, events = before ++ after ∧ (p.run before).IsParked call ∧
    ∀ mid, mid <+: after → (p.run (before ++ mid)).borrows.get? call ≠ none

/-! ## Counting -/

theorem waiting_of_get? (h : p.borrows.get? call = some b) :
    p.waiting = (p.borrows.erase call).values.countP (·.counts) + b.counts.toNat := by
  rw [waiting, (Roster.values_of_get? h).countP_eq, List.countP_cons]
  cases b.counts <;> rfl

theorem waiting_of_none (h : p.borrows.get? call = none) :
    p.waiting = (p.borrows.erase call).values.countP (·.counts) := by
  rw [waiting, Roster.erase_of_get?_none h]

/-- The callers who count, one by one. -/
theorem exists_counting (p : Pool) :
    ∃ calls : List CallId, calls.Nodup ∧ (∀ call, call ∈ calls ↔ p.Counts call) ∧
      p.stats.waiting = calls.length := by
  refine ⟨(p.borrows.entries.filter (·.2.counts)).map (·.1), ?_, fun call => ?_, ?_⟩
  · exact p.borrows.distinct.sublist (List.filter_sublist.map _)
  · constructor
    · intro hmem
      obtain ⟨⟨c, b⟩, hentry, rfl⟩ := List.mem_map.mp hmem
      obtain ⟨hentry, hcounts⟩ := List.mem_filter.mp hentry
      exact ⟨b, Roster.mem_entries_iff.mp hentry, hcounts⟩
    · rintro ⟨b, hb, hcounts⟩
      exact List.mem_map.mpr
        ⟨(call, b), List.mem_filter.mpr ⟨Roster.mem_entries_iff.mpr hb, hcounts⟩, rfl⟩
  · show p.borrows.values.countP (·.counts) = _
    rw [List.length_map, Roster.values, List.countP_map, List.countP_eq_length_filter]
    rfl

/-! ## What refuses nobody for want of room -/

theorem exhausted_ask (p : Pool) {act : PoolAct} (h : act.exhausted? = none) :
    (p.ask act).exhausted = p.exhausted := by
  refine (asked_ask p act PoolAct.exhausted?).trans ?_
  rw [h]
  exact List.append_nil _

theorem exhausted_leave (p : Pool) (w : Waiter) : (p.leave w).exhausted = p.exhausted :=
  asked_wakeAll (fun _ => rfl) { p with available := (p.available.leave w).1 } _

theorem exhausted_freePlace (p : Pool) (isOpen : Bool) :
    (p.freePlace isOpen).exhausted = p.exhausted :=
  asked_freePlace (fun _ => rfl) p isOpen

theorem exhausted_discard (p : Pool) (s : Session) : (p.discard s).exhausted = p.exhausted := by
  have hasked : (p.ask (.hangUp s.line)).exhausted = p.exhausted := exhausted_ask p rfl
  unfold discard
  dsimp only
  split
  · exact hasked
  · split
    · exact (exhausted_freePlace _ true).trans hasked
    · exact (exhausted_ask _ rfl).trans hasked

theorem exhausted_destroy (p : Pool) (s : Session) : (p.destroy s).exhausted = p.exhausted := by
  unfold destroy
  dsimp only
  split
  · exact exhausted_discard p s
  · exact (exhausted_ask _ rfl).trans (exhausted_discard p s)

theorem exhausted_letGo (p : Pool) (stage : BorrowStage) :
    (p.letGo stage).exhausted = p.exhausted := by
  cases stage with
  | checking s => exact exhausted_discard p s
  | resting | dialling => exact exhausted_freePlace p false
  | parked => rfl

/-! ## What becomes of a caller -/

/-- What becomes of a caller who counted as waiting before or did not: it is done; or too many wait
in an open pool, and there was neither a session nor a place; or it waits and counts from now on; or
it goes on as before. -/
inductive Attends (p q : Pool) (call : CallId) (counted : Bool) : Prop where
  | done (hborrows : q.borrows = p.borrows.erase call) (hnobody : q.exhausted = p.exhausted)
  | refused (hopen : p.isClosed = false) (hfirst : counted = false)
    (hlimit : 0 < p.settings.maxWaiting)
    (hmany : p.settings.maxWaiting ≤ p.waiting) (hidle : q.idle = []) (hplace : q.hasPlace = false)
    (hborrows : q.borrows = p.borrows.erase call)
    (hrefused : q.exhausted = p.exhausted ++ [(call, p.waiting)])
  | waits {b : Borrow} (hstage : b.stage = .parked) (hcounts : b.counts = true)
    (hfew : counted = false → 0 < p.settings.maxWaiting → p.waiting < p.settings.maxWaiting)
    (hborrows : q.borrows = p.borrows.put call b) (hnobody : q.exhausted = p.exhausted)
  | goesOn {b : Borrow} (hstage : b.stage ≠ .parked) (hcounts : b.counts = counted)
    (hborrows : q.borrows = p.borrows.put call b) (hnobody : q.exhausted = p.exhausted)

/-- What neither concerns the callers nor refuses one may come first. -/
theorem Attends.after {counted : Bool} (h : Attends q r call counted)
    (hborrows : q.borrows = p.borrows) (hsettings : q.settings = p.settings)
    (hclosed : q.isClosed = p.isClosed) (hexhausted : q.exhausted = p.exhausted) :
    Attends p r call counted := by
  have hwaiting : q.waiting = p.waiting := by rw [waiting, waiting, hborrows]
  cases h with
  | done hb hn => exact .done (hborrows ▸ hb) (hn.trans hexhausted)
  | refused hopen hfirst hlimit hmany hidle hplace hb hrefused =>
    rw [hsettings] at hlimit hmany
    rw [hwaiting] at hmany hrefused
    exact .refused (hclosed.symm.trans hopen) hfirst hlimit hmany hidle hplace (hborrows ▸ hb)
      (hexhausted ▸ hrefused)
  | waits hstage hcounts hfew hb hn =>
    rw [hsettings, hwaiting] at hfew
    exact .waits hstage hcounts hfew (hborrows ▸ hb) (hn.trans hexhausted)
  | goesOn hstage hcounts hb hn =>
    exact .goesOn hstage hcounts (hborrows ▸ hb) (hn.trans hexhausted)

theorem attends_connectOrPark (hopen : p.isClosed = false) (hidle : p.idle = []) (call : CallId)
    (b : Borrow) (now : Instant) :
    Attends p (p.connectOrPark call b now) call b.counts := by
  unfold connectOrPark
  split
  · dsimp only
    split
    · rename_i wakeAt _
      exact .goesOn (b := { b with stage := .resting wakeAt }) (by simp) rfl rfl rfl
    · exact .goesOn (b := { b with stage := .dialling p.nextId _ }) (by simp) rfl rfl rfl
  · rename_i hplace
    have hnone : p.hasPlace = false := by simpa using hplace
    split
    · rename_i hmany
      simp only [Bool.and_eq_true, Bool.not_eq_true', decide_eq_true_eq] at hmany
      obtain ⟨⟨hfirst, hlimit⟩, hmany⟩ := hmany
      refine .refused hopen hfirst hlimit hmany hidle hnone rfl ?_
      refine (asked_ask (p.endBorrow call) _ PoolAct.exhausted?).trans ?_
      exact congrArg (· ++ _) (exhausted_leave p (.caller call))
    · rename_i hfew
      refine .waits rfl rfl (fun hfirst hlimit => ?_) rfl rfl
      simp only [hfirst, Bool.not_false, Bool.true_and, Bool.and_eq_true, decide_eq_true_eq,
        not_and,
        Nat.not_le] at hfew
      exact hfew hlimit

/-- A caller goes through the idle sessions, and only behind the last does it ask for a place. -/
theorem attends_seekAmong (hopen : p.isClosed = false) (call : CallId) (b : Borrow) (now : Instant)
    (idle : List Session) : Attends p (p.seekAmong call b now idle) call b.counts := by
  induction idle generalizing p with
  | nil =>
    rw [seekAmong]
    exact (attends_connectOrPark (p := { p with idle := [] }.enter (.caller call)) hopen rfl call b
      now).after (p := p) rfl rfl rfl rfl
  | cons s rest ih =>
    rw [seekAmong]
    split
    · rename_i s' _
      exact .goesOn (b := { b with stage := .checking s' }) (by simp) rfl rfl rfl
    · have hclosed := sameHolders_destroy ({ p with idle := rest }.enter (.caller call)) s
      have hsettings := (restocks_destroy ({ p with idle := rest }.enter (.caller call)) s).settings
      have hclosing := isClosed_of_closing (closing_of_frame
        (frame_replace ({ p with idle := rest }.enter (.caller call)) call s))
      refine (ih (hclosing.trans hopen)).after (p := p) hclosed.borrows hsettings hclosing ?_
      exact (exhausted_leave _ _).trans (exhausted_destroy _ s)

theorem attends_seek (p : Pool) (call : CallId) (b : Borrow) (now : Instant) :
    Attends p (p.seek call b now) call b.counts := by
  unfold seek
  split
  · refine .done rfl ?_
    exact (exhausted_ask _ rfl).trans (exhausted_leave p (.caller call))
  · rename_i hopen
    exact attends_seekAmong (Bool.not_eq_true _ ▸ hopen) call b now p.idle

/-! ## What an event does to its caller -/

/-- Did the caller count as waiting? -/
def counted (p : Pool) (call : CallId) : Bool := (p.borrows.get? call).any (·.counts)

theorem counted_of_get? (h : p.borrows.get? call = some b) : p.counted call = b.counts := by
  rw [counted, h]
  rfl

theorem counted_iff : p.counted call = true ↔ p.Counts call := by
  rw [counted, Option.any_eq_true]
  rfl

/-- A new caller did not count before it began to look. -/
theorem Attends.of_new (h : Attends (p.putBorrow call b) q call false)
    (hnew : p.borrows.get? call = none) (hcounts : b.counts = false) : Attends p q call false := by
  have hwaiting : (p.putBorrow call b).waiting = p.waiting := by
    have hput : (p.putBorrow call b).borrows.get? call = some b := by
      show (p.borrows.put call b).get? call = some b
      rw [Roster.get?_put, if_pos rfl]
    have herase : (p.putBorrow call b).borrows.erase call = p.borrows.erase call :=
      Roster.erase_put p.borrows call b
    rw [waiting_of_get? hput, waiting_of_none hnew, herase, hcounts]
    rfl
  cases h with
  | done hb hn => exact .done (hb.trans (Roster.erase_put _ _ _)) hn
  | refused hopen hfirst hlimit hmany hidle hplace hb hrefused =>
    rw [hwaiting] at hmany hrefused
    exact .refused hopen hfirst hlimit hmany hidle hplace (hb.trans (Roster.erase_put _ _ _))
      hrefused
  | waits hstage hcounts hfew hb hn =>
    rw [hwaiting] at hfew
    exact .waits hstage hcounts hfew (hb.trans (Roster.put_put _ _ _ _)) hn
  | goesOn hstage hcounts hb hn =>
    exact .goesOn hstage hcounts (hb.trans (Roster.put_put _ _ _ _)) hn

/-- What else is asked for makes no difference to the caller. -/
theorem Attends.of_told {counted : Bool} (h : Attends p q call counted) {act : PoolAct}
    (hact : act.exhausted? = none) : Attends p (q.ask act) call counted := by
  have hsame := exhausted_ask q hact
  cases h with
  | done hb hn => exact .done hb (hsame.trans hn)
  | refused hopen hfirst hlimit hmany hidle hplace hb hrefused =>
    exact .refused hopen hfirst hlimit hmany hidle hplace hb (hsame.trans hrefused)
  | waits hstage hcounts hfew hb hn => exact .waits hstage hcounts hfew hb (hsame.trans hn)
  | goesOn hstage hcounts hb hn => exact .goesOn hstage hcounts hb (hsame.trans hn)

theorem exhausted_endBorrow (p : Pool) (call : CallId) :
    (p.endBorrow call).exhausted = p.exhausted :=
  exhausted_leave p (.caller call)

/-- An event leaves its caller alone, or something becomes of it. -/
def Turns (p q : Pool) (call : CallId) : Prop :=
  q.borrows = p.borrows ∧ q.exhausted = p.exhausted ∨ Attends p q call (p.counted call)

theorem turns_acquire (hfresh : p.IsFresh call) (now : Instant) :
    Turns p (p.acquire call now) call := by
  unfold acquire
  split
  · exact .inl ⟨rfl, exhausted_ask p rfl⟩
  · have hseek := attends_seek
      (p.putBorrow call ⟨.parked, p.settings.acquireTimeout.after now, false⟩) call
      ⟨.parked, p.settings.acquireTimeout.after now, false⟩ now
    have hnot : p.counted call = false := by rw [counted, hfresh.1]; rfl
    refine .inr ?_
    rw [hnot]
    exact Attends.of_new hseek hfresh.1 rfl

theorem turns_hearCheck (p : Pool) (call : CallId) (now : Instant) (stimulus : Stimulus) :
    Turns p (p.hearCheck call now stimulus) call := by
  unfold hearCheck
  split
  · rename_i s deadline counts hb
    refine .inr ?_
    rw [counted_of_get? hb]
    dsimp only
    split
    · rename_i s' _
      exact .goesOn (b := ⟨.checking s', deadline, counts⟩) (by simp) rfl rfl rfl
    · rename_i s' _ _
      exact .done rfl ((exhausted_ask _ rfl).trans (exhausted_endBorrow p call))
    · rename_i s' _ _
      have hclosed := sameHolders_destroy p s'
      refine (attends_seek _ call ⟨.parked, deadline, counts⟩ now).after (p := p) hclosed.borrows
        (restocks_destroy p s').settings
        (isClosed_of_closing (closing_of_frame (frame_replace p call s'))) ?_
      exact (exhausted_leave _ _).trans (exhausted_destroy p s')
  · exact .inl ⟨rfl, rfl⟩

theorem turns_rested (p : Pool) (call : CallId) (now : Instant) :
    Turns p (p.rested call now) call := by
  unfold rested
  split
  · rename_i wakeAt deadline counts hb
    split
    · refine .inr ?_
      rw [counted_of_get? hb]
      exact .goesOn (b := ⟨.dialling p.nextId _, deadline, counts⟩) (by simp) rfl rfl rfl
    · exact .inl ⟨rfl, rfl⟩
  · exact .inl ⟨rfl, rfl⟩

theorem turns_dialled (p : Pool) (call : CallId) (now : Instant)
    (outcome : Except IoFault LineId) : Turns p (p.dialled call now outcome) call := by
  unfold dialled
  split
  · rename_i id until_ deadline counts hb
    refine .inr ?_
    rw [counted_of_get? hb]
    split
    · exact .done rfl ((exhausted_ask _ rfl).trans (exhausted_endBorrow p.noteOpened call))
    · have hfreed := sameHolders_freePlace (p.noteFailure now)
      have hframe : (((p.noteFailure now).freePlace false).leave (.caller call)).frame =
          p.frame := by
        rw [frame_leave, frame_freePlace]
        rfl
      refine (attends_seek _ call ⟨.parked, deadline, counts⟩ now).after (p := p) hfreed.borrows
        (restocks_freePlace (p.noteFailure now) false).settings
        (isClosed_of_closing (closing_of_frame hframe)) ?_
      exact (exhausted_leave _ _).trans (exhausted_freePlace (p.noteFailure now) false)
  · exact .inl ⟨rfl, rfl⟩

theorem turns_resume (p : Pool) (call : CallId) (now : Instant) :
    Turns p (p.resume call now) call := by
  unfold resume
  split
  · rename_i deadline counts hb
    split
    · refine .inr ?_
      rw [counted_of_get? hb]
      exact (attends_seek { p with available := p.available.hear (.caller call) } call
        ⟨.parked, deadline, counts⟩ now).after (p := p) rfl rfl rfl rfl
    · exact .inl ⟨rfl, rfl⟩
  · exact .inl ⟨rfl, rfl⟩

theorem turns_stageExpired (p : Pool) (call : CallId) (now : Instant) :
    Turns p (p.stageExpired call now) call := by
  unfold stageExpired
  split
  · exact turns_hearCheck p call now .expired
  · exact turns_rested p call now
  · split
    · exact turns_dialled p call now _
    · exact .inl ⟨rfl, rfl⟩
  · exact .inl ⟨rfl, rfl⟩

theorem turns_cancelBorrow (p : Pool) (call : CallId) : Turns p (p.cancelBorrow call) call := by
  unfold cancelBorrow
  split
  · rename_i b hb
    refine .inr (.done ?_ ?_)
    · exact congrArg (Roster.erase · call) (sameHolders_letGo p b.stage).borrows
    · exact (exhausted_endBorrow _ call).trans (exhausted_letGo p b.stage)
  · exact .inl ⟨rfl, rfl⟩

/-- That a caller is told that its time is up has nothing to do with room. -/
theorem turns_borrowExpired (p : Pool) (call : CallId) (now : Instant) :
    Turns p (p.borrowExpired call now) call := by
  unfold borrowExpired
  split
  · split
    · rcases turns_cancelBorrow p call with ⟨hborrows, hnobody⟩ | hgone
      · exact .inl ⟨hborrows, (exhausted_ask _ rfl).trans hnobody⟩
      · exact .inr (hgone.of_told rfl)
    · exact .inl ⟨rfl, rfl⟩
  · exact .inl ⟨rfl, rfl⟩

theorem turns_perform (p : Pool) (hcaller : event.caller? = some call) :
    Turns p (p.perform event) call := by
  cases event with
  | acquire c now =>
    obtain rfl : c = call := Option.some.inj hcaller
    rw [perform]
    split
    · rename_i hfresh
      exact turns_acquire hfresh now
    · exact .inl ⟨rfl, rfl⟩
  | hearCheck c now stimulus => exact Option.some.inj hcaller ▸ turns_hearCheck p c now stimulus
  | rested c now => exact Option.some.inj hcaller ▸ turns_rested p c now
  | dialled c now outcome => exact Option.some.inj hcaller ▸ turns_dialled p c now outcome
  | resume c now => exact Option.some.inj hcaller ▸ turns_resume p c now
  | stageExpired c now => exact Option.some.inj hcaller ▸ turns_stageExpired p c now
  | borrowExpired c now => exact Option.some.inj hcaller ▸ turns_borrowExpired p c now
  | cancelBorrow c => exact Option.some.inj hcaller ▸ turns_cancelBorrow p c
  | _ => contradiction

/-! ## Every event -/

theorem Turns.get?_of_ne (h : Turns p q call) {c : CallId} (hne : c ≠ call) :
    q.borrows.get? c = p.borrows.get? c := by
  rcases h with ⟨hborrows, -⟩ | hattends
  · rw [hborrows]
  · cases hattends with
    | done hb | refused _ _ _ _ _ _ hb => rw [hb, Roster.get?_erase, if_neg hne]
    | waits _ _ _ hb | goesOn _ _ hb => rw [hb, Roster.get?_put, if_neg hne]

theorem borrows_of_callerless (h : p.Apart) (hnone : event.caller? = none) :
    (p.perform event).borrows = p.borrows := by
  have htouches := touches_perform h event
  rw [hnone] at htouches
  cases htouches with
  | loan hloan => exact hloan.borrows
  | nobody hsame => exact hsame.borrows

/-- After an event a caller counts if it is parked, or if it counted before. -/
theorem counts_perform (h : p.Apart) (hparked : ∀ call, p.IsParked call → p.Counts call)
    (hb : (p.perform event).borrows.get? call = some b) :
    b.counts = true ↔ b.stage = .parked ∨ p.Counts call := by
  have hsame : p.borrows.get? call = some b →
      (b.counts = true ↔ b.stage = .parked ∨ p.Counts call) := by
    intro hbefore
    have hcounts : p.Counts call ↔ b.counts = true := by
      rw [← counted_iff, counted_of_get? hbefore]
    constructor
    · exact fun hc => .inr (hcounts.mpr hc)
    · rintro (hstage | hc)
      · exact hcounts.mp (hparked call ⟨b, hbefore, hstage⟩)
      · exact hcounts.mp hc
  cases hcaller : event.caller? with
  | none =>
    rw [borrows_of_callerless h hcaller] at hb
    exact hsame hb
  | some c =>
    have hturns := turns_perform p hcaller
    by_cases hc : call = c
    · subst hc
      rcases hturns with ⟨hborrows, -⟩ | hattends
      · exact hsame (hborrows ▸ hb)
      · cases hattends with
        | done hborrows | refused _ _ _ _ _ _ hborrows =>
          rw [hborrows, Roster.get?_erase, if_pos rfl] at hb
          contradiction
        | waits hstage hcounts _ hborrows =>
          rw [hborrows, Roster.get?_put, if_pos rfl] at hb
          obtain rfl := Option.some.inj hb
          exact ⟨fun _ => .inl hstage, fun _ => hcounts⟩
        | goesOn hstage hcounts hborrows =>
          rw [hborrows, Roster.get?_put, if_pos rfl] at hb
          obtain rfl := Option.some.inj hb
          rw [hcounts, counted_iff]
          exact ⟨.inr, fun h => h.resolve_left hstage⟩
    · rw [hturns.get?_of_ne hc] at hb
      exact hsame hb

theorem waiting_eq (p : Pool) (call : CallId) : p.waiting =
    (p.borrows.erase call).values.countP (·.counts) + (p.counted call).toNat := by
  cases hb : p.borrows.get? call with
  | none =>
    rw [waiting_of_none hb, counted, hb]
    rfl
  | some b => rw [waiting_of_get? hb, counted_of_get? hb]

/-- The limit on those who wait is kept. -/
theorem waiting_perform (h : p.Apart) (event : PoolEvent) (hlimit : 0 < p.settings.maxWaiting)
    (hle : p.waiting ≤ p.settings.maxWaiting) :
    (p.perform event).waiting ≤ p.settings.maxWaiting := by
  have hsame : (p.perform event).borrows = p.borrows →
      (p.perform event).waiting ≤ p.settings.maxWaiting := by
    intro hborrows
    rwa [waiting, hborrows]
  cases hcaller : event.caller? with
  | none => exact hsame (borrows_of_callerless h hcaller)
  | some call =>
    have hbefore := waiting_eq p call
    rcases turns_perform p hcaller with ⟨hborrows, -⟩ | hattends
    · exact hsame hborrows
    · cases hattends with
      | done hborrows | refused _ _ _ _ _ _ hborrows =>
        rw [waiting, hborrows]
        omega
      | @waits b _ hcounts hfew hborrows =>
        have hb : (p.perform event).borrows.get? call = some b := by
          rw [hborrows, Roster.get?_put, if_pos rfl]
        rw [waiting_of_get? hb, hborrows, Roster.erase_put, hcounts]
        cases hcounted : p.counted call with
        | true =>
          rw [hcounted] at hbefore
          exact hbefore ▸ hle
        | false =>
          rw [hcounted, Bool.toNat_false] at hbefore
          have hroom := hfew hcounted hlimit
          rw [Bool.toNat_true]
          omega
      | @goesOn b _ hcounts hborrows =>
        have hb : (p.perform event).borrows.get? call = some b := by
          rw [hborrows, Roster.get?_put, if_pos rfl]
        rw [waiting_of_get? hb, hborrows, Roster.erase_put, hcounts]
        exact hbefore ▸ hle

/-! ## Any number of events -/

theorem hasWaited_nil : p.HasWaited [] call ↔ p.IsParked call := by
  constructor
  · rintro ⟨before, after, hsplit, hparked, -⟩
    obtain ⟨rfl, rfl⟩ := List.append_eq_nil_iff.mp hsplit.symm
    exact hparked
  · intro hparked
    refine ⟨[], [], rfl, hparked, fun mid hmid => ?_⟩
    obtain rfl := List.prefix_nil.mp hmid
    obtain ⟨b, hb, -⟩ := hparked
    rw [show p.run ([] ++ []) = p from rfl, hb]
    exact Option.some_ne_none b

/-- A call that has waited is parked now, or is pending still and had waited before. -/
theorem hasWaited_concat {events : List PoolEvent} :
    p.HasWaited (events ++ [event]) call ↔
      (p.run (events ++ [event])).IsParked call ∨
        p.HasWaited events call ∧ (p.run (events ++ [event])).borrows.get? call ≠ none := by
  constructor
  · rintro ⟨before, after, hsplit, hparked, hpending⟩
    rcases List.eq_nil_or_concat after with rfl | ⟨rest, last, rfl⟩
    · rw [List.append_nil] at hsplit
      exact .inl (hsplit ▸ hparked)
    · rw [List.concat_eq_append, ← List.append_assoc] at hsplit
      obtain ⟨rfl, hlast⟩ := List.append_inj' hsplit rfl
      obtain rfl := List.singleton_inj.mp hlast
      rw [List.concat_eq_append] at hpending
      refine .inr ⟨⟨before, rest, rfl, hparked, fun mid hmid => ?_⟩, ?_⟩
      · exact hpending mid (hmid.trans (List.prefix_append rest [event]))
      · rw [List.append_assoc]
        exact hpending (rest ++ [event]) (List.prefix_refl _)
  · rintro (hparked | ⟨⟨before, after, rfl, hparked, hpending⟩, hnow⟩)
    · refine ⟨events ++ [event], [], (List.append_nil _).symm, hparked, fun mid hmid => ?_⟩
      obtain rfl := List.prefix_nil.mp hmid
      obtain ⟨b, hb, -⟩ := hparked
      rw [List.append_nil, hb]
      exact Option.some_ne_none b
    · refine ⟨before, after ++ [event], List.append_assoc before after [event], hparked,
        fun mid hmid => ?_⟩
      rcases List.prefix_concat_iff.mp hmid with rfl | hmid
      · rwa [← List.append_assoc]
      · exact hpending mid hmid

/-- Who counts as waiting is pending and has waited, and nobody is parked who does not count. -/
structure Tallied (p : Pool) (events : List PoolEvent) : Prop where
  apart : (p.run events).Apart
  parked : ∀ call, (p.run events).IsParked call → (p.run events).Counts call
  waited : ∀ call, (p.run events).Counts call ↔ p.HasWaited events call

theorem Tallied.concat {events : List PoolEvent} (h : p.Tallied events) (event : PoolEvent) :
    p.Tallied (events ++ [event]) := by
  have hcounts : ∀ {call b}, (p.run (events ++ [event])).borrows.get? call = some b →
      (b.counts = true ↔ b.stage = .parked ∨ (p.run events).Counts call) := by
    intro call b hb
    rw [run_concat] at hb
    exact counts_perform h.apart h.parked hb
  refine ⟨?_, ?_, fun call => ?_⟩
  · rw [run_concat]
    exact h.apart.perform event
  · rintro call ⟨b, hb, hstage⟩
    exact ⟨b, hb, (hcounts hb).mpr (.inl hstage)⟩
  · rw [hasWaited_concat, ← h.waited call]
    constructor
    · rintro ⟨b, hb, hcounting⟩
      rcases (hcounts hb).mp hcounting with hstage | hbefore
      · exact .inl ⟨b, hb, hstage⟩
      · exact .inr ⟨hbefore, by rw [hb]; exact Option.some_ne_none b⟩
    · rintro (⟨b, hb, hstage⟩ | ⟨hbefore, hpending⟩)
      · exact ⟨b, hb, (hcounts hb).mpr (.inl hstage)⟩
      · obtain ⟨b, hb⟩ := Option.ne_none_iff_exists'.mp hpending
        exact ⟨b, hb, (hcounts hb).mpr (.inr hbefore)⟩

theorem tallied_run (hapart : p.Apart) (hnobody : ∀ call, p.borrows.get? call = none)
    (events : List PoolEvent) : p.Tallied events := by
  have hnone : ∀ call, ¬ p.IsParked call ∧ ¬ p.Counts call := by
    intro call
    refine ⟨?_, ?_⟩ <;>
    · rintro ⟨b, hb, -⟩
      rw [hnobody call] at hb
      contradiction
  induction events using List.reverseRecOn with
  | nil =>
    refine ⟨hapart, fun call hparked => absurd hparked (hnone call).1, fun call => ?_⟩
    rw [hasWaited_nil]
    exact iff_of_false (hnone call).2 (hnone call).1
  | append_singleton rest event ih => exact ih.concat event

theorem waiting_run (hapart : p.Apart) (hlimit : 0 < p.settings.maxWaiting)
    (hle : p.waiting ≤ p.settings.maxWaiting) (events : List PoolEvent) :
    (p.run events).waiting ≤ p.settings.maxWaiting := by
  induction events generalizing p with
  | nil => exact hle
  | cons event rest ih =>
    have hsettings := (restocks_perform p event).settings
    have hnext := waiting_perform hapart event hlimit hle
    rw [← hsettings] at hlimit hnext ⊢
    exact ih (hapart.perform event) hlimit hnext

/-- Whom an event refuses because too many wait, when nothing was left to tell before. -/
theorem exhausted_perform (hdone : p.acts = []) {n : Nat}
    (h : .refused call (.poolExhausted n) ∈ (p.perform event).acts) :
    event.caller? = some call ∧ p.isClosed = false ∧ p.counted call = false ∧ n = p.waiting ∧
      0 < p.settings.maxWaiting ∧ p.settings.maxWaiting ≤ n ∧
      (p.perform event).idle = [] ∧ (p.perform event).hasPlace = false := by
  have hnobody : p.exhausted = [] := by rw [exhausted, asked, hdone]; rfl
  have hcaller : event.caller? = some call := by
    have hrefused : call ∈ (p.perform event).refused := List.mem_filterMap.mpr ⟨_, h, rfl⟩
    refine (refused_perform call hrefused).resolve_left fun hold => ?_
    rw [refused, hdone] at hold
    contradiction
  have hmem : (call, n) ∈ (p.perform event).exhausted := List.mem_filterMap.mpr ⟨_, h, rfl⟩
  rcases turns_perform p hcaller with ⟨-, hsame⟩ | hattends
  · rw [hsame, hnobody] at hmem
    contradiction
  · cases hattends with
    | done _ hsame | waits _ _ _ _ hsame | goesOn _ _ _ hsame =>
      rw [hsame, hnobody] at hmem
      contradiction
    | refused hopen hfirst hlimit hmany hidle hplace _ hrefused =>
      rw [hrefused, hnobody, List.nil_append, List.mem_singleton] at hmem
      obtain rfl := (Prod.mk.inj hmem).2
      exact ⟨hcaller, hopen, hfirst, rfl, hlimit, hmany, hidle, hplace⟩

theorem isDrains_of_caller (h : event.caller? = some call) : event.isDrains = false := by
  cases event with
  | startDrain | resumeDrain | drainExpired | cancelDrain => contradiction
  | _ => rfl

/-- The limit on those who wait is exact. After any events those who count as waiting are the
pending calls that waited at some point, and they are never more than the limit allows. What an
event refuses because too many wait is the call that it is about: one that has not waited before, in
a pool without an idle session or a free place, and as many wait as it is told. -/
theorem run_limits_waiting (id : PoolId) (studio : Studio) (settings : PoolSettings)
    (now : Instant) (events : List PoolEvent) :
    let new := forStudio id studio settings now
    let p := new.run events
    (∃ calls : List CallId, calls.Nodup ∧ (∀ call, call ∈ calls ↔ new.HasWaited events call) ∧
      p.stats.waiting = calls.length) ∧
    (0 < settings.maxWaiting → p.stats.waiting ≤ settings.maxWaiting) ∧
    (∀ (event : PoolEvent) (call : CallId) (n : Nat),
      .refused call (.poolExhausted n) ∈ ((p.perform .settled).perform event).acts →
      event.caller? = some call ∧ ¬ new.HasWaited events call ∧
        n = p.stats.waiting ∧ 0 < settings.maxWaiting ∧ settings.maxWaiting ≤ n ∧
        ((p.perform .settled).perform event).idle = [] ∧
        ((p.perform .settled).perform event).places = 0) := by
  intro new p
  have hnew : new.InOrder := inOrder_forStudio id studio settings now
  have htallied : new.Tallied events := tallied_run hnew.apart (fun _ => rfl) events
  have hsettings : p.settings = settings := (restocks_run new events).settings
  refine ⟨?_, fun hlimit => waiting_run hnew.apart hlimit (Nat.zero_le _) events,
    fun event call n hrefused => ?_⟩
  · obtain ⟨calls, hnodup, hcalls, hcount⟩ := exists_counting p
    exact ⟨calls, hnodup, fun call => (hcalls call).trans (htallied.waited call), hcount⟩
  · obtain ⟨hcaller, hopen, hfirst, hcount, hlimit, hmany, hidle, hplace⟩ :=
      exhausted_perform rfl hrefused
    have hclosing : p.closing = ⟨false, false, none⟩ :=
      (isClosed_or_open_run (.inr rfl) events).resolve_left (by
        rw [show p.isClosed = false from hopen]
        exact Bool.false_ne_true)
    have hunfinished : ((p.perform .settled).perform event).isFinished = false :=
      congrArg Closing.isFinished
        ((closing_perform (p := p.perform .settled) (isDrains_of_caller hcaller)).trans hclosing)
    rw [hasPlace, hunfinished, Bool.not_false, Bool.and_true, decide_eq_false_iff_not] at hplace
    replace hlimit : 0 < p.settings.maxWaiting := hlimit
    replace hmany : p.settings.maxWaiting ≤ n := hmany
    rw [hsettings] at hlimit hmany
    refine ⟨hcaller, fun hwaited => ?_, hcount, hlimit, hmany, hidle, Nat.eq_zero_of_not_pos hplace⟩
    have hcounts : p.counted call = true := counted_iff.mpr ((htallied.waited call).mpr hwaited)
    rw [show p.counted call = false from hfirst] at hcounts
    contradiction

/-- The only session is lent, and a second caller waits for it. -/
def oneMayWait : List PoolEvent := [.acquire 1 0, .dialled 1 0 (.ok 7), .acquire 2 0]

/-- Where one may wait the third caller is refused, and it never waited. -/
theorem oneMayWait_limits :
    let new := forStudio 0 ⟨"s", "h", 1, 0, 1, none, false⟩ { maxWaiting := 1 } 0
    let p := new.run oneMayWait
    p.stats.waiting = 1 ∧
      .refused 3 (.poolExhausted 1) ∈ ((p.perform .settled).perform (.acquire 3 0)).acts ∧
      ¬ new.HasWaited oneMayWait 3 := by
  intro new p
  have hrefused :
      .refused 3 (.poolExhausted 1) ∈ ((p.perform .settled).perform (.acquire 3 0)).acts := by
    decide
  have h := run_limits_waiting 0 ⟨"s", "h", 1, 0, 1, none, false⟩ { maxWaiting := 1 } 0 oneMayWait
  exact ⟨by decide, hrefused, (h.2.2 (.acquire 3 0) 3 1 hrefused).2.1⟩

end Pool

end BroadcastLink
