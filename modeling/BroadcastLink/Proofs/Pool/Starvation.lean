import BroadcastLink.Proofs.Pool.Wakeups

/-!
# Waiting beside an idle session

What was told to a caller is not told to another before that caller has looked or is gone. A caller
that checks a session, pauses or connects does not look, so what it was told lies idle meanwhile.
That is the only way for a caller to time out beside an idle session: it is busy itself, or each
idle session was told to somebody who is.
-/

namespace BroadcastLink.Pool

variable {p : Pool} {call : CallId}

/-- No caller that waits for the signal has anything to do before time passes. -/
def ParkedWait (p : Pool) : Prop :=
  ∀ e ∈ p.borrows.entries, e.2.stage = .parked → p.borrowWant e.1 = .patience

instance (p : Pool) : Decidable p.ParkedWait :=
  inferInstanceAs (Decidable (∀ e ∈ p.borrows.entries, _ → _))

/-- Was the caller told as the one, and is it busy with something else? -/
def isToldBusy (p : Pool) (e : CallId × Borrow) : Bool :=
  decide (e.2.stage ≠ .parked) && p.available.standing? (.caller e.1) == some .told

/-- How many callers were told and are busy with something else. -/
def toldBusy (p : Pool) : Nat := (p.borrows.entries.filter p.isToldBusy).length

/-- The call is answered that no session could be had in time. -/
def TimesOut (p : Pool) (call : CallId) (now : Instant) : Prop :=
  ∃ acts, (p.borrowExpired call now).acts =
    p.acts ++ acts ++ [.refused call (.acquireTimeout p.settings.acquireTimeout)]

/-- Only a caller times out. -/
theorem TimesOut.pending {now : Instant} (h : p.TimesOut call now) :
    ∃ b, p.borrows.get? call = some b := by
  obtain ⟨acts, hacts⟩ := h
  rw [borrowExpired] at hacts
  split at hacts
  · exact ⟨_, ‹_›⟩
  · have hlength := congrArg List.length hacts
    simp only [List.length_append, List.length_singleton] at hlength
    omega

/-- A parked caller who has nothing to do may not go on. -/
theorem ParkedWait.not_mayGo (h : p.ParkedWait) {b : Borrow} (hb : p.borrows.get? call = some b)
    (hparked : b.stage = .parked) : p.available.mayGo (.caller call) = false := by
  have hpatient := h _ (Roster.mem_entries_iff.mpr hb) hparked
  obtain ⟨stage, deadline, counts⟩ := b
  obtain rfl : stage = .parked := hparked
  cases hgo : p.available.mayGo (.caller call) with
  | false => rfl
  | true =>
    rw [borrowWant, hb] at hpatient
    simp [hgo] at hpatient

/-- When nothing can go on, a parked caller waits in line. -/
theorem Watched.waits_of_parkedWait (h : Watched p none 0) (hwait : p.ParkedWait)
    (hparked : p.IsParked call) : p.available.Waits (.caller call) := by
  obtain ⟨b, hb, hstage⟩ := hparked
  have hin : .caller call ∈ p.available.names := h.present call (by simp) (by rw [hb]; simp)
  obtain ⟨⟨w, standing⟩, hline, rfl⟩ := List.mem_map.mp hin
  have hstill := hwait.not_mayGo hb hstage
  rw [Signal.mayGo, Signal.standing_of_mem h.distinct hline] at hstill
  cases standing with
  | waiting => exact hline
  | told | freed => contradiction

/-- When nothing can go on, everybody who was told is busy. -/
theorem Watched.told_le_toldBusy (h : Watched p none 0) (hwait : p.ParkedWait) :
    p.available.told ≤ p.toldBusy := by
  -- Who was told stands in line once, and each of them is a caller that is not parked.
  have hdistinct : ((p.available.line.filter Signal.wasTold).map (·.1)).Nodup :=
    h.distinct.sublist (List.filter_sublist.map _)
  have hsub : (p.available.line.filter Signal.wasTold).map (·.1) ⊆
      (p.borrows.entries.filter p.isToldBusy).map fun e => .caller e.1 := by
    intro w hw
    obtain ⟨⟨_, standing⟩, hmem, rfl⟩ := List.mem_map.mp hw
    obtain ⟨hline, htold⟩ := List.mem_filter.mp hmem
    obtain rfl : standing = .told := beq_iff_eq.mp htold
    obtain ⟨call, hcall, haway | hborrow⟩ := h.callers _ (List.mem_map.mpr ⟨_, hline, rfl⟩)
    · contradiction
    · obtain ⟨b, hb⟩ := Option.ne_none_iff_exists'.mp hborrow
      obtain rfl := hcall
      have hstanding := Signal.standing_of_mem h.distinct hline
      have hbusy : b.stage ≠ .parked := fun hparked => by
        have hstill := hwait.not_mayGo hb hparked
        rw [Signal.mayGo, hstanding] at hstill
        contradiction
      refine List.mem_map.mpr ⟨(call, b), List.mem_filter.mpr ⟨?_, ?_⟩, rfl⟩
      · exact Roster.mem_entries_iff.mpr hb
      · rw [isToldBusy, hstanding]
        simpa using hbusy
  have hlength := (List.subperm_of_subset hdistinct hsub).length_le
  rw [List.length_map, List.length_map, ← List.countP_eq_length_filter] at hlength
  exact hlength

/-- When nothing can go on and somebody is parked, all that is ready was told to busy callers. -/
theorem Watched.ready_le_toldBusy (h : Watched p none 0) (hwait : p.ParkedWait)
    (hparked : p.IsParked call) : p.ready ≤ p.toldBusy := by
  have hready := h.told call (by simp) hparked (h.waits_of_parkedWait hwait hparked)
  have htold := h.told_le_toldBusy hwait
  omega

/-- Who times out beside an idle session is busy itself, or the session was told to somebody who is.
Whatever happened to a pool that is still open, when nothing can go on before time passes and a call
then times out, it is checking a session, pausing or connecting; or there is, for every idle session
and every free place, a caller that was told of it and is at one of these. -/
theorem run_starves_only_beside_busy (id : PoolId) (studio : Studio) (settings : PoolSettings)
    (now : Instant) (events : List PoolEvent) :
    let p := (forStudio id studio settings now).run events
    p.isClosed = false → p.ParkedWait → ∀ call instant, p.TimesOut call instant →
      (∃ b, p.borrows.get? call = some b ∧ b.stage ≠ .parked) ∨
        p.idle.length + p.places ≤ p.toldBusy := by
  intro p hopen hwait call instant htimeout
  have hattended : p.Attended := (attended_forStudio id studio settings now).run hopen
  obtain ⟨b, hb⟩ := htimeout.pending
  by_cases hparked : b.stage = .parked
  · exact .inr (hattended.watched.ready_le_toldBusy hwait ⟨b, hb, hparked⟩)
  · exact .inl ⟨b, hb, hparked⟩

/-- Two sessions are lent and a caller parks. When the first session is given back it is told to
this caller, but another one comes first and takes it to check it; the caller parks anew. The second
session given back is told to the one that is still checking. -/
def overtaken : List PoolEvent :=
  [.acquire 1 0, .dialled 1 0 (.ok 7), .acquire 2 0, .dialled 2 0 (.ok 8), .acquire 3 0,
    .release 1, .acquire 4 50, .resume 3 50, .release 2]

/-- The parked caller times out, and the idle session was told to the one that is checking. -/
theorem overtaken_starves_beside_busy :
    let p := (forStudio 0 ⟨"s", "h", 1, 0, 2, none, false⟩
      { acquireTimeout := ⟨100⟩ } 0).run overtaken
    p.TimesOut 3 100 ∧ p.idle.length + p.places = 1 ∧ p.idle.length + p.places ≤ p.toldBusy := by
  intro p
  have htimeout : p.TimesOut 3 100 := ⟨[], by decide⟩
  have hstarves := run_starves_only_beside_busy 0 ⟨"s", "h", 1, 0, 2, none, false⟩
    { acquireTimeout := ⟨100⟩ } 0 overtaken (by decide) (by decide) 3 100 htimeout
  refine ⟨htimeout, by decide, hstarves.resolve_left ?_⟩
  rintro ⟨b, hb, hstage⟩
  obtain rfl : (⟨.parked, 100, true⟩ : Borrow) = b := Option.some.inj hb
  exact hstage rfl

/-- One session is lent. Another caller fails to connect and has to pause longer than it may wait;
then the session is given back. -/
def pausing : List PoolEvent :=
  [.tend 0, .acquire 1 0, .dialled 1 0 (.ok 7), .acquire 2 10,
    .dialled 2 10 (.error (.bare .timedOut)), .release 1]

/-- From the moment 10 on a session is idle and nothing can go on before time passes; and the
caller, which is not checking a session but pausing until the moment 60, times out at the moment 30.
-/
theorem pausing_starves_beside_idle :
    let p := (forStudio 0 ⟨"s", "h", 1, 0, 2, none, false⟩
      { acquireTimeout := ⟨20⟩, createRetryDelay := ⟨50⟩ } 0).run pausing
    p.isClosed = false ∧ p.ParkedWait ∧ p.idle.length = 1 ∧
      p.borrows.get? 2 = some ⟨.resting 60, 30, false⟩ ∧ p.TimesOut 2 30 :=
  ⟨by decide, by decide, by decide, by decide, [], by decide⟩

end BroadcastLink.Pool
