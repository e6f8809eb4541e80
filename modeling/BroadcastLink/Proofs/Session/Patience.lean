import BroadcastLink.Proofs.Session.Harm

/-!
# How long a call can be pending

A session under a clock. Time passes, but not beyond the alarm of the exchange in flight, for then
the alarm rings first. Every response has a deadline of its own, so once the lines of a call are
out, the call is pending for no longer than all its responses may take together. Until then nothing
bounds it: an exchange that writes has no alarm.
-/

namespace BroadcastLink

/-- A call that waits for responses: since when, how many, how long for each, and when its lines
were all out. -/
structure PendingCall where
  begunAt : Instant
  responses : Nat
  timeout : Duration
  outAt : Option Instant := none
  deriving DecidableEq, Repr

namespace PendingCall

/-- Its lines are out now. -/
def goesOut (call : PendingCall) (now : Instant) : PendingCall := { call with outAt := some now }

/-- It is pending until there is an outcome. -/
def untilOver (call : PendingCall) (outcome : Option (Except Fault String)) : Option PendingCall :=
  match outcome with
  | some _ => none
  | none => some call

/-- The longest that so many of its responses can take. -/
def allowance (call : PendingCall) (responses : Nat) : Nat := responses * call.timeout.nanos

end PendingCall

/-- What happens where a session is used: time passes, or something happens to the session. -/
inductive Occurrence where
  | passes (later : Instant)
  | happens (event : SessionEvent)
  deriving DecidableEq, Repr

/-- A session, the clock, and the call that is pending on the session. -/
structure ClockedSession where
  session : Session
  now : Instant
  call : Option PendingCall := none

namespace ClockedSession

/-- A session on a new connection. -/
def opened (id : Nat) (line : LineId) (patience : Duration) (now : Instant) : ClockedSession :=
  { session := .opened id line patience now, now := now }

/-- Time does not pass an alarm, and a connection does what it does now. -/
def Admits (w : ClockedSession) : Occurrence → Bool
  | .passes later => w.now ≤ later && w.session.alarm?.all (later ≤ ·.due)
  | .happens (.hear now _) => now == w.now
  | .happens _ => true

/-- Does this push out the last of what the session writes? -/
def pushesOut (w : ClockedSession) (stimulus : Stimulus) : Bool :=
  match w.session.exchange.map Exchange.stage, stimulus with
  | some .flushing, .flushed => true
  | _, _ => false

/-- The call that is pending once something happened: a call that began an exchange, until it has
its outcome or is given up. -/
def callAfter (w : ClockedSession) : SessionEvent → Option PendingCall
  | .send commands =>
    match w.session.send commands with
    | .over _ => w.call
    | .inFlight _ => some ⟨w.now, commands.length, w.session.patience, none⟩
  | .check timeout =>
    match w.session.check timeout with
    | .over _ => w.call
    | .inFlight _ => some ⟨w.now, 1, timeout, none⟩
  | .invalidate | .close => w.call
  | .cancel => none
  | .hear now stimulus =>
    w.call.bind fun call => (if w.pushesOut stimulus then call.goesOut now else call).untilOver
      (w.session.react now stimulus).2

/-- One occurrence. What cannot happen does not. -/
def step (w : ClockedSession) (occurrence : Occurrence) : ClockedSession :=
  if w.Admits occurrence then
    match occurrence with
    | .passes later => { w with now := later }
    | .happens event => { w with session := w.session.undergo event, call := w.callAfter event }
  else w

/-- Any number of occurrences. -/
def run (w : ClockedSession) (occurrences : List Occurrence) : ClockedSession :=
  occurrences.foldl step w

/-! ## Where a pending call stands -/

/-- A pending call and its exchange: it still writes, or it reads and the deadline of the response
it reads leaves room for those behind. -/
inductive Stands (now : Instant) : Option PendingCall → Option Exchange → Prop
  | atRest : Stands now none none
  | writing {call : PendingCall} {x : Exchange} (hresponses : x.responses = call.responses)
      (htimeout : x.timeout = call.timeout)
      (hbegun : call.begunAt ≤ now) (hout : call.outAt = none)
      (hstage : ∀ left deadline, x.stage ≠ .reading left deadline) : Stands now (some call) (some x)
  | reading {call : PendingCall} {x : Exchange} {out deadline : Instant} {left : Nat}
      (hresponses : x.responses = call.responses) (htimeout : x.timeout = call.timeout)
      (hout : call.outAt = some out) (hbegun : call.begunAt ≤ out) (hnow : now ≤ deadline)
      (hroom : deadline + call.allowance left ≤ out + call.allowance (call.responses + 1))
      (hleft : 0 < left) (hstage : x.stage = .reading left deadline) :
      Stands now (some call) (some x)

variable {w : ClockedSession} {s : Session} {now : Instant} {call : PendingCall} {x : Exchange}

/-- One response less leaves room for one timeout more. -/
theorem allowance_succ (call : PendingCall) (n : Nat) :
    call.allowance (n + 1) = call.allowance n + call.timeout.nanos := by
  rw [PendingCall.allowance, PendingCall.allowance, Nat.succ_mul]

/-- A move of an exchange leaves its call, if the call is not over, where it should stand. -/
def LeavesStanding (now : Instant) (call : PendingCall)
    (r : Session × Option (Except Fault String)) : Prop :=
  Stands now (call.untilOver r.2) r.1.exchange

theorem leavesStanding_fail (now : Instant) (call : PendingCall) (s : Session) (purpose : Purpose)
    (fault : Fault) : LeavesStanding now call (s.fail purpose fault) :=
  .atRest

/-- Taking responses ends the call, or leaves room for those that are still to come: the deadline of
the next one is counted from now, and now is not behind the deadline before. -/
theorem leavesStanding_settle {out : Instant} (hresponses : x.responses = call.responses)
    (htimeout : x.timeout = call.timeout) (hout : call.outAt = some out)
    (hbegun : call.begunAt ≤ out) (s : Session) {left : Nat} {deadline : Instant}
    (hnow : now ≤ deadline)
    (hroom : deadline + call.allowance left ≤ out + call.allowance (call.responses + 1)) :
    LeavesStanding now call (s.settle x now left deadline) := by
  induction left generalizing s deadline with
  | zero => exact .atRest
  | succ left ih =>
    rw [Session.settle]
    split
    · exact .reading hresponses htimeout hout hbegun hnow hroom left.succ_pos rfl
    · dsimp only
      split
      · exact .atRest
      · refine ih _ (Nat.le_add_right _ _) ?_
        rw [allowance_succ] at hroom
        rw [Duration.after, htimeout]
        calc
          now + call.timeout.nanos + call.allowance left
          _ = now + (call.allowance left + call.timeout.nanos) := by
            rw [Nat.add_assoc, Nat.add_comm call.timeout.nanos]
          _ ≤ deadline + (call.allowance left + call.timeout.nanos) := Nat.add_le_add_right hnow _
          _ ≤ out + call.allowance (call.responses + 1) := hroom

/-- An exchange that still writes goes on writing, fails, or begins to read with all its responses
to come. -/
theorem leavesStanding_of_writing (hx : s.exchange = some x) (h : Stands now (some call) (some x))
    (hout : call.outAt = none) (stimulus : Stimulus) :
    LeavesStanding now
      (if (ClockedSession.mk s now (some call)).pushesOut stimulus then call.goesOut now else call)
      (s.react now stimulus) := by
  have hsame : LeavesStanding now call (s, none) := by rwa [LeavesStanding, hx]
  cases h with
  | reading _ _ hsome => exact absurd (hout.symm.trans hsome) (by simp)
  | writing hresponses htimeout hbegun _ hstage =>
    unfold pushesOut Session.react
    rw [hx]
    obtain ⟨purpose, responses, timeout, stage⟩ := x
    obtain rfl : responses = call.responses := hresponses
    obtain rfl : timeout = call.timeout := htimeout
    cases stage with
    | reading left deadline => exact absurd rfl (hstage left deadline)
    | writing rest =>
      cases stimulus with
      | accepted n =>
        show LeavesStanding now call (if n = 0 then _ else _)
        split
        · exact leavesStanding_fail now call s purpose _
        · refine .writing rfl rfl hbegun hout fun left deadline heq => ?_
          dsimp only at heq
          split at heq <;> contradiction
      | writeFailed fault => exact leavesStanding_fail now call s purpose _
      | _ => exact hsame
    | flushing =>
      cases stimulus with
      | flushed =>
        have hout : (call.goesOut now).outAt = some now := rfl
        have hroom : call.timeout.after now + call.allowance call.responses =
            now + call.allowance (call.responses + 1) := by
          rw [allowance_succ, Duration.after, Nat.add_assoc, Nat.add_comm call.timeout.nanos]
        exact leavesStanding_settle rfl rfl hout hbegun s (Nat.le_add_right _ _)
          (Nat.le_of_eq hroom)
      | flushFailed fault => exact leavesStanding_fail now call s purpose _
      | _ => exact hsame

/-- An exchange that reads goes on reading or is over. -/
theorem leavesStanding_of_reading {out : Instant} (hx : s.exchange = some x)
    (h : Stands now (some call) (some x)) (hout : call.outAt = some out) (stimulus : Stimulus) :
    LeavesStanding now
      (if (ClockedSession.mk s now (some call)).pushesOut stimulus then call.goesOut now else call)
      (s.react now stimulus) := by
  have hsame : LeavesStanding now call (s, none) := by rwa [LeavesStanding, hx]
  cases h with
  | writing _ _ _ hnone => exact absurd (hnone.symm.trans hout) (by simp)
  | @reading _ _ out deadline left hresponses htimeout hout hbegun hnow hroom hleft hstage =>
    unfold pushesOut Session.react
    rw [hx]
    obtain ⟨purpose, responses, timeout, stage⟩ := x
    obtain rfl : stage = .reading left deadline := hstage
    cases stimulus with
    | received bytes => exact leavesStanding_settle hresponses htimeout hout hbegun _ hnow hroom
    | ended | readFailed => exact leavesStanding_fail now call s purpose _
    | expired =>
      show LeavesStanding now call (if deadline ≤ now then _ else _)
      split
      · exact leavesStanding_fail now call s purpose _
      · exact hsame
    | _ => exact hsame

/-! ## Whole runs -/

/-- The call that is pending stands where its exchange does. -/
def Standing (w : ClockedSession) : Prop := Stands w.now w.call w.session.exchange

theorem standing_opened (id : Nat) (line : LineId) (patience : Duration) (now : Instant) :
    (opened id line patience now).Standing := .atRest

/-- Time that does not pass the alarm of the exchange in flight leaves its call standing. -/
theorem Standing.passes (h : w.Standing) {later : Instant} (hlater : w.Admits (.passes later)) :
    Standing { w with now := later } := by
  obtain ⟨s, now, call⟩ := w
  obtain ⟨hle, halarm⟩ := Bool.and_eq_true_iff.mp hlater
  replace hle : now ≤ later := of_decide_eq_true hle
  unfold Standing at h ⊢
  dsimp only at h ⊢
  generalize hx : s.exchange = exchange at h ⊢
  cases h with
  | atRest => exact .atRest
  | writing hresponses htimeout hbegun hout hstage =>
    exact .writing hresponses htimeout (Nat.le_trans hbegun hle) hout hstage
  | @reading _ x _ deadline left hresponses htimeout hout hbegun hnow hroom hleft hstage =>
    have hrings : s.alarm? = some ⟨deadline, .response s.id left⟩ := by
      rw [Session.alarm?, hx]
      obtain ⟨purpose, responses, timeout, stage⟩ := x
      obtain rfl : stage = .reading left deadline := hstage
      rfl
    rw [hrings] at halarm
    exact .reading hresponses htimeout hout hbegun (of_decide_eq_true halarm) hroom hleft hstage

/-- An event leaves the pending call standing. -/
theorem Standing.happens (h : w.Standing) (event : SessionEvent)
    (hevent : w.Admits (.happens event)) :
    Standing { w with session := w.session.undergo event, call := w.callAfter event } := by
  unfold Standing at h ⊢
  dsimp only
  cases event with
  | send commands =>
    rw [Session.undergo, callAfter]
    cases hsend : w.session.send commands with
    | inFlight s' =>
      obtain ⟨-, -, bytes, -, rfl⟩ := Session.of_send_inFlight hsend
      exact .writing rfl rfl (Nat.le_refl _) rfl fun left deadline heq => by contradiction
    | _ => exact h
  | check timeout =>
    rw [Session.undergo, callAfter]
    cases hcheck : w.session.check timeout with
    | inFlight s' =>
      obtain ⟨-, rfl⟩ := Session.of_check_inFlight hcheck
      exact .writing rfl rfl (Nat.le_refl _) rfl fun left deadline heq => by contradiction
    | _ => exact h
  | invalidate | close => exact h
  | cancel => exact .atRest
  | hear now stimulus =>
    obtain rfl : now = w.now := eq_of_beq hevent
    obtain ⟨s, now, call⟩ := w
    dsimp only at h
    generalize hx : s.exchange = exchange at h
    have hstands := h
    cases h with
    | atRest =>
      rw [Session.undergo, Session.react_of_at_rest hx]
      exact hx ▸ .atRest
    | writing _ _ _ hout => exact leavesStanding_of_writing hx hstands hout stimulus
    | reading _ _ hout => exact leavesStanding_of_reading hx hstands hout stimulus

theorem Standing.step (h : w.Standing) (occurrence : Occurrence) :
    (w.step occurrence).Standing := by
  unfold ClockedSession.step
  split
  · cases occurrence with
    | passes later => exact h.passes ‹_›
    | happens event => exact h.happens event ‹_›
  · exact h

theorem Standing.run (h : w.Standing) (occurrences : List Occurrence) :
    (w.run occurrences).Standing := by
  induction occurrences generalizing w with
  | nil => exact h
  | cons occurrence occurrences ih => exact ih (h.step occurrence)

/-- A call is pending only as long as its exchange is in flight, and waits for responses no longer
than all of them may take: counted from when its lines were out, not from when it began. As long as
they are not all out, nothing ends the call. -/
theorem run_pending_within_timers (id : Nat) (line : LineId) (patience : Duration) (now : Instant)
    (occurrences : List Occurrence) (call : PendingCall)
    (hcall : ((opened id line patience now).run occurrences).call = some call) :
    ∃ x, ((opened id line patience now).run occurrences).session.exchange = some x ∧
      (call.outAt = none ∧ (∀ left deadline, x.stage ≠ .reading left deadline) ∨
        ∃ out, call.outAt = some out ∧ call.begunAt ≤ out ∧
          ((opened id line patience now).run occurrences).now ≤
            out + call.responses * call.timeout.nanos) := by
  have h := (standing_opened id line patience now).run occurrences
  rw [Standing, hcall] at h
  generalize hx : ((opened id line patience now).run occurrences).session.exchange = exchange at h
  cases h with
  | writing _ _ _ hout hstage => exact ⟨_, rfl, .inl ⟨hout, hstage⟩⟩
  | @reading _ x out deadline left _ _ hout hbegun hnow hroom hleft _ =>
    refine ⟨x, rfl, .inr ⟨out, hout, hbegun, Nat.le_trans hnow ?_⟩⟩
    obtain ⟨behind, rfl⟩ := Nat.exists_eq_succ_of_ne_zero (Nat.ne_of_gt hleft)
    rw [Nat.succ_eq_add_one, allowance_succ, allowance_succ, ← Nat.add_assoc, ← Nat.add_assoc]
      at hroom
    exact Nat.le_trans (Nat.le_add_right _ _) (Nat.le_of_add_le_add_right hroom)

/-- A batch whose lines go out at once: half of its first response comes late, the rest with the
mark in time, and of the second response nothing. -/
def tricklingBatch : List Occurrence :=
  [.happens (.send ["a", "b"]), .happens (.hear 0 (.accepted 4)), .happens (.hear 0 .flushed),
    .passes 60, .happens (.hear 60 (.received [0x78, 0x0A])),
    .passes 90, .happens (.hear 90 (.received [0x61, 0x72, 0x73, 0x3E])), .passes 190, .passes 191]

theorem tricklingBatch_within_timers :
    ((opened 1 0 ⟨100⟩ 0).run tricklingBatch).call = some ⟨0, 2, ⟨100⟩, some 0⟩ ∧
      ((opened 1 0 ⟨100⟩ 0).run tricklingBatch).now = 190 ∧
      ∃ x, ((opened 1 0 ⟨100⟩ 0).run tricklingBatch).session.exchange = some x ∧
        ((some 0 = none ∧ ∀ left deadline, x.stage ≠ .reading left deadline) ∨
          ∃ out, some 0 = some out ∧ 0 ≤ out ∧
            ((opened 1 0 ⟨100⟩ 0).run tricklingBatch).now ≤ out + 2 * 100) :=
  ⟨by decide, by decide,
    run_pending_within_timers 1 0 ⟨100⟩ 0 tricklingBatch ⟨0, 2, ⟨100⟩, some 0⟩ (by decide)⟩

/-- While a call writes, time passes as far as it likes, and the call stays pending. -/
theorem step_passes_of_writing (hx : w.session.exchange = some x)
    (hstage : ∀ left deadline, x.stage ≠ .reading left deadline) {later : Instant}
    (hlater : w.now ≤ later) : w.step (.passes later) = { w with now := later } := by
  have halarm : w.session.alarm? = none := by
    rw [Session.alarm?, hx]
    obtain ⟨purpose, responses, timeout, stage⟩ := x
    cases stage with
    | reading left deadline => exact absurd rfl (hstage left deadline)
    | writing | flushing => rfl
  rw [ClockedSession.step, if_pos]
  rw [Admits, halarm]
  simpa using hlater

/-- A call on a session whose peer does not read, and time that passes. -/
def blocked (event : SessionEvent) (later : Instant) : List Occurrence :=
  [.happens event, .passes later]

/-- A check of 50 and a command that may take 100 are still pending later than that. -/
theorem blocked_outlasts_timers :
    ((opened 1 0 ⟨100⟩ 0).run (blocked (.check ⟨50⟩) 51)).call = some ⟨0, 1, ⟨50⟩, none⟩ ∧
      ((opened 1 0 ⟨100⟩ 0).run (blocked (.check ⟨50⟩) 51)).now = 51 ∧
      ((opened 1 0 ⟨100⟩ 0).run (blocked (.send ["a"]) 101)).call = some ⟨0, 1, ⟨100⟩, none⟩ ∧
      ((opened 1 0 ⟨100⟩ 0).run (blocked (.send ["a"]) 101)).now = 101 := by
  decide

end ClockedSession

end BroadcastLink
