import BroadcastLink.Proofs.Response.Segments
import BroadcastLink.Proofs.Session.Lines
import BroadcastLink.Session

/-!
# A session in step with its connection

Nothing on the wire tells which response belongs to which line; only counting does. A session is in
step when as many segments were cut off what it received as lines were written, those still owed by
an exchange in flight taken into account. Every step of an exchange keeps it so, and every exit of
an exchange that breaks off leaves a session that is not idle, for which nothing is owed any more.
-/

namespace BroadcastLink

/-- What went over a connection so far. -/
structure Transcript where
  written : Bytes := []
  received : Bytes := []
  deriving DecidableEq, Repr

namespace Transcript

/-- How many complete lines were written. -/
def lines (t : Transcript) : Nat := lineCount t.written

/-- What went over the connection once it did something for a session's exchange: only a writing
exchange has bytes taken from it, and only a reading one is given any. -/
def after (t : Transcript) (s : Session) (stimulus : Stimulus) : Transcript :=
  match s.exchange.map Exchange.stage, stimulus with
  | some (.writing rest), .accepted n => { t with written := t.written ++ rest.take n }
  | some (.reading _ _), .received data => { t with received := t.received ++ data }
  | _, _ => t

end Transcript

namespace Exchange

/-- How many responses an exchange has still to take. -/
def outstanding (x : Exchange) : Nat :=
  match x.stage with
  | .reading left _ => left
  | _ => x.responses

/-- What an exchange has still to write. -/
def unwritten (x : Exchange) : Bytes :=
  match x.stage with
  | .writing rest => rest
  | _ => []

end Exchange

namespace Session

/-- The session is in step with its connection, and so many segments were cut off what it received.
An exchange in flight will have written one line for each segment it still takes; an idle session
has written as many lines as segments were cut off. -/
structure InStep (s : Session) (t : Transcript) (consumed : Nat) : Prop where
  searched : s.responses.Searched
  held : afterSegments consumed t.received = some s.responses.bytes
  idle : s.state = .idle →
    s.exchange = none ∧ t.lines = consumed ∧ EndsLine t.written
  busy : ∀ x, s.exchange = some x →
    0 < x.outstanding ∧ lineCount (t.written ++ x.unwritten) = consumed + x.outstanding ∧
      EndsLine (t.written ++ x.unwritten)

variable {s : Session} {t : Transcript} {n : Nat}

theorem inStep_opened (id : Nat) (line : LineId) (patience : Duration) (now : Instant) :
    (opened id line patience now).InStep {} 0 where
  searched := ResponseBuffer.searched_of_scanned_zero rfl
  held := rfl
  idle := fun _ => ⟨rfl, rfl, endsLine_nil⟩
  busy := fun _ h => by contradiction

/-- The number of segments cut off is determined by what is held and what was received. -/
theorem InStep.consumed_unique (h : s.InStep t n) {m : Nat}
    (hm : afterSegments m t.received = some s.responses.bytes) : m = n :=
  afterSegments_count_unique hm h.held

/-! ## Beginning and giving up -/

/-- An idle session stays in step when it begins to write complete lines, one for each response. -/
theorem InStep.start (h : s.InStep t n) (hidle : s.state = .idle) {purpose : Purpose}
    {bytes : Bytes} {responses : Nat} {timeout : Duration} (hpos : 0 < responses)
    (hlines : lineCount bytes = responses) (hends : EndsLine bytes) :
    (s.start purpose bytes responses timeout).InStep t n where
  searched := h.searched
  held := h.held
  idle := fun hstate => by contradiction
  busy := by
    intro x hx
    obtain rfl : (⟨purpose, responses, timeout, .writing bytes⟩ : Exchange) = x :=
      Option.some.inj hx
    obtain ⟨-, hcount, hwhole⟩ := h.idle hidle
    refine ⟨hpos, ?_, hwhole.append hends⟩
    show lineCount (t.written ++ bytes) = n + responses
    rw [lineCount_append, hlines]
    rw [Transcript.lines] at hcount
    omega

/-- What can begin to send: an idle session, commands it accepts, at least one of them. -/
theorem of_send_inFlight {commands : List String} {s' : Session}
    (h : s.send commands = .inFlight s') :
    s.state = .idle ∧ commands ≠ [] ∧ ∃ bytes, sessionPayload commands = .ok bytes ∧
      s' = s.start .commands bytes commands.length s.patience := by
  rw [send] at h
  split at h
  · contradiction
  · contradiction
  · rename_i hidle
    split at h
    · contradiction
    · rename_i bytes hbytes
      split at h
      · contradiction
      · rename_i hne
        refine ⟨hidle, by simpa using hne, bytes, hbytes, ?_⟩
        exact (Begun.inFlight.inj h).symm

/-- Sending nothing is over at once; what else is over at once has failed. -/
theorem eq_nil_of_send_over_ok {commands : List String} {text : String}
    (h : s.send commands = .over (.ok text)) : commands = [] := by
  rw [send] at h
  split at h
  · have := Begun.over.inj h
    contradiction
  · have := Begun.over.inj h
    contradiction
  · split at h
    · have := Begun.over.inj h
      contradiction
    · split at h
      · rename_i hempty
        exact List.isEmpty_iff.mp hempty
      · contradiction

theorem of_check_inFlight {timeout : Duration} {s' : Session}
    (h : s.check timeout = .inFlight s') :
    s.state = .idle ∧ s' = s.start .check blankLine 1 timeout := by
  rw [check] at h
  split at h
  · rename_i hidle
    exact ⟨hidle, (Begun.inFlight.inj h).symm⟩
  · contradiction

theorem InStep.send (h : s.InStep t n) {commands : List String} {s' : Session}
    (hsend : s.send commands = .inFlight s') : s'.InStep t n := by
  obtain ⟨hidle, hne, bytes, hbytes, rfl⟩ := of_send_inFlight hsend
  obtain ⟨rfl, hlines⟩ := lines_of_sessionPayload hbytes
  exact h.start hidle (List.length_pos_iff.mpr hne) hlines (endsLine_lineBytes commands)

theorem InStep.check (h : s.InStep t n) {timeout : Duration} {s' : Session}
    (hcheck : s.check timeout = .inFlight s') : s'.InStep t n := by
  obtain ⟨hidle, rfl⟩ := of_check_inFlight hcheck
  exact h.start hidle Nat.one_pos rfl (endsLine_snoc [])

theorem InStep.invalidate (h : s.InStep t n) : s.invalidate.InStep t n :=
  ⟨h.searched, h.held, fun hstate => by contradiction, h.busy⟩

theorem InStep.abandon (h : s.InStep t n) : s.abandon.InStep t n :=
  ⟨h.searched, h.held, fun hstate => ⟨rfl, (h.idle hstate).2⟩, fun _ hx => by contradiction⟩

theorem InStep.fail (h : s.InStep t n) (purpose : Purpose) (fault : Fault) :
    (s.fail purpose fault).1.InStep t n :=
  h.invalidate.abandon

/-! ## Going on -/

/-- An exchange in flight whose session is in step owes what its stage says. -/
theorem InStep.not_idle (h : s.InStep t n) {x : Exchange} (hx : s.exchange = some x) :
    s.state ≠ .idle := by
  intro hidle
  rw [(h.idle hidle).1] at hx
  contradiction

/-- The text is the response to the last line written: the segment of that number, with every
segment up to it cut off. -/
def Answers (s : Session) (t : Transcript) (text : String) : Prop :=
  0 < t.lines ∧ s.InStep t t.lines ∧
    ∃ segment, (segments t.received)[t.lines - 1]? = some segment ∧ text = Text.decodeLossy segment

/-- A move of an exchange leaves its session in step, and a response that it returns is the one to
the last line. -/
def LeftInStep (t : Transcript) (r : Session × Option (Except Fault String)) : Prop :=
  (∃ consumed, r.1.InStep t consumed) ∧ ∀ text, r.2 = some (.ok text) → r.1.Answers t text

theorem leftInStep_fail (h : s.InStep t n) (purpose : Purpose) (fault : Fault) :
    LeftInStep t (s.fail purpose fault) := by
  refine ⟨⟨n, h.fail purpose fault⟩, fun text htext => ?_⟩
  have : Except.error _ = Except.ok text := Option.some.inj htext
  contradiction

theorem leftInStep_pending (h : s.InStep t n) : LeftInStep t (s, none) :=
  ⟨⟨n, h⟩, fun text htext => by contradiction⟩

/-- After its last response a session is in step, whether it may be used again or not. -/
theorem leftInStep_finish {purpose : Purpose} {now : Instant} {segment : Bytes}
    (hsearched : s.responses.Searched)
    (hheld : afterSegments t.lines t.received = some s.responses.bytes)
    (hends : EndsLine t.written) (hpos : 0 < t.lines)
    (hindex : (segments t.received)[t.lines - 1]? = some segment) :
    LeftInStep t (s.finish purpose now (Text.decodeLossy segment)) := by
  have hstep : (s.finish purpose now (Text.decodeLossy segment)).1.InStep t t.lines :=
    ⟨hsearched, hheld, fun _ => ⟨rfl, rfl, hends⟩, fun _ hx => by contradiction⟩
  refine ⟨⟨t.lines, hstep⟩, fun text htext => ⟨hpos, hstep, segment, hindex, ?_⟩⟩
  exact (Except.ok.inj (Option.some.inj htext)).symm

theorem settle_of_uncut {x : Exchange} {now deadline : Instant} {left : Nat}
    (hsearched : s.responses.Searched) (hcut : cutAtMark s.responses.bytes = none) :
    s.settle x now (left + 1) deadline =
      ({ s with
          responses :=
            ⟨s.responses.bytes, s.responses.bytes.length - (responseMark.length - 1)⟩
          exchange := some { x with stage := .reading (left + 1) deadline } }, none) := by
  rw [settle, ResponseBuffer.take_of_uncut hsearched hcut]

theorem settle_of_cut {x : Exchange} {now deadline : Instant} {left : Nat} {segment behind : Bytes}
    (hsearched : s.responses.Searched)
    (hcut : cutAtMark s.responses.bytes = some (segment, behind)) :
    s.settle x now (left + 1) deadline =
      if left = 0 then
        { s with responses := ⟨behind, 0⟩ }.finish x.purpose now (Text.decodeLossy segment)
      else { s with responses := ⟨behind, 0⟩ }.settle x now left (x.timeout.after now) := by
  rw [settle, ResponseBuffer.take_of_cut hsearched hcut]

/-- Taking the responses that have arrived keeps a session in step. -/
theorem leftInStep_settle {x : Exchange} {now : Instant} {left : Nat} {deadline : Instant}
    (hsearched : s.responses.Searched)
    (hheld : afterSegments n t.received = some s.responses.bytes)
    (hbusy : s.state ≠ .idle) (hends : EndsLine t.written)
    (hleft : 0 < left) (hlines : t.lines = n + left) :
    LeftInStep t (s.settle x now left deadline) := by
  -- By induction on the responses still owed: each one taken is one segment cut off, so that the
  -- sum of what is owed and what was cut off stays the number of lines.
  induction left generalizing s n deadline with
  | zero => omega
  | succ left ih =>
    cases hcut : cutAtMark s.responses.bytes with
    | none =>
      rw [settle_of_uncut hsearched hcut]
      refine leftInStep_pending (n := n) ⟨ResponseBuffer.searched_of_uncut hcut, hheld, ?_, ?_⟩
      · intro hidle
        exact absurd hidle hbusy
      · intro y hy
        obtain rfl : { x with stage := .reading (left + 1) deadline } = y := Option.some.inj hy
        rw [show Exchange.unwritten _ = [] from rfl, List.append_nil]
        exact ⟨hleft, hlines, hends⟩
    | some cut =>
      obtain ⟨segment, behind⟩ := cut
      obtain ⟨hafter, hindex⟩ := afterSegments_cut hheld hcut
      have hfresh : (⟨behind, 0⟩ : ResponseBuffer).Searched :=
        ResponseBuffer.searched_of_scanned_zero rfl
      rw [settle_of_cut hsearched hcut]
      split
      · -- The segment is the last one owed, so its number is that of the last line.
        have hlast : t.lines = n + 1 := by omega
        refine leftInStep_finish hfresh ?_ hends (by omega) ?_
        · rw [hlast]
          exact hafter
        · rw [hlast]
          exact hindex
      · exact ih hfresh hafter hbusy (by omega) (by omega)

/-- An exchange whose writing the connection goes on with will still have written the same. -/
theorem InStep.accept (h : s.InStep t n) {x : Exchange} {rest : Bytes} (hx : s.exchange = some x)
    (hstage : x.stage = .writing rest) (k : Nat) (stage : ExchangeStage)
    (hrest : Exchange.unwritten { x with stage := stage } = rest.drop k)
    (howed : Exchange.outstanding { x with stage := stage } = x.responses) :
    { s with exchange := some { x with stage := stage } }.InStep
      { t with written := t.written ++ rest.take k } n := by
  obtain ⟨hpos, hcount, hends⟩ := h.busy x hx
  have hunwritten : x.unwritten = rest := by rw [Exchange.unwritten, hstage]
  have houtstanding : x.outstanding = x.responses := by rw [Exchange.outstanding, hstage]
  rw [hunwritten] at hcount hends
  rw [houtstanding] at hpos hcount
  refine ⟨h.searched, h.held, fun hidle => absurd hidle (h.not_idle hx), ?_⟩
  intro y hy
  obtain rfl : { x with stage := stage } = y := Option.some.inj hy
  rw [hrest, howed, List.append_assoc, List.take_append_drop]
  exact ⟨hpos, hcount, hends⟩

/-- Every move of an exchange leaves its session in step, whatever the connection did. -/
theorem InStep.react (h : s.InStep t n) (now : Instant) (stimulus : Stimulus) :
    LeftInStep (t.after s stimulus) (s.react now stimulus) := by
  -- By the stage of the exchange and what the connection did; where the two do not meet, nothing
  -- moves.
  unfold Session.react Transcript.after
  cases hx : s.exchange with
  | none => exact leftInStep_pending h
  | some x =>
    obtain ⟨hpos, hcount, hends⟩ := h.busy x hx
    have hbusy := h.not_idle hx
    obtain ⟨purpose, responses, timeout, stage⟩ := x
    cases stage <;> cases stimulus
    case writing.accepted rest k =>
      show LeftInStep { t with written := t.written ++ rest.take k } (if k = 0 then _ else _)
      by_cases hzero : k = 0
      · rw [if_pos hzero, hzero, List.take_zero, List.append_nil]
        exact leftInStep_fail h purpose _
      · rw [if_neg hzero]
        cases hdrop : rest.drop k with
        | nil => exact leftInStep_pending (h.accept hx rfl k .flushing hdrop.symm rfl)
        | cons b more => exact leftInStep_pending (h.accept hx rfl k (.writing _) hdrop.symm rfl)
    case flushing.flushed =>
      simp only [Exchange.unwritten, List.append_nil] at hcount hends
      exact leftInStep_settle h.searched h.held hbusy hends hpos hcount
    case reading.received left deadline data =>
      simp only [Exchange.unwritten, List.append_nil] at hcount hends
      exact leftInStep_settle (h.searched.extend data) (afterSegments_append h.held data)
        hbusy hends hpos hcount
    case reading.expired left deadline =>
      show LeftInStep t (if deadline ≤ now then _ else _)
      split
      · exact leftInStep_fail h purpose _
      · exact leftInStep_pending h
    case writing.writeFailed | flushing.flushFailed | reading.ended | reading.readFailed =>
      exact leftInStep_fail h purpose _
    all_goals exact leftInStep_pending h

end Session

end BroadcastLink
