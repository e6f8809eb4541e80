import BroadcastLink.Proofs.Session.Conversation
import BroadcastLink.Proofs.Session.Later
import BroadcastLink.Proofs.Session.Payloads
import BroadcastLink.Proofs.Session.Reserved
import BroadcastLink.Proofs.Session.Writing

/-!
# Whole batches

What a session writes is the blank line of a check or a batch that it accepted, each from its first
byte to its last. A write can be cut off by a failure or by a caller that gives up, but only the
last one: what follows such a cut finds a session that is not idle, and an idle one has nothing left
to write. So the lines on the wire are commands that were accepted, and no word that switches to
pushing is ever the first of one.
-/

namespace BroadcastLink

/-- The blank line of a check, or the lines of a batch in which every command is fit. -/
def IsSessionPayload (payload : Bytes) : Prop :=
  payload = Session.blankLine ∨ ∃ commands, commands ≠ [] ∧
    (∀ command ∈ commands, ¬ Unfit command) ∧ payload = lineBytes commands

/-- Every line of a payload is a command that does not switch the connection, the blank line
included. -/
theorem IsSessionPayload.lines {payload : Bytes} (h : IsSessionPayload payload) :
    ∃ commands, (∀ c ∈ commands, ¬ SwitchesToPush c ∧ breaksLine c = false) ∧
      payload = lineBytes commands := by
  rcases h with rfl | ⟨commands, -, hfit, rfl⟩
  · refine ⟨[""], fun c hc => ?_, rfl⟩
    obtain rfl := List.mem_singleton.mp hc
    rw [← isReserved_iff]
    decide
  · refine ⟨commands, fun c hc => ⟨fun h => hfit c hc (.inl h), ?_⟩, rfl⟩
    have hclean : ¬ breaksLine c = true := fun h => hfit c hc (.inr ((breaksLine_iff c).mp h))
    simpa using hclean

namespace Session

variable {s : Session}

theorem written_after (t : Transcript) (s : Session) (stimulus : Stimulus) :
    (t.after s stimulus).written = t.written ++ s.taken stimulus := by
  unfold Transcript.after taken
  cases s.exchange.map Exchange.stage with
  | none => exact (List.append_nil _).symm
  | some stage =>
    cases stage <;> cases stimulus
    case writing.accepted => rfl
    all_goals exact (List.append_nil _).symm

/-- What the connection takes is the front of what was still to be written. -/
theorem taken_isPrefix {x : Exchange} (h : s.exchange = some x) (stimulus : Stimulus) :
    s.taken stimulus <+: x.unwritten := by
  unfold taken Exchange.unwritten
  rw [h, Option.map_some]
  split
  · rename_i hstage
    rw [Option.some.inj hstage]
    exact List.take_prefix _ _
  · exact List.nil_prefix

/-- A move leaves a session idle only if it was idle before, or got its last response. -/
def EndsIdle (s : Session) (r : Session × Option (Except Fault String)) : Prop :=
  r.1.state = .idle → s.state = .idle ∨ ∃ text, r.2 = some (.ok text)

theorem endsIdle_fail (s : Session) (purpose : Purpose) (fault : Fault) :
    EndsIdle s (s.fail purpose fault) := fun h => by contradiction

theorem endsIdle_same {s s' : Session} (h : s'.state = s.state) : EndsIdle s (s', none) :=
  fun hidle => .inl (h.symm.trans hidle)

theorem endsIdle_settle (s : Session) (x : Exchange) (now : Instant) (left : Nat)
    (deadline : Instant) : EndsIdle s (s.settle x now left deadline) := by
  induction left generalizing s deadline with
  | zero => exact fun _ => .inr ⟨"", rfl⟩
  | succ left ih =>
    rw [settle]
    split
    · exact endsIdle_same rfl
    · dsimp only
      split
      · exact fun _ => .inr ⟨_, rfl⟩
      · exact ih { s with responses := _ } _

theorem endsIdle_react (s : Session) (now : Instant) (stimulus : Stimulus) :
    EndsIdle s (s.react now stimulus) := by
  unfold react
  split
  · exact endsIdle_same rfl
  · split
    · split
      · exact endsIdle_fail s _ _
      · exact endsIdle_same rfl
    · exact endsIdle_fail s _ _
    · exact endsIdle_settle s _ now _ _
    · exact endsIdle_fail s _ _
    · exact endsIdle_settle { s with responses := _ } _ now _ _
    · exact endsIdle_fail s _ _
    · exact endsIdle_fail s _ _
    · split
      · exact endsIdle_fail s _ _
      · exact endsIdle_same rfl
    · exact endsIdle_same rfl

end Session

namespace Conversation

/-- The payload that an event has the session begin to write. -/
def begins (c : Conversation) : SessionEvent → List Bytes
  | .send commands =>
    match c.session.send commands with
    | .over _ => []
    | .inFlight _ => [lineBytes commands]
  | .check timeout =>
    match c.session.check timeout with
    | .over _ => []
    | .inFlight _ => [Session.blankLine]
  | .invalidate | .close | .cancel | .hear _ _ => []

/-- The payloads begun by events one after another. -/
def begun : Conversation → List SessionEvent → List Bytes
  | _, [] => []
  | c, event :: events => c.begins event ++ (c.step event).1.begun events

variable {c : Conversation}

/-- What begins to be written is the blank line or a whole accepted batch. -/
theorem isSessionPayload_of_begins {event : SessionEvent} {payload : Bytes}
    (h : payload ∈ c.begins event) : IsSessionPayload payload := by
  cases event with
  | send commands =>
    rw [begins] at h
    split at h
    · contradiction
    · rename_i hsend
      obtain ⟨-, hne, bytes, hbytes, -⟩ := Session.of_send_inFlight hsend
      obtain rfl := List.mem_singleton.mp h
      exact .inr ⟨commands, hne, fun command hmem => fit_of_sessionPayload hbytes hmem, rfl⟩
  | check timeout =>
    rw [begins] at h
    split at h
    · contradiction
    · obtain rfl := List.mem_singleton.mp h
      exact .inl rfl
  | invalidate | close | cancel | hear now stimulus => contradiction

theorem isSessionPayload_of_begun {events : List SessionEvent} {payload : Bytes}
    (h : payload ∈ c.begun events) : IsSessionPayload payload := by
  induction events generalizing c with
  | nil => contradiction
  | cons event events ih =>
    rw [begun] at h
    exact (List.mem_append.mp h).elim isSessionPayload_of_begins ih

/-! ## What is on the wire, and what is still missing -/

/-- The payloads are on the wire up to a rest of the last one: an exchange in flight has still to
write it, and an idle session has none. -/
structure Laid (c : Conversation) (payloads : List Bytes) (rest : Bytes) : Prop where
  written : WrittenUpTo payloads rest c.transcript.written
  idle : c.session.state = .idle → rest = [] ∧ c.session.exchange = none
  busy : ∀ x, c.session.exchange = some x → x.unwritten = rest

variable {payloads : List Bytes} {rest : Bytes}

theorem laid_opened (id : Nat) (line : LineId) (patience : Duration) (now : Instant) :
    (opened id line patience now).Laid [] [] :=
  ⟨.nothing, fun _ => ⟨rfl, rfl⟩, fun _ h => by contradiction⟩

/-- An idle session begins another payload where nothing of the last one is missing. -/
theorem Laid.start (h : c.Laid payloads rest) (hidle : c.session.state = .idle) (purpose : Purpose)
    (payload : Bytes) (responses : Nat) (timeout : Duration) (batch : List String) :
    { c with session := c.session.start purpose payload responses timeout, batch := batch }.Laid
      (payloads ++ [payload]) payload where
  written := by
    have hwritten := h.written
    rw [(h.idle hidle).1] at hwritten
    exact hwritten.begin payload
  idle := fun hstate => by contradiction
  busy := by
    intro x hx
    obtain rfl := Option.some.inj hx
    rfl

/-- Where no exchange is in flight the connection has nothing to do for the session. -/
theorem step_hear_of_at_rest (h : c.session.exchange = none) (now : Instant)
    (stimulus : Stimulus) : (c.step (.hear now stimulus)).1 = c := by
  have hsame : c.transcript.after c.session stimulus = c.transcript := by
    unfold Transcript.after
    rw [h]
    rfl
  show { c with
    session := (c.session.react now stimulus).1
    transcript := c.transcript.after c.session stimulus } = c
  rw [Session.react_of_at_rest h, hsame]

/-- A move of the exchange in flight writes on, and after it the session is idle only if nothing is
missing. -/
theorem Laid.hear (h : c.Laid payloads rest) (now : Instant) (stimulus : Stimulus) :
    ∃ rest', (c.step (.hear now stimulus)).1.Laid payloads rest' := by
  cases hx : c.session.exchange with
  | none =>
    refine ⟨rest, ?_⟩
    rw [step_hear_of_at_rest hx]
    exact h
  | some x =>
    have hbusy : c.session.state ≠ .idle := fun hidle => by
      have := (h.idle hidle).2
      rw [hx] at this
      contradiction
    obtain ⟨hrest, hover⟩ := Session.goesOnWriting_react hx now stimulus
    rw [h.busy x hx] at hrest hover
    -- What the move took is the front of what was missing.
    obtain ⟨behind, hsplit⟩ := Session.taken_isPrefix hx stimulus
    rw [h.busy x hx] at hsplit
    refine ⟨behind, ?_, ?_, ?_⟩
    · show WrittenUpTo payloads behind (c.transcript.after c.session stimulus).written
      rw [Session.written_after]
      have hwritten := h.written
      rw [← hsplit] at hwritten
      exact hwritten.goOn
    · intro hidle
      obtain ⟨text, htext⟩ := (Session.endsIdle_react _ now stimulus hidle).resolve_left hbusy
      refine ⟨?_, Session.endsAtRest_react _ now stimulus _ htext⟩
      rw [hover text htext] at hsplit
      exact List.append_right_eq_self.mp hsplit
    · intro y hy
      exact List.append_cancel_left ((hrest y hy).trans hsplit.symm)

/-- One event lays down what it begins, and no more. -/
theorem Laid.step (h : c.Laid payloads rest) (event : SessionEvent) :
    ∃ rest', (c.step event).1.Laid (payloads ++ c.begins event) rest' := by
  cases event with
  | send commands =>
    cases hsend : c.session.send commands with
    | «over» outcome =>
      simp only [Conversation.step, begins, hsend, List.append_nil]
      exact ⟨rest, h⟩
    | inFlight session =>
      simp only [Conversation.step, begins, hsend]
      obtain ⟨hidle, -, bytes, hbytes, rfl⟩ := Session.of_send_inFlight hsend
      obtain ⟨rfl, -⟩ := lines_of_sessionPayload hbytes
      exact ⟨_, h.start hidle _ _ _ _ _⟩
  | check timeout =>
    cases hcheck : c.session.check timeout with
    | «over» outcome =>
      simp only [Conversation.step, begins, hcheck, List.append_nil]
      exact ⟨rest, h⟩
    | inFlight session =>
      simp only [Conversation.step, begins, hcheck]
      obtain ⟨hidle, rfl⟩ := Session.of_check_inFlight hcheck
      exact ⟨_, h.start hidle _ _ _ _ _⟩
  | invalidate | close =>
    refine ⟨rest, ?_⟩
    rw [begins, List.append_nil]
    exact ⟨h.written, fun hstate => by contradiction, h.busy⟩
  | cancel =>
    refine ⟨rest, ?_⟩
    rw [begins, List.append_nil]
    exact ⟨h.written, fun hstate => ⟨(h.idle hstate).1, rfl⟩, fun _ hx => by contradiction⟩
  | hear now stimulus =>
    rw [begins, List.append_nil]
    exact h.hear now stimulus

theorem Laid.run (h : c.Laid payloads rest) (events : List SessionEvent) :
    ∃ rest', (c.run events).Laid (payloads ++ c.begun events) rest' := by
  induction events generalizing c payloads rest with
  | nil => exact ⟨rest, by rw [begun, List.append_nil]; exact h⟩
  | cons event events ih =>
    obtain ⟨_, hstep⟩ := h.step event
    rw [begun, ← List.append_assoc]
    exact ih hstep

/-! ## Sessions that never write again -/

/-- No exchange is in flight and none can begin. -/
def Silent (c : Conversation) : Prop := c.session.exchange = none ∧ c.session.state ≠ .idle

theorem Silent.step (h : c.Silent) (event : SessionEvent) :
    (c.step event).1.Silent ∧ (c.step event).1.transcript.written = c.transcript.written := by
  cases event with
  | send commands =>
    rw [Conversation.step]
    split
    · exact ⟨h, rfl⟩
    · rename_i hsend
      exact absurd (Session.of_send_inFlight hsend).1 h.2
  | check timeout =>
    rw [Conversation.step]
    split
    · exact ⟨h, rfl⟩
    · rename_i hcheck
      exact absurd (Session.of_check_inFlight hcheck).1 h.2
  | invalidate | close => exact ⟨⟨h.1, fun hstate => by contradiction⟩, rfl⟩
  | cancel => exact ⟨⟨rfl, h.2⟩, rfl⟩
  | hear now stimulus =>
    rw [step_hear_of_at_rest h.1]
    exact ⟨h, rfl⟩

theorem Silent.run (h : c.Silent) (events : List SessionEvent) :
    (c.run events).transcript.written = c.transcript.written := by
  induction events generalizing c with
  | nil => rfl
  | cons event events ih =>
    obtain ⟨hstep, hwritten⟩ := h.step event
    exact (ih hstep).trans hwritten

/-- What is missing is either still being written, or never will be. -/
theorem Laid.missing (h : c.Laid payloads rest) (hrest : rest ≠ []) :
    (∃ x, c.session.exchange = some x ∧ x.stage = .writing rest) ∨
      ∀ later, (c.run later).transcript.written = c.transcript.written := by
  cases hx : c.session.exchange with
  | none => exact .inr (Silent.run ⟨hx, fun hidle => hrest (h.idle hidle).1⟩)
  | some x =>
    refine .inl ⟨x, rfl, ?_⟩
    have hunwritten := h.busy x hx
    rw [Exchange.unwritten] at hunwritten
    split at hunwritten
    · rename_i hstage
      rw [hstage, hunwritten]
    · exact absurd hunwritten.symm hrest

/-! ## The batches on the wire -/

/-- A command session writes whole accepted batches and no line that switches to pushing. After any
events, what was begun are blank lines and accepted batches; they stand on the wire one after
another, up to a rest of the last one that is still being written or never will be; no complete line
switches the connection; and an idle session refuses a batch for its first unfit command, at
whatever position, with everything as it was. -/
theorem run_writes_whole_batches (id : Nat) (line : LineId) (patience : Duration) (now : Instant)
    (events : List SessionEvent) :
    let start := opened id line patience now
    let c := start.run events
    (∀ payload ∈ start.begun events, IsSessionPayload payload) ∧
    (∃ rest, WrittenUpTo (start.begun events) rest c.transcript.written ∧
      (rest ≠ [] → (∃ x, c.session.exchange = some x ∧ x.stage = .writing rest) ∨
        ∀ later, (c.run later).transcript.written = c.transcript.written)) ∧
    (∀ text ∈ completeLines c.transcript.written, ¬ SwitchesToPush (Text.decodeLossy text)) ∧
    ∀ before bad after, c.session.state = .idle → (∀ command ∈ before, ¬ Unfit command) →
      Unfit bad →
      c.step (.send (before ++ bad :: after)) =
        (c, some (.sent (before ++ bad :: after) (.error (.protocolMisuse bad)))) := by
  intro start c
  obtain ⟨rest, hlaid⟩ := (laid_opened id line patience now).run events
  rw [List.nil_append] at hlaid
  refine ⟨fun _ => isSessionPayload_of_begun, ⟨rest, hlaid.written, hlaid.missing⟩, ?_, ?_⟩
  · intro text htext
    obtain ⟨command, hfit, rfl⟩ := hlaid.written.completeLines_mem
      (fun payload hpayload => (isSessionPayload_of_begun hpayload).lines) htext
    rw [Text.decodeLossy_encode]
    exact hfit
  · intro before bad after hidle hbefore hbad
    rw [Conversation.step, Session.send_of_unfit hidle hbefore hbad]

/-- A session whose only batch so far was answered. -/
def answeredOnce : List SessionEvent :=
  [.send ["a"], .hear 0 (.accepted 1), .hear 0 (.accepted 1), .hear 0 .flushed,
    .hear 1 (.received [0x78, 0x0A, 0x61, 0x72, 0x73, 0x3E])]

/-- A reserved word in the middle of a batch, behind white space that is not ASCII and in mixed
case, is refused with everything as it was; a word that only begins like it is not. -/
theorem answeredOnce_refuses_reserved :
    ((opened 1 0 ⟨5⟩ 0).run answeredOnce).step (.send ["vu2 1", "\u2003NoTiFy on", "b\nc"]) =
      ((opened 1 0 ⟨5⟩ 0).run answeredOnce,
        some (.sent ["vu2 1", "\u2003NoTiFy on", "b\nc"]
          (.error (.protocolMisuse "\u2003NoTiFy on")))) :=
  (run_writes_whole_batches 1 0 ⟨5⟩ 0 answeredOnce).2.2.2 ["vu2 1"] "\u2003NoTiFy on" ["b\nc"] rfl
    (fun command hmem => by
      obtain rfl := List.mem_singleton.mp hmem
      rw [unfit_iff]
      decide)
    ((unfit_iff _).mpr (by decide))

end Conversation

end BroadcastLink
