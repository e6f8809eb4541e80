import BroadcastLink.Proofs.Session.InStep

/-!
# Whole conversations

Everything that can happen to one session, in any order: calls made on it, calls given up, and
whatever its connection does, from one byte at a time to an end in mid-response. In every state so
reached the number of segments cut off is known, and a response returned for commands is the segment
whose number is that of the last line written.
-/

namespace BroadcastLink

/-- What happens to a session: something is called, a call in flight is given up, or the connection
does something at a point of the clock. -/
inductive SessionEvent where
  | send (commands : List String)
  | check (timeout : Duration)
  | invalidate
  | close
  | cancel
  | hear (now : Instant) (stimulus : Stimulus)
  deriving DecidableEq, Repr

/-- What a call came to. -/
inductive Returned where
  | sent (commands : List String) (outcome : Except Fault String)
  | checked (outcome : Except Fault String)

/-- A session, the commands it was last given, and what went over its connection. -/
structure Conversation where
  session : Session
  batch : List String := []
  transcript : Transcript := {}

namespace Conversation

/-- The conversation of a session on a new connection. -/
def opened (id : Nat) (line : LineId) (patience : Duration) (now : Instant) : Conversation :=
  { session := .opened id line patience now }

/-- What an exchange that is over came to. -/
def returned (c : Conversation) (x : Exchange) (outcome : Except Fault String) : Returned :=
  match x.purpose with
  | .commands => .sent c.batch outcome
  | .check => .checked outcome

/-- One event, and what a call that it brought to an end came to. -/
def step (c : Conversation) : SessionEvent → Conversation × Option Returned
  | .send commands =>
    match c.session.send commands with
    | .over outcome => (c, some (.sent commands outcome))
    | .inFlight session => ({ c with session := session, batch := commands }, none)
  | .check timeout =>
    match c.session.check timeout with
    | .over outcome => (c, some (.checked outcome))
    | .inFlight session => ({ c with session := session }, none)
  | .invalidate | .close => ({ c with session := c.session.invalidate }, none)
  | .cancel => ({ c with session := c.session.abandon }, none)
  | .hear now stimulus =>
    let moved := c.session.react now stimulus
    ({ c with session := moved.1, transcript := c.transcript.after c.session stimulus },
      c.session.exchange.bind fun x => moved.2.map (c.returned x))

/-- Any number of events. -/
def run (c : Conversation) (events : List SessionEvent) : Conversation :=
  events.foldl (fun c event => (c.step event).1) c

/-- So many segments of what was received were cut off: the session holds what stands behind
them. -/
def Consumed (c : Conversation) (n : Nat) : Prop :=
  afterSegments n c.transcript.received = some c.session.responses.bytes

/-- The text is the segment whose number is that of the last line written, and exactly so many
segments were cut off. -/
def Answered (c : Conversation) (text : String) : Prop :=
  0 < c.transcript.lines ∧
    (∃ segment, (segments c.transcript.received)[c.transcript.lines - 1]? = some segment ∧
      text = Text.decodeLossy segment) ∧
    ∀ n, c.Consumed n ↔ n = c.transcript.lines

/-- The conversation is in step. -/
def InStep (c : Conversation) : Prop := ∃ n, c.session.InStep c.transcript n

variable {c : Conversation}

/-- One event keeps a conversation in step. -/
theorem InStep.step (h : c.InStep) (event : SessionEvent) : (c.step event).1.InStep := by
  obtain ⟨n, hn⟩ := h
  cases event with
  | send commands =>
    rw [Conversation.step]
    split
    · exact ⟨n, hn⟩
    · rename_i hsend
      exact ⟨n, hn.send hsend⟩
  | check timeout =>
    rw [Conversation.step]
    split
    · exact ⟨n, hn⟩
    · rename_i hcheck
      exact ⟨n, hn.check hcheck⟩
  | invalidate | close => exact ⟨n, hn.invalidate⟩
  | cancel => exact ⟨n, hn.abandon⟩
  | hear now stimulus => exact (hn.react now stimulus).1

theorem InStep.run (h : c.InStep) (events : List SessionEvent) : (c.run events).InStep := by
  induction events generalizing c with
  | nil => exact h
  | cons event events ih => exact ih (h.step event)

theorem inStep_opened (id : Nat) (line : LineId) (patience : Duration) (now : Instant) :
    (opened id line patience now).InStep :=
  ⟨0, Session.inStep_opened id line patience now⟩

theorem consumed_iff {n : Nat} (h : c.session.InStep c.transcript n) (m : Nat) :
    c.Consumed m ↔ m = n :=
  ⟨h.consumed_unique, fun heq => heq ▸ h.held⟩

/-- A response to commands comes with a move of their exchange, and is the one to the last line. -/
theorem InStep.answered (h : c.InStep) {event : SessionEvent} {commands : List String}
    {text : String} (hne : commands ≠ [])
    (hret : (c.step event).2 = some (.sent commands (.ok text))) :
    (c.step event).1.Answered text := by
  obtain ⟨n, hn⟩ := h
  cases event with
  | send given =>
    rw [Conversation.step] at hret
    split at hret
    · rename_i outcome hover
      obtain ⟨rfl, rfl⟩ := Returned.sent.inj (Option.some.inj hret)
      exact absurd (Session.eq_nil_of_send_over_ok hover) hne
    · contradiction
  | check timeout =>
    rw [Conversation.step] at hret
    split at hret
    · have := Option.some.inj hret
      contradiction
    · contradiction
  | invalidate | close | cancel => contradiction
  | hear now stimulus =>
    -- Only a move of an exchange for commands returns a response to them.
    obtain ⟨x, -, hmoved⟩ := Option.bind_eq_some_iff.mp hret
    obtain ⟨outcome, houtcome, hreturned⟩ := Option.map_eq_some_iff.mp hmoved
    rw [returned] at hreturned
    split at hreturned
    · obtain ⟨-, rfl⟩ := Returned.sent.inj hreturned
      obtain ⟨hpos, hstep, hsegment⟩ := (hn.react now stimulus).2 text houtcome
      exact ⟨hpos, hsegment, consumed_iff hstep⟩
    · contradiction

/-- A session never loses step with its connection. After any events, what is returned for commands
is the segment whose number is that of the last line written, with exactly so many segments cut off;
and an idle session has had exactly one segment cut off for every line. -/
theorem run_answers_in_step (id : Nat) (line : LineId) (patience : Duration) (now : Instant)
    (events : List SessionEvent) :
    (∀ event commands text, commands ≠ [] →
      (((opened id line patience now).run events).step event).2 =
        some (.sent commands (.ok text)) →
      (((opened id line patience now).run events).step event).1.Answered text) ∧
    (((opened id line patience now).run events).session.state = .idle →
      ∀ n, ((opened id line patience now).run events).Consumed n ↔
        n = ((opened id line patience now).run events).transcript.lines) := by
  have h := (inStep_opened id line patience now).run events
  constructor
  · intro event commands text hne hret
    exact h.answered hne hret
  · intro hidle
    obtain ⟨n, hn⟩ := h
    rw [(hn.idle hidle).2.1]
    exact consumed_iff hn

/-- The first events of a conversation: a batch of two commands is written in two parts, and the
mark behind the first response arrives split. -/
def splitMark : List SessionEvent :=
  [.send ["a", "b"], .hear 0 (.accepted 3), .hear 0 (.accepted 1), .hear 0 .flushed,
    .hear 1 (.received [0x78, 0x0A, 0x61])]

/-- The read that completes the second response returns it, and leaves what follows. -/
theorem splitMark_answers :
    ((((opened 1 0 ⟨5⟩ 0).run splitMark).step
      (.hear 2 (.received [0x72, 0x73, 0x3E, 0x79, 0x0A, 0x61, 0x72, 0x73, 0x3E, 0x7A]))).1.Answered
        "y") ∧
    ∀ n, (opened 1 0 ⟨5⟩ 0).Consumed n ↔ n = 0 :=
  ⟨(run_answers_in_step 1 0 ⟨5⟩ 0 splitMark).1 _ ["a", "b"] "y" (by decide) (by rfl),
    (run_answers_in_step 1 0 ⟨5⟩ 0 []).2 rfl⟩

end Conversation

end BroadcastLink
