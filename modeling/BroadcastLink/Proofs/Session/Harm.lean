import BroadcastLink.Proofs.Session.Conversation
import BroadcastLink.Proofs.Session.Later
import BroadcastLink.Proofs.Session.Writing

/-!
# What a session does not recover from

An exchange that times out, fails or is given up, a connection that ends, a check that is not
passed, a session declared invalid or closed: each leaves a session that is not idle and never will
be again, whatever is called on it and whatever its connection does.
-/

namespace BroadcastLink

namespace Session

/-- What becomes of a session in an event. -/
def undergo (s : Session) : SessionEvent → Session
  | .send commands =>
    match s.send commands with
    | .over _ => s
    | .inFlight s' => s'
  | .check timeout =>
    match s.check timeout with
    | .over _ => s
    | .inFlight s' => s'
  | .invalidate | .close => s.invalidate
  | .cancel => s.abandon
  | .hear now stimulus => (s.react now stimulus).1

variable {s s' : Session}

theorem later_undergo (s : Session) (event : SessionEvent) : s.Later (s.undergo event) := by
  cases event with
  | send commands =>
    rw [undergo]
    split
    · exact .refl s
    · exact later_of_send ‹_›
  | check timeout =>
    rw [undergo]
    split
    · exact .refl s
    · exact later_of_check ‹_›
  | invalidate | close | cancel => exact ⟨rfl, rfl⟩
  | hear now stimulus => exact later_react s now stimulus

/-- Whatever its life, it stays on its connection and takes up the same capacity. -/
theorem later_foldl (s : Session) (life : List SessionEvent) :
    s.Later (life.foldl undergo s) := by
  induction life generalizing s with
  | nil => exact .refl s
  | cons event life ih =>
    have hfirst := later_undergo s event
    have hrest := ih (s.undergo event)
    exact ⟨hrest.line.trans hfirst.line, hrest.pool.trans hfirst.pool⟩

/-! ## What a move of an exchange comes to -/

/-- A move leaves an exchange in flight, or brings it to an end: with a response, and then the
session may be idle again, or with a fault, and then it is invalid. -/
inductive Moved (s : Session) : Session × Option (Except Fault String) → Prop where
  | pending {s' : Session} (hstate : s'.state = s.state)
      (hexchange : s'.exchange.isSome = s.exchange.isSome) : Moved s (s', none)
  | answered {s' : Session} {text : String} (hstate : s'.state = s.state.complete)
      (hrest : s'.exchange = none) : Moved s (s', some (.ok text))
  | failed {s' : Session} {fault : Fault} (hstate : s'.state = .invalid)
      (hrest : s'.exchange = none) : Moved s (s', some (.error fault))

theorem moved_fail (s : Session) (purpose : Purpose) (fault : Fault) :
    Moved s (s.fail purpose fault) :=
  .failed rfl rfl

/-- Taking responses does so for a session that only has others buffered than before. -/
theorem moved_settle {x : Exchange} (hstate : s'.state = s.state) (hx : s.exchange.isSome)
    (now : Instant) (left : Nat) (deadline : Instant) :
    Moved s (s'.settle x now left deadline) := by
  induction left generalizing s' deadline with
  | zero => exact .answered (congrArg SessionState.complete hstate) rfl
  | succ left ih =>
    rw [settle]
    split
    · exact .pending hstate hx.symm
    · dsimp only
      split
      · exact .answered (congrArg SessionState.complete hstate) rfl
      · refine ih ?_ _
        exact hstate

theorem moved_react (s : Session) (now : Instant) (stimulus : Stimulus) :
    Moved s (s.react now stimulus) := by
  have hsame : Moved s (s, none) := .pending rfl rfl
  unfold react
  split
  · exact hsame
  · rename_i x hx
    have hsome : s.exchange.isSome := by rw [hx]; rfl
    split
    · split
      · exact moved_fail s _ _
      · exact .pending rfl hsome.symm
    · exact moved_fail s _ _
    · exact moved_settle rfl hsome now _ _
    · exact moved_fail s _ _
    · refine moved_settle ?_ hsome now _ _
      rfl
    · exact moved_fail s _ _
    · exact moved_fail s _ _
    · split
      · exact moved_fail s _ _
      · exact hsame
    · exact hsame

/-! ## Harm -/

/-- What a session does not recover from: its deadline passed, its connection failed or ended while
it was needed, its exchange was given up, it was declared invalid or closed, or it could not even be
checked. A check that is under way fails with its connection or its deadline. -/
inductive Harm (s : Session) : SessionEvent → Prop where
  | timedOut {x : Exchange} {left : Nat} {deadline now : Instant} (hx : s.exchange = some x)
      (hstage : x.stage = .reading left deadline) (hdue : deadline ≤ now) :
    Harm s (.hear now .expired)
  | nothingTaken {x : Exchange} {rest : Bytes} {now : Instant} (hx : s.exchange = some x)
      (hstage : x.stage = .writing rest) : Harm s (.hear now (.accepted 0))
  | writeFailed {x : Exchange} {rest : Bytes} {now : Instant} {fault : IoFault}
      (hx : s.exchange = some x) (hstage : x.stage = .writing rest) :
    Harm s (.hear now (.writeFailed fault))
  | flushFailed {x : Exchange} {now : Instant} {fault : IoFault} (hx : s.exchange = some x)
      (hstage : x.stage = .flushing) : Harm s (.hear now (.flushFailed fault))
  | readFailed {x : Exchange} {left : Nat} {deadline now : Instant} {fault : IoFault}
      (hx : s.exchange = some x) (hstage : x.stage = .reading left deadline) :
    Harm s (.hear now (.readFailed fault))
  | ended {x : Exchange} {left : Nat} {deadline now : Instant} (hx : s.exchange = some x)
      (hstage : x.stage = .reading left deadline) : Harm s (.hear now .ended)
  | abandoned (hx : s.exchange ≠ none) : Harm s .cancel
  | refused {timeout : Duration} (hx : s.exchange = none) (hstate : s.state ≠ .idle) :
    Harm s (.check timeout)
  | invalidated : Harm s .invalidate
  | closed : Harm s .close

theorem settle_ne_error {x : Exchange} {now : Instant} {left : Nat} {deadline : Instant}
    {fault : Fault} : (s.settle x now left deadline).2 ≠ some (.error fault) := by
  induction left generalizing s deadline with
  | zero => simp [settle, finish]
  | succ left ih =>
    rw [settle]
    split
    · simp
    · dsimp only
      split
      · simp [finish]
      · exact ih

/-- An exchange that hears something fails exactly when that is harm. -/
theorem harm_hear_iff (s : Session) (now : Instant) (stimulus : Stimulus) :
    s.Harm (.hear now stimulus) ↔ ∃ fault, (s.react now stimulus).2 = some (.error fault) := by
  constructor
  · intro h
    cases h with
    | timedOut hx hstage hdue =>
      rw [react, hx]
      simp only [hstage, if_pos hdue]
      exact ⟨_, rfl⟩
    | nothingTaken hx hstage | writeFailed hx hstage | flushFailed hx hstage
    | readFailed hx hstage | ended hx hstage =>
      rw [react, hx]
      simp only [hstage]
      exact ⟨_, rfl⟩
  · rintro ⟨fault, hfault⟩
    rw [react] at hfault
    split at hfault
    · contradiction
    -- Stage by stage, in the order of the moves: whatever is not harm goes on or brings a response.
    · rename_i x hx
      split at hfault
      · rename_i hstage
        split at hfault
        · rename_i hzero
          subst hzero
          exact .nothingTaken hx hstage
        · contradiction
      · exact .writeFailed hx ‹_›
      · exact absurd hfault settle_ne_error
      · exact .flushFailed hx ‹_›
      · exact absurd hfault settle_ne_error
      · exact .ended hx ‹_›
      · exact .readFailed hx ‹_›
      · rename_i hstage
        split at hfault
        · exact .timedOut hx hstage ‹_›
        · contradiction
      · contradiction

/-! ## What is left -/

/-- Not idle, and never again: invalid, or waiting for a response that nobody reads. -/
def Spoiled (s : Session) : Prop :=
  s.state = .invalid ∨ s.exchange = none ∧ s.state = .awaitingResponse

/-- An exchange in flight keeps a session from being idle. -/
def Steady (s : Session) : Prop := s.exchange ≠ none → s.state ≠ .idle

theorem Spoiled.not_idle (h : s.Spoiled) : s.state ≠ .idle := by
  rcases h with hstate | ⟨-, hstate⟩
  · rw [hstate]
    exact SessionState.noConfusion
  · rw [hstate]
    exact SessionState.noConfusion

theorem spoiled_of_at_rest (hrest : s.exchange = none) (hstate : s.state ≠ .idle) : s.Spoiled := by
  cases h : s.state with
  | idle => exact absurd h hstate
  | awaitingResponse => exact .inr ⟨hrest, h⟩
  | invalid => exact .inl h

/-- Nothing begins on a session that is not idle. -/
theorem undergo_send_of_not_idle (h : s.state ≠ .idle) (commands : List String) :
    s.undergo (.send commands) = s := by
  rw [undergo]
  split
  · rfl
  · exact absurd (of_send_inFlight ‹_›).1 h

theorem undergo_check_of_not_idle (h : s.state ≠ .idle) (timeout : Duration) :
    s.undergo (.check timeout) = s := by
  rw [undergo]
  split
  · rfl
  · exact absurd (of_check_inFlight ‹_›).1 h

/-- There is no way back, whatever happens. -/
theorem Spoiled.undergo (h : s.Spoiled) (event : SessionEvent) : (s.undergo event).Spoiled := by
  cases event with
  | send commands => rwa [undergo_send_of_not_idle h.not_idle]
  | check timeout => rwa [undergo_check_of_not_idle h.not_idle]
  | invalidate | close => exact .inl rfl
  | cancel => exact spoiled_of_at_rest rfl h.not_idle
  | hear now stimulus =>
    rcases h with hstate | ⟨hrest, hstate⟩
    -- An exchange may still be in flight on an invalid session; its end leaves the session invalid.
    · left
      have hmoved := moved_react s now stimulus
      rw [Session.undergo]
      generalize s.react now stimulus = moved at hmoved
      cases hmoved with
      | pending hsame _ => exact hsame.trans hstate
      | answered hcomplete _ => rw [hcomplete, hstate]; rfl
      | failed hinvalid _ => exact hinvalid
    · rw [Session.undergo, react_of_at_rest hrest]
      exact .inr ⟨hrest, hstate⟩

theorem Steady.undergo (h : s.Steady) (event : SessionEvent) : (s.undergo event).Steady := by
  cases event with
  | send commands =>
    rw [Session.undergo]
    split
    · exact h
    · obtain ⟨-, -, bytes, -, rfl⟩ := of_send_inFlight ‹_›
      exact fun _ => SessionState.noConfusion
  | check timeout =>
    rw [Session.undergo]
    split
    · exact h
    · obtain ⟨-, rfl⟩ := of_check_inFlight ‹_›
      exact fun _ => SessionState.noConfusion
  | invalidate | close => exact fun _ => SessionState.noConfusion
  | cancel => exact fun hx => absurd rfl hx
  | hear now stimulus =>
    have hmoved := moved_react s now stimulus
    rw [Session.undergo]
    generalize s.react now stimulus = moved at hmoved
    intro hx
    cases hmoved with
    | pending hsame hexchange =>
      rw [hsame]
      exact h (Option.isSome_iff_ne_none.mp (hexchange ▸ Option.isSome_iff_ne_none.mpr hx))
    | answered _ hrest => exact absurd hrest hx
    | failed _ hrest => exact absurd hrest hx

/-- Harm spoils a session. -/
theorem Harm.spoiled {event : SessionEvent} (h : s.Harm event) (hsteady : s.Steady) :
    (s.undergo event).Spoiled := by
  cases event with
  | hear now stimulus =>
    obtain ⟨fault, hfault⟩ := (harm_hear_iff s now stimulus).mp h
    have hmoved := moved_react s now stimulus
    rw [undergo]
    generalize s.react now stimulus = moved at hmoved hfault
    cases hmoved with
    | failed hinvalid _ => exact .inl hinvalid
    | pending | answered => simp at hfault
  | cancel =>
    cases h with
    | abandoned hx => exact spoiled_of_at_rest rfl (hsteady hx)
  | check timeout =>
    cases h with
    | refused hrest hstate =>
      rw [undergo_check_of_not_idle hstate]
      exact spoiled_of_at_rest hrest hstate
  | send commands => cases h
  | invalidate | close => exact .inl rfl

/-- Something in the past of a session has harmed it. -/
def Harmed (t : Session) : Prop :=
  ∃ (s : Session) (event : SessionEvent) (life : List SessionEvent),
    s.Steady ∧ s.Harm event ∧ t = life.foldl Session.undergo (s.undergo event)

theorem Spoiled.foldl (h : s.Spoiled) (life : List SessionEvent) :
    (life.foldl Session.undergo s).Spoiled := by
  induction life generalizing s with
  | nil => exact h
  | cons event life ih => exact ih (h.undergo event)

theorem Harmed.spoiled (h : s.Harmed) : s.Spoiled := by
  obtain ⟨t, event, life, hsteady, hharm, rfl⟩ := h
  exact (hharm.spoiled hsteady).foldl life

end Session

namespace Conversation

/-- The session of a conversation undergoes each of its events. -/
theorem session_step (c : Conversation) (event : SessionEvent) :
    (c.step event).1.session = c.session.undergo event := by
  cases event with
  | send commands => cases h : c.session.send commands <;> simp only [step, Session.undergo, h]
  | check timeout => cases h : c.session.check timeout <;> simp only [step, Session.undergo, h]
  | invalidate | close | cancel | hear => rfl

theorem session_run (c : Conversation) (events : List SessionEvent) :
    (c.run events).session = events.foldl Session.undergo c.session := by
  induction events generalizing c with
  | nil => rfl
  | cons event events ih =>
    rw [List.foldl_cons, ← session_step]
    exact ih (c.step event).1

end Conversation

end BroadcastLink
