import BroadcastLink.Proofs.Channel.Turns
import Mathlib.Data.List.Chain

/-!
# The attempts of a channel to connect

What an onlooker notes of a channel's attempts, turn by turn: when each began, the connection it
came to, whether that was reported, and when nothing was left of it. A turn ends no attempt and
begins the next, and the listener's rest makes up the whole time between them.
-/

namespace BroadcastLink

/-- An attempt to connect: when it began, the connection it came to, whether the channel was ever
reported connected by it, and since when nothing is left of it. -/
structure ConnectAttempt where
  begunAt : Instant
  line : Option LineId := none
  isReported : Bool := false
  clearedAt : Option Instant := none
  deriving DecidableEq, Repr

/-- The attempts so far: the current one, and those before it, the last one first. -/
structure Attempts where
  current : ConnectAttempt
  past : List ConnectAttempt := []
  deriving DecidableEq, Repr

namespace Stance

/-- Nothing is left of the last attempt: the listener is done with it, and no writer is there. -/
def isClear (s : Stance) : Bool := !s.listener.isTrying && s.writer.isNone

/-- Is the connection in use, to read from or to write on? -/
def Holds (s : Stance) (line : LineId) : Prop :=
  s.listener.line? = some line ∨ s.writer = some line

end Stance

/-- What a turn shows of the attempt that it is a turn of. -/
def ConnectAttempt.note (a : ConnectAttempt) (now : Instant) (s s' : Stance) : ConnectAttempt where
  begunAt := a.begunAt
  line := s'.listener.line?.or a.line
  isReported := a.isReported || (s'.connected && !s.connected)
  clearedAt := if s'.isClear && !s.isClear then some now else a.clearedAt

namespace Attempts

/-- The attempts, the last one first. -/
def all (a : Attempts) : List ConnectAttempt := a.current :: a.past

/-- What a turn shows: the next attempt begins where the listener begins to connect. -/
def note (a : Attempts) (now : Instant) (s s' : Stance) : Attempts :=
  if s'.listener.isDialling && !s.listener.isDialling then ⟨{ begunAt := now }, a.all⟩
  else { a with current := a.current.note now s s' }

/-- How often the channel was reported connected. -/
def reports (a : Attempts) : Nat := a.all.countP (·.isReported)

end Attempts

/-- An attempt begins just when the listener has rested since nothing was left of the one before. -/
def ConnectAttempt.Follows (delay : Duration) (later earlier : ConnectAttempt) : Prop :=
  ∃ cleared, earlier.clearedAt = some cleared ∧ later.begunAt = delay.after cleared

namespace Stance

variable {now : Instant} {s s' : Stance} {a : ConnectAttempt}

/-- What is known of the current attempt, by what the listener is at. -/
def Fits (s : Stance) (now : Instant) (a : ConnectAttempt) : Prop :=
  match s.listener with
  | .dialling _ =>
    s.writer = none ∧ s.connected = false ∧
      a.line = none ∧ a.isReported = false ∧ a.clearedAt = none
  | .greeting line _ | .installing line =>
    s.writer = none ∧ s.connected = false ∧
      a.line = some line ∧ a.isReported = false ∧ a.clearedAt = none
  | .reading line =>
    (∀ other, s.writer = some other → other = line) ∧ s.connected = true ∧
      a.line = some line ∧ a.isReported = true ∧ a.clearedAt = none
  | .removing =>
    (∀ line, s.writer = some line → a.line = some line ∧ a.clearedAt = none) ∧
      (s.writer = none → a.clearedAt = some now) ∧ (s.connected = true → a.isReported = true)
  | .resting wakeAt =>
    s.writer = none ∧ s.connected = false ∧ now ≤ wakeAt ∧
      ∃ cleared, a.clearedAt = some cleared ∧ wakeAt = s.delay.after cleared
  | .over => s.writer = none ∧ s.connected = false

/-- A connection in use is the one that the current attempt came to. -/
theorem Fits.held (h : s.Fits now a) {line : LineId} (hholds : s.Holds line) :
    a.line = some line := by
  unfold Fits at h
  rcases hholds with hlistener | hwriter
  · cases hstage : s.listener with
    | greeting other rest | installing other | reading other =>
      rw [hstage] at h hlistener
      obtain rfl := Option.some.inj hlistener
      exact h.2.2.1
    | dialling | removing | resting | «over» =>
      rw [hstage] at hlistener
      contradiction
  · cases hstage : s.listener with
    | reading other =>
      rw [hstage] at h
      exact h.1 line hwriter ▸ h.2.2.1
    | removing =>
      rw [hstage] at h
      exact (h.1 line hwriter).1
    | dialling | greeting | installing | resting | «over» =>
      rw [hstage] at h
      exact absurd (h.1.symm.trans hwriter) (Option.some_ne_none line).symm

/-- A channel is connected only by an attempt that was reported. -/
theorem Fits.reported (h : s.Fits now a) (hconnected : s.connected = true) :
    a.isReported = true := by
  unfold Fits at h
  cases hstage : s.listener with
  | reading => exact (hstage ▸ h).2.2.2.1
  | removing => exact (hstage ▸ h).2.2 hconnected
  | dialling | greeting | installing | resting =>
    rw [hstage] at h
    exact absurd (h.2.1.symm.trans hconnected) Bool.false_ne_true
  | «over» =>
    rw [hstage] at h
    exact absurd (h.2.symm.trans hconnected) Bool.false_ne_true

/-- Without a turn there is nothing to note. -/
theorem note_same (h : s.Fits now a) : a.note now s s = a := by
  have hline : s.listener.line?.or a.line = a.line := by
    cases hstage : s.listener.line? with
    | none => rfl
    | some line => exact (h.held (.inl hstage)).symm
  obtain ⟨begunAt, line, isReported, clearedAt⟩ := a
  simp [ConnectAttempt.note, hline]

/-- Where no writer is there, none is taken away. -/
theorem severed_of_none (h : s.writer = none) : s.severed = s := by
  obtain ⟨listener, writer, connected, connections, hungUp, delay⟩ := s
  obtain rfl : writer = none := h
  rw [severed]
  simp

/-- A writer is there only while the listener reads, or is about to take it away. -/
theorem Fits.stage (h : s.Fits now a) {line : LineId} (hwriter : s.writer = some line) :
    s.listener = .reading line ∨ s.listener = .removing := by
  unfold Fits at h
  cases hstage : s.listener with
  | reading other =>
    rw [hstage] at h
    exact .inl (h.1 line hwriter ▸ rfl)
  | removing => exact .inr rfl
  | dialling | greeting | installing | resting | «over» =>
    rw [hstage] at h
    exact absurd (h.1.symm.trans hwriter) (Option.some_ne_none line).symm

/-- As long as the listener is not done with it, something is left of an attempt. -/
theorem Fits.uncleared (h : s.Fits now a) (htrying : s.listener.isTrying = true) :
    a.clearedAt = none := by
  unfold Fits at h
  cases hstage : s.listener with
  | dialling | greeting | installing | reading =>
    rw [hstage] at h
    exact h.2.2.2.2
  | removing | resting | «over» =>
    rw [hstage] at htrying
    contradiction

theorem isClear_of_trying (htrying : s.listener.isTrying = true) : s.isClear = false := by
  rw [isClear, htrying]
  rfl

/-! ## Turns -/

/-- Only where the channel comes to be connected a report is noted. -/
theorem isReported_note (a : ConnectAttempt) (now : Instant)
    (h : s'.connected = true → s.connected = true) :
    (a.note now s s').isReported = a.isReported := by
  rw [ConnectAttempt.note]
  cases hafter : s'.connected with
  | false => simp
  | true => simp [h hafter]

/-- The writer is taken away: nothing is left of the connection if the listener is done with it. -/
theorem Fits.severed (h : s.Fits now a) : s.severed.Fits now (a.note now s s.severed) := by
  cases hwriter : s.writer with
  | none =>
    rw [severed_of_none hwriter, note_same h]
    exact h
  | some line =>
    have hreported : (a.note now s s.severed).isReported = a.isReported := isReported_note a now id
    obtain ⟨listener, writer, connected, connections, hungUp, delay⟩ := s
    obtain rfl : writer = some line := hwriter
    rcases h.stage rfl with rfl | rfl
    -- The listener has yet to notice, and reads on.
    · obtain ⟨-, hconnected, -, hbefore, hcleared⟩ := h
      exact ⟨fun other hnone => by contradiction, hconnected, rfl, hreported.trans hbefore,
        hcleared⟩
    -- The listener only waited for the lock.
    · obtain ⟨-, -, hbefore⟩ := h
      exact ⟨fun other hnone => by contradiction, fun _ => rfl,
        fun hconnected => hreported.trans (hbefore hconnected)⟩

/-- The listener is done with its connection. While the writer is still there, something is left. -/
theorem Fits.leaves (h : s.Fits now a) (htrying : s.listener.isTrying = true)
    (hungUp : List LineId) :
    let s' : Stance := { s with listener := .removing, hungUp := hungUp }
    s'.Fits now (a.note now s s') := by
  intro s'
  have hclear : (a.note now s s').clearedAt =
      if s.writer.isNone then some now else a.clearedAt := by
    rw [ConnectAttempt.note, isClear_of_trying htrying]
    simp [s', isClear, ListenerStage.isTrying]
  refine ⟨fun line hwriter => ⟨?_, ?_⟩, fun hwriter => ?_, fun hconnected => ?_⟩
  · exact h.held (.inr hwriter)
  · rw [hclear, show s.writer = some line from hwriter]
    exact h.uncleared htrying
  · rw [hclear, show s.writer = none from hwriter]
    rfl
  · exact (isReported_note a now id).trans (h.reported hconnected)

/-- Nothing is left of the attempt since now, or since before the lock was there for the listener,
which was now as well. -/
theorem Fits.clearedAt_note (h : s.Fits now a)
    (hbefore : s.listener.isTrying = true ∨ s.listener = .removing) (hclear : s'.isClear = true) :
    (a.note now s s').clearedAt = some now := by
  rw [ConnectAttempt.note, hclear]
  cases hwas : s.isClear with
  | false => rfl
  | true =>
    rcases hbefore with htrying | hremoving
    · rw [isClear_of_trying htrying] at hwas
      contradiction
    · rw [Fits, hremoving] at h
      rw [isClear, hremoving] at hwas
      exact h.2.1 (Option.isNone_iff_eq_none.mp hwas)

/-- The listener rests from now on, or is over. -/
theorem Fits.clears (h : s.Fits now a)
    (hbefore : s.listener.isTrying = true ∨ s.listener = .removing) (hwriter : s'.writer = none)
    (hconnected : s'.connected = false)
    (hstage : s'.listener = .over ∨ s'.listener = .resting (s'.delay.after now)) :
    s'.Fits now (a.note now s s') := by
  unfold Fits
  rcases hstage with hover | hresting
  · rw [hover]
    exact ⟨hwriter, hconnected⟩
  · have hclear : s'.isClear = true := by
      rw [isClear, hresting, hwriter]
      rfl
    rw [hresting]
    exact ⟨hwriter, hconnected, Nat.le_add_right _ _, now, h.clearedAt_note hbefore hclear, rfl⟩

/-- Before the writer is there, nothing is reported. -/
theorem Fits.early (h : s.Fits now a) {line : LineId}
    (hbefore : (∃ rest, s.listener = .greeting line rest) ∨ s.listener = .installing line) :
    s.connected = false ∧ a.isReported = false ∧ a.clearedAt = none := by
  unfold Fits at h
  rcases hbefore with ⟨rest, hgreeting⟩ | hinstalling
  · rw [hgreeting] at h
    exact ⟨h.2.1, h.2.2.2⟩
  · rw [hinstalling] at h
    exact ⟨h.2.1, h.2.2.2⟩

/-- The writer is there, and the channel connected. -/
theorem Fits.reports (h : s.Fits now a) {line : LineId}
    (hbefore : (∃ rest, s.listener = .greeting line rest) ∨ s.listener = .installing line)
    (hlistener : s'.listener = .reading line) (hwriter : s'.writer = some line)
    (hconnected : s'.connected = true) : s'.Fits now (a.note now s s') := by
  obtain ⟨hunconnected, -, hcleared⟩ := h.early hbefore
  unfold Fits
  rw [hlistener]
  refine ⟨fun other hother => Option.some.inj (hother.symm.trans hwriter), hconnected, ?_, ?_, ?_⟩
  · rw [ConnectAttempt.note, hlistener]
    rfl
  · rw [ConnectAttempt.note, hconnected, hunconnected]
    exact Bool.or_true _
  · rw [ConnectAttempt.note, isClear_of_trying (by rw [hlistener]; rfl)]
    exact hcleared

/-- A turn keeps what is known of the attempt, or begins the next one. -/
theorem Fits.turn (h : s.Fits now a) (hturn : Turn now s s')
    (hdials : s'.listener.isDialling = true → s.listener.isDialling = true) :
    s'.Fits now (a.note now s s') := by
  cases hturn with
  | same => exact (note_same h).symm ▸ h
  | severs => exact h.severed
  | opens line hlistener =>
    rw [Fits, hlistener] at h
    obtain ⟨hwriter, hconnected, -, hreported, hcleared⟩ := h
    exact ⟨hwriter, hconnected, rfl, (isReported_note a now id).trans hreported, hcleared⟩
  | greets left hlistener =>
    rw [Fits, hlistener] at h
    obtain ⟨hwriter, hconnected, hline, hreported, hcleared⟩ := h
    exact ⟨hwriter, hconnected, rfl, (isReported_note a now id).trans hreported, hcleared⟩
  | waits hlistener =>
    rw [Fits, hlistener] at h
    obtain ⟨hwriter, hconnected, hline, hreported, hcleared⟩ := h
    exact ⟨hwriter, hconnected, rfl, (isReported_note a now id).trans hreported, hcleared⟩
  | reports hlistener => exact h.reports hlistener rfl rfl rfl
  | leaves htrying hdropped => exact h.leaves htrying _
  | clears hbefore hdropped hstage => exact h.clears hbefore rfl rfl hstage
  | ends hlistener =>
    rw [Fits, hlistener] at h
    exact ⟨h.1, h.2.1⟩
  | dials deadline hlistener hdue =>
    rw [hlistener] at hdials
    exact absurd (hdials rfl) Bool.false_ne_true

/-! ## Connections in use -/

/-- A connection goes out of use only by being hung up. -/
theorem Fits.hangsUp (h : s.Fits now a) (hturn : Turn now s s') {line : LineId}
    (hbefore : s.Holds line ∨ line ∈ s.hungUp) : s'.Holds line ∨ line ∈ s'.hungUp := by
  cases hturn with
  | same => exact hbefore
  | severs =>
    rcases hbefore with (hline | hwriter) | hgone
    · exact .inl (.inl hline)
    · exact .inr (List.mem_append_right _ (Option.mem_toList.mpr hwriter))
    · exact .inr (List.mem_append_left _ hgone)
  | opens other hlistener | ends hlistener | dials deadline hlistener hdue =>
    refine hbefore.imp_left fun hholds => ?_
    rcases hholds with hline | hwriter
    · rw [hlistener] at hline
      contradiction
    · exact .inr hwriter
  | greets left hlistener | waits hlistener =>
    refine hbefore.imp_left fun hholds => ?_
    rcases hholds with hline | hwriter
    · rw [hlistener] at hline
      exact .inl hline
    · exact .inr hwriter
  | reports hlistener =>
    refine hbefore.imp_left fun hholds => ?_
    rcases hholds with hline | hwriter
    · rcases hlistener with ⟨rest, hgreeting⟩ | hinstalling
      · rw [hgreeting] at hline
        exact .inl hline
      · rw [hinstalling] at hline
        exact .inl hline
    · -- Before the report there was no writer.
      rcases h.stage hwriter with heq | heq <;> rw [heq] at hlistener <;> simp at hlistener
  | leaves htrying hdropped =>
    rcases hbefore with (hline | hwriter) | hgone
    · rcases hdropped line hline with hwriter | hmem
      · exact .inl (.inr hwriter)
      · exact .inr (List.mem_append_right _ hmem)
    · exact .inl (.inr hwriter)
    · exact .inr (List.mem_append_left _ hgone)
  | @clears dropped stage _ hdropped _ =>
    -- The listener's side is hung up unless it is the writer's, and the writer's is in any case.
    right
    show line ∈ s.hungUp ++ dropped ++ s.writer.toList
    rcases hbefore with (hline | hwriter) | hgone
    · rcases hdropped line hline with hwriter | hmem
      · exact List.mem_append_right _ (Option.mem_toList.mpr hwriter)
      · exact List.mem_append_left _ (List.mem_append_right _ hmem)
    · exact List.mem_append_right _ (Option.mem_toList.mpr hwriter)
    · exact List.mem_append_left _ (List.mem_append_left _ hgone)

end Stance

namespace Attempts

open Stance (Turn)

variable {now : Instant} {s s' : Stance} {a a' : Attempts} {delay : Duration}

/-- What a turn can make of the attempts: the next one begins when the last one's rest is over, or
the current one goes on, and is reported when the listener comes to read. -/
inductive Goes (now : Instant) (s s' : Stance) (a : Attempts) : Attempts → Prop
  | begins {cleared : Instant} (hcleared : a.current.clearedAt = some cleared)
      (hnow : now = s.delay.after cleared) (hconnections : s'.connections = s.connections) :
      Goes now s s' a ⟨{ begunAt := now }, a.all⟩
  | continues {b : ConnectAttempt} (hbegun : b.begunAt = a.current.begunAt)
      (hreported : b.isReported = a.current.isReported)
      (hline : b.isReported = true → b.line = a.current.line)
      (hconnections : s'.connections = s.connections) : Goes now s s' a { a with current := b }
  | reports {b : ConnectAttempt} {line : LineId} (hbegun : b.begunAt = a.current.begunAt)
      (hbefore : a.current.isReported = false) (hreported : b.isReported = true)
      (hlistener : s'.listener = .reading line) (hline : b.line = some line)
      (hconnections : s'.connections = s.connections + 1) : Goes now s s' a { a with current := b }

/-- A turn by which the listener does not begin to connect is noted for the current attempt. -/
theorem note_of_same (h : s'.listener.isDialling = true → s.listener.isDialling = true) :
    a.note now s s' = { a with current := a.current.note now s s' } := by
  rw [note]
  cases hafter : s'.listener.isDialling with
  | false => rfl
  | true =>
    rw [h hafter]
    rfl

/-- An attempt that goes on keeps its connection. -/
theorem goes_on (h : s.Fits now a.current)
    (hdials : s'.listener.isDialling = true → s.listener.isDialling = true)
    (hconnected : s'.connected = true → s.connected = true)
    (hline : a.current.isReported = true →
      s'.listener.line? = none ∨ s'.listener.line? = s.listener.line?)
    (hconnections : s'.connections = s.connections) : Goes now s s' a (a.note now s s') := by
  have hreported := Stance.isReported_note a.current now hconnected
  rw [note_of_same hdials]
  refine .continues rfl hreported (fun hafter => ?_) hconnections
  rw [ConnectAttempt.note]
  rcases hline (hreported ▸ hafter) with hnone | hsame
  · rw [hnone]
    rfl
  · rw [hsame]
    cases hstage : s.listener.line? with
    | none => rfl
    | some line => exact (h.held (.inl hstage)).symm

theorem goes_note (h : s.Fits now a.current) (hturn : Turn now s s') :
    Goes now s s' a (a.note now s s') := by
  cases hturn with
  | same | severs => exact goes_on h id id (fun _ => .inr rfl) rfl
  | opens line hlistener =>
    -- The attempt gets its connection here, but was not reported before.
    refine goes_on h (fun hdials => by contradiction) id (fun hreported => ?_) rfl
    rw [Stance.Fits, hlistener] at h
    rw [h.2.2.2.1] at hreported
    contradiction
  | greets left hlistener | waits hlistener =>
    refine goes_on h (fun hdials => by contradiction) id (fun _ => .inr ?_) rfl
    rw [hlistener]
    rfl
  | @reports line hlistener =>
    obtain ⟨-, -, hline, hreported, -⟩ := h.turn (.reports hlistener) fun hdials => by contradiction
    rw [note_of_same fun hdials => by contradiction]
    exact .reports rfl (h.early hlistener).2.1 hreported rfl hline rfl
  | leaves htrying hdropped =>
    exact goes_on h (fun hdials => by contradiction) id (fun _ => .inl rfl) rfl
  | clears hbefore hdropped hstage =>
    rcases hstage with rfl | rfl
    · exact goes_on h (fun hdials => by contradiction) (fun hafter => by contradiction)
        (fun _ => .inl rfl) rfl
    · exact goes_on h (fun hdials => by contradiction) (fun hafter => by contradiction)
        (fun _ => .inl rfl) rfl
  | ends hlistener => exact goes_on h (fun hdials => by contradiction) id (fun _ => .inl rfl) rfl
  | dials deadline hlistener hdue =>
    rw [Stance.Fits, hlistener] at h
    obtain ⟨-, -, hnow, cleared, hcleared, hwake⟩ := h
    have hbegins : a.note now s { s with listener := .dialling deadline } =
        ⟨{ begunAt := now }, a.all⟩ := by
      rw [note, hlistener]
      rfl
    rw [hbegins]
    exact .begins hcleared ((Nat.le_antisymm hnow hdue).trans hwake) rfl

/-- The next attempt has come to nothing yet. -/
theorem fits_note (h : s.Fits now a.current) (hturn : Turn now s s') :
    s'.Fits now (a.note now s s').current := by
  by_cases hdials : s'.listener.isDialling = true → s.listener.isDialling = true
  · rw [note_of_same hdials]
    exact h.turn hturn hdials
  · cases hturn with
    | same | severs => exact absurd id hdials
    | opens | greets | waits | reports | leaves | ends =>
      exact absurd (fun hafter => by contradiction) hdials
    | clears hbefore hdropped hstage =>
      rcases hstage with rfl | rfl <;> exact absurd (fun hafter => by contradiction) hdials
    | dials deadline hlistener hdue =>
      rw [Stance.Fits, hlistener] at h
      rw [note, hlistener]
      exact ⟨h.1, h.2.1, rfl, rfl, rfl⟩

/-! ## All attempts -/

/-- The attempts follow each other after the delay, each that was reported is counted, and it came
to a connection that was greeted. -/
structure Regular (delay : Duration) (connections : UInt64) (greeted : LineId → Prop)
    (a : Attempts) : Prop where
  spaced : a.all.IsChain (ConnectAttempt.Follows delay)
  counted : connections = UInt64.ofNat a.reports
  greeted : ∀ b ∈ a.all, b.isReported = true → ∃ line, b.line = some line ∧ greeted line

/-- What becomes of an attempt has nothing to do with when it began. -/
theorem spaced_of_begunAt {b c : ConnectAttempt} {past : List ConnectAttempt}
    (h : (c :: past).IsChain (ConnectAttempt.Follows delay)) (hbegun : b.begunAt = c.begunAt) :
    (b :: past).IsChain (ConnectAttempt.Follows delay) := by
  cases past with
  | nil => exact .singleton b
  | cons earlier past =>
    obtain ⟨⟨cleared, hcleared, hfollows⟩, hrest⟩ := List.isChain_cons_cons.mp h
    exact .cons_cons ⟨cleared, hcleared, hbegun.trans hfollows⟩ hrest

theorem Regular.goes {greeted greeted' : LineId → Prop}
    (h : a.Regular s.delay s.connections greeted) (hgoes : Goes now s s' a a')
    (hstay : ∀ line, greeted line → greeted' line)
    (hreading : ∀ line, s'.listener = .reading line → greeted' line) :
    a'.Regular s.delay s'.connections greeted' := by
  have hold : ∀ b ∈ a.all, b.isReported = true → ∃ line, b.line = some line ∧ greeted' line :=
    fun b hb hreported => (h.greeted b hb hreported).imp fun line hline =>
      hline.imp_right (hstay line)
  cases hgoes with
  | begins hcleared hnow hconnections =>
    refine ⟨.cons_cons ⟨_, hcleared, hnow⟩ h.spaced, ?_, fun b hb hreported => ?_⟩
    · rw [hconnections, h.counted]
      rfl
    · rcases List.mem_cons.mp hb with rfl | hb
      · contradiction
      · exact hold b hb hreported
  | @continues b hbegun hreported hline hconnections =>
    refine ⟨spaced_of_begunAt h.spaced hbegun, ?_, fun c hc hafter => ?_⟩
    · rw [hconnections, h.counted, reports, reports, all, all, List.countP_cons, List.countP_cons,
        hreported]
    · rcases List.mem_cons.mp hc with rfl | hc
      · obtain ⟨line, hthere, hgreeted⟩ :=
          hold a.current List.mem_cons_self (hreported ▸ hafter)
        exact ⟨line, (hline hafter).trans hthere, hgreeted⟩
      · exact hold c (List.mem_cons_of_mem _ hc) hafter
  | @reports b line hbegun hbefore hreported hlistener hline hconnections =>
    refine ⟨spaced_of_begunAt h.spaced hbegun, ?_, fun c hc hafter => ?_⟩
    · have hmore : ({ a with current := b } : Attempts).reports = a.reports + 1 := by
        rw [reports, reports, all, all, List.countP_cons, List.countP_cons, hreported, hbefore]
        rfl
      rw [hconnections, h.counted, hmore, UInt64.ofNat_add]
      rfl
    · rcases List.mem_cons.mp hc with rfl | hc
      · exact ⟨line, hline, hreading line hlistener⟩
      · exact hold c (List.mem_cons_of_mem _ hc) hafter

end Attempts

end BroadcastLink
