import BroadcastLink.Hub
import Mathlib.Algebra.Group.Nat.Defs
import Mathlib.Data.List.Basic
import Mathlib.Data.Nat.Log

/-!
# A mailbox for each subscriber

What a hub looks like to those who use it: no topics that come and go, only a mailbox for each
subscriber. A mailbox holds the latest messages sent on its topic since it was set up, as many as
there is room for, and the number of those that were pushed out unread; that number is reported
before the next message. Sweeping does nothing here.
-/

namespace BroadcastLink

/-! ## Dealing with a hub -/

/-- What is done with a hub. -/
inductive HubEvent where
  | subscribe (name topic : String)
  | unsubscribe (name : String)
  | send (topic payload : String)
  | publish (p : Publication)
  | receive (name : String)
  | count (topic : String)
  /-- An explicit sweep, or the next one of a periodic sweeping. -/
  | sweep
  /-- The last reference to the hub goes. -/
  | close
  deriving DecidableEq, Repr

/-- What is learnt from it. -/
inductive HubOutcome where
  | done
  | receivers (n : Nat)
  /-- What a receiver found, if there is one of that name. -/
  | received (found : Option Receipt)
  deriving DecidableEq, Repr

/-- Events in a row, each with its outcome. -/
def traced {σ : Type} (perform : σ → HubEvent → σ × HubOutcome) (s : σ) :
    List HubEvent → List (HubEvent × HubOutcome)
  | [] => []
  | e :: rest => (e, (perform s e).2) :: traced perform (perform s e).1 rest

/-- The state behind events in a row. -/
def afterAll {σ : Type} (perform : σ → HubEvent → σ × HubOutcome) (s : σ)
    (events : List HubEvent) : σ :=
  events.foldl (fun s e => (perform s e).1) s

/-- One event on a hub. -/
def Hub.perform (h : Hub) : HubEvent → Hub × HubOutcome
  | .subscribe name topic => (h.subscribe name topic, .done)
  | .unsubscribe name => (h.unsubscribe name, .done)
  | .send topic payload => ((h.send topic payload).1, .receivers (h.send topic payload).2)
  | .publish p => ((h.publish p).1, .receivers (h.publish p).2)
  | .receive name => ((h.receive name).1, .received (h.receive name).2)
  | .count topic => (h, .receivers (h.subscriberCount topic))
  | .sweep => (h.sweep, .done)
  | .close => (h.close, .done)

/-! ## Mailboxes -/

/-- What one subscriber has coming: its topic, the messages kept for it, oldest first, and how many
it missed before them. -/
structure Mailbox where
  topic : String
  waiting : List String := []
  missed : Nat := 0
  deriving DecidableEq, Repr

namespace Mailbox

/-- Put a message in; in a full box the oldest one makes place. -/
def deliver (room : Nat) (b : Mailbox) (payload : String) : Mailbox :=
  if b.waiting.length < room then { b with waiting := b.waiting ++ [payload] }
  else { b with waiting := b.waiting.tail ++ [payload], missed := b.missed + 1 }

/-- Take out what comes next: the number of missed messages, then one message after another. -/
def collect (isOpen : Bool) (b : Mailbox) : Mailbox × Receipt :=
  if b.missed = 0 then
    match b.waiting with
    | payload :: rest => ({ b with waiting := rest }, .message ⟨b.topic, payload⟩)
    | [] => (b, if isOpen then .empty else .closed)
  else ({ b with missed := 0 }, .lagged b.missed)

end Mailbox

/-- All mailboxes, under their owners' names. -/
structure Mailroom where
  /-- How many messages fit in a box. -/
  room : Nat
  boxes : Roster String Mailbox := {}
  isOpen : Bool := true
  deriving DecidableEq, Repr

namespace Mailroom

/-- No boxes yet; each will hold `capacity` messages, rounded up to a power of two. -/
def ofCapacity (capacity : Nat) : Mailroom := { room := 2 ^ Nat.clog 2 capacity }

/-- How many boxes there are for a topic. -/
def receivers (m : Mailroom) (topic : String) : Nat :=
  m.boxes.values.countP fun b => b.topic == topic

/-- Deliver to each box of a topic. -/
def send (m : Mailroom) (topic payload : String) : Mailroom :=
  { m with boxes := m.boxes.mapEntries fun _ b =>
      if b.topic = topic then b.deliver m.room payload else b }

/-- The owner of a box takes out what comes next. -/
def receive (m : Mailroom) (name : String) : Mailroom × Option Receipt :=
  match m.boxes.get? name with
  | none => (m, none)
  | some b =>
    ({ m with boxes := m.boxes.put name (b.collect m.isOpen).1 }, some (b.collect m.isOpen).2)

/-- One event on the mailboxes. -/
def perform (m : Mailroom) : HubEvent → Mailroom × HubOutcome
  | .subscribe name topic => ({ m with boxes := m.boxes.put name { topic := topic } }, .done)
  | .unsubscribe name => ({ m with boxes := m.boxes.erase name }, .done)
  | .send topic payload => (m.send topic payload, .receivers (m.receivers topic))
  | .publish p => (m.send p.topic p.payload, .receivers (m.receivers p.topic))
  | .receive name => ((m.receive name).1, .received (m.receive name).2)
  | .count topic => (m, .receivers (m.receivers topic))
  | .sweep => (m, .done)
  | .close => ({ m with isOpen := false }, .done)

/-- Sweeps could as well be left out. -/
theorem traced_filter_sweep (m : Mailroom) (events : List HubEvent) :
    (traced perform m events).filter (·.1 ≠ .sweep) =
      traced perform m (events.filter (· ≠ .sweep)) := by
  induction events generalizing m with
  | nil => rfl
  | cons e rest ih =>
    by_cases he : e = .sweep
    · subst he
      simpa [traced, perform] using ih m
    · simpa [traced, he] using ih (m.perform e).1

end Mailroom

/-! ## What a subscriber sees -/

/-- The payload an event sends on a topic. -/
def HubEvent.payloadOn? (topic : String) : HubEvent → Option String
  | .send t payload => if t = topic then some payload else none
  | .publish p => if p.topic = topic then some p.payload else none
  | _ => none

/-- Does the event begin or end a subscription of that name? -/
def HubEvent.Renews (name : String) : HubEvent → Prop
  | .subscribe other _ => other = name
  | .unsubscribe other => other = name
  | _ => False

instance (name : String) : DecidablePred (HubEvent.Renews name)
  | .subscribe other _ => inferInstanceAs (Decidable (other = name))
  | .unsubscribe other => inferInstanceAs (Decidable (other = name))
  | .send .. | .publish _ | .receive _ | .count _ | .sweep | .close => .isFalse id

/-- What is still due to a subscriber before and after an event: messages in the order in which they
were sent, of which each is received once or counted as missed. -/
inductive Due (name topic : String) : List String → HubEvent × HubOutcome → List String → Prop where
  | sent {due payload e o} (h : HubEvent.payloadOn? topic e = some payload) :
      Due name topic due (e, o) (due ++ [payload])
  | message {payload due} :
      Due name topic (payload :: due)
        (.receive name, .received (some (.message ⟨topic, payload⟩))) due
  | lagged {n due} (some_missed : 0 < n) (not_all : n < due.length) :
      Due name topic due (.receive name, .received (some (.lagged n))) (due.drop n)
  | nothing {r} (h : r = .empty ∨ r = .closed) :
      Due name topic [] (.receive name, .received (some r)) []
  | other {due e o} (silent : HubEvent.payloadOn? topic e = none) (h : e ≠ .receive name) :
      Due name topic due (e, o) due

/-- What is due before and after events in a row. -/
inductive Dues (name topic : String) :
    List String → List (HubEvent × HubOutcome) → List String → Prop where
  | nil {due} : Dues name topic due [] due
  | cons {due next last e rest} (first : Due name topic due e next)
      (later : Dues name topic next rest last) : Dues name topic due (e :: rest) last

namespace Mailbox

/-- A box accounts for what is due: first as many as it counts as missed, then those that wait in
it. Messages are missed only while the box is full. -/
structure Covers (room : Nat) (due : List String) (b : Mailbox) : Prop where
  waiting : b.waiting = due.drop b.missed
  full : b.missed ≠ 0 → b.waiting.length = room
  fits : b.waiting.length ≤ room

variable {room : Nat} {due : List String} {b : Mailbox}

theorem Covers.deliver (h : b.Covers room due) (some_room : 0 < room) (payload : String) :
    (b.deliver room payload).Covers room (due ++ [payload]) := by
  have hlength : b.waiting.length = due.length - b.missed := by rw [h.waiting, List.length_drop]
  have hfits := h.fits
  unfold Mailbox.deliver
  split
  · rename_i hroom
    have hmissed : b.missed = 0 := by
      by_contra hne
      exact absurd (h.full hne) (by omega)
    exact ⟨by simp [h.waiting, hmissed], by simp [hmissed], by simpa [Nat.succ_le_iff] using hroom⟩
  · refine ⟨?_, fun _ => ?_, ?_⟩
    · show b.waiting.tail ++ [payload] = (due ++ [payload]).drop (b.missed + 1)
      rw [List.drop_append_of_le_length (by omega), h.waiting, List.tail_drop]
    · simp only [List.length_append, List.length_tail, List.length_singleton]
      omega
    · simp only [List.length_append, List.length_tail, List.length_singleton]
      omega

theorem deliver_topic (room : Nat) (b : Mailbox) (payload : String) :
    (b.deliver room payload).topic = b.topic := by
  unfold Mailbox.deliver
  split <;> rfl

theorem collect_topic (b : Mailbox) (isOpen : Bool) : (b.collect isOpen).1.topic = b.topic := by
  unfold Mailbox.collect
  repeat' split
  all_goals rfl

/-- What is taken out of a box is what is due next. -/
theorem Covers.collect {name : String} (h : b.Covers room due) (some_room : 0 < room)
    (isOpen : Bool) :
    ∃ next, Due name b.topic due (.receive name, .received (some (b.collect isOpen).2)) next ∧
      (b.collect isOpen).1.Covers room next := by
  have hlength : b.waiting.length = due.length - b.missed := by rw [h.waiting, List.length_drop]
  unfold Mailbox.collect
  by_cases hmissed : b.missed = 0
  · have hdue : due = b.waiting := by rw [h.waiting, hmissed, List.drop_zero]
    have hfits := h.fits
    rw [if_pos hmissed]
    cases hwaiting : b.waiting with
    | nil =>
      rw [hdue, hwaiting]
      refine ⟨[], .nothing ?_, by simp [hwaiting, hmissed], by simp [hmissed], by simp [hwaiting]⟩
      cases isOpen <;> simp
    | cons payload rest =>
      rw [hdue, hwaiting]
      rw [hwaiting, List.length_cons] at hfits
      exact ⟨rest, .message, by simp [hmissed], by simp [hmissed], by dsimp only; omega⟩
  · have hfull := h.full hmissed
    rw [if_neg hmissed]
    exact ⟨due.drop b.missed, .lagged (by omega) (by omega), by simp [h.waiting], by simp, h.fits⟩

end Mailbox

namespace Mailroom

variable {m : Mailroom} {name topic : String} {due : List String}

/-- The box under a name is for a topic and accounts for what is due. -/
def Holds (m : Mailroom) (name topic : String) (due : List String) : Prop :=
  ∃ b, m.boxes.get? name = some b ∧ b.topic = topic ∧ b.Covers m.room due

theorem Holds.send {t : String} (h : m.Holds name topic due) (some_room : 0 < m.room)
    (payload : String) :
    (m.send t payload).Holds name topic (if t = topic then due ++ [payload] else due) := by
  obtain ⟨b, hbox, rfl, hcovers⟩ := h
  by_cases ht : t = b.topic
  · subst ht
    rw [if_pos rfl]
    exact ⟨b.deliver m.room payload, by simp [Mailroom.send, hbox],
      Mailbox.deliver_topic m.room b payload, hcovers.deliver some_room payload⟩
  · rw [if_neg ht]
    exact ⟨b, by simp [Mailroom.send, hbox, Ne.symm ht], rfl, hcovers⟩

@[simp] theorem perform_room (m : Mailroom) (e : HubEvent) : (m.perform e).1.room = m.room := by
  cases e <;> simp only [perform, Mailroom.send]
  unfold Mailroom.receive
  split <;> rfl

theorem receive_of_get? {b : Mailbox} (h : m.boxes.get? name = some b) :
    m.receive name =
      ({ m with boxes := m.boxes.put name (b.collect m.isOpen).1 },
        some (b.collect m.isOpen).2) := by
  simp only [Mailroom.receive, h]

theorem get?_receive (m : Mailroom) {other : String} (h : name ≠ other) :
    (m.receive other).1.boxes.get? name = m.boxes.get? name := by
  unfold Mailroom.receive
  split <;> simp [h]

/-- One event gives a subscriber what is due to it. -/
theorem Holds.perform {e : HubEvent} (h : m.Holds name topic due) (some_room : 0 < m.room)
    (kept : ¬ e.Renews name) :
    ∃ next, Due name topic due (e, (m.perform e).2) next ∧
      (m.perform e).1.Holds name topic next := by
  have sending {t payload : String} (silent : e ≠ .receive name) (o : HubOutcome)
      (sends : e.payloadOn? topic = if t = topic then some payload else none) :
      ∃ next, Due name topic due (e, o) next ∧ (m.send t payload).Holds name topic next := by
    refine ⟨_, ?_, h.send some_room payload⟩
    split
    · rename_i ht
      exact .sent (by rw [sends, if_pos ht])
    · rename_i ht
      exact .other (by rw [sends, if_neg ht]) silent
  cases e with
  | send t payload => exact sending (by simp) _ rfl
  | publish p => exact sending (by simp) _ rfl
  | subscribe other t =>
    have hne : name ≠ other := Ne.symm kept
    obtain ⟨b, hbox, htopic, hcovers⟩ := h
    exact ⟨due, .other rfl (by simp), b, by simp [Mailroom.perform, hbox, hne], htopic, hcovers⟩
  | unsubscribe other =>
    have hne : name ≠ other := Ne.symm kept
    obtain ⟨b, hbox, htopic, hcovers⟩ := h
    exact ⟨due, .other rfl (by simp), b, by simp [Mailroom.perform, hbox, hne], htopic, hcovers⟩
  | receive other =>
    obtain ⟨b, hbox, rfl, hcovers⟩ := h
    by_cases hname : name = other
    · subst hname
      obtain ⟨next, hdue, hnext⟩ := hcovers.collect some_room m.isOpen
      rw [Mailroom.perform, receive_of_get? hbox]
      exact ⟨next, hdue, _, by simp, Mailbox.collect_topic b m.isOpen, hnext⟩
    · refine ⟨due, .other rfl (by simpa using Ne.symm hname), b, ?_, rfl, ?_⟩
      · rw [Mailroom.perform, get?_receive m hname, hbox]
      · rwa [perform_room]
  | count t => exact ⟨due, .other rfl (by simp), h⟩
  | sweep => exact ⟨due, .other rfl (by simp), h⟩
  | close => exact ⟨due, .other rfl (by simp), h⟩

/-- Events in a row give a subscriber what is due to it. -/
theorem Holds.run {events : List HubEvent} (h : m.Holds name topic due) (some_room : 0 < m.room)
    (kept : ∀ e ∈ events, ¬ e.Renews name) :
    ∃ last, Dues name topic due (traced Mailroom.perform m events) last ∧
      (afterAll Mailroom.perform m events).Holds name topic last := by
  induction events generalizing m due with
  | nil => exact ⟨due, .nil, h⟩
  | cons e rest ih =>
    obtain ⟨next, hfirst, hnext⟩ := h.perform some_room (kept e List.mem_cons_self)
    obtain ⟨last, hlater, hlast⟩ := ih hnext (by rwa [perform_room])
      (fun d hd => kept d (List.mem_cons_of_mem e hd))
    exact ⟨last, .cons hfirst hlater, hlast⟩

/-- Who subscribes has nothing due yet. -/
theorem holds_subscribe (m : Mailroom) (name topic : String) :
    (m.perform (.subscribe name topic)).1.Holds name topic [] :=
  ⟨{ topic := topic }, by simp [Mailroom.perform], rfl, rfl, by simp, Nat.zero_le _⟩

end Mailroom

end BroadcastLink
