import BroadcastLink.Proofs.Channel.Intake
import BroadcastLink.Proofs.Packet.Framing

/-!
# From connections to publications

However often a channel connects again, wherever a connection ends, and whatever its callers do to
the writer meanwhile, it publishes for each connection what its bytes give a framer of their own,
and its counts tell how much that was.
-/

namespace BroadcastLink

/-- What happens to a channel. -/
inductive ChannelEvent where
  | dialled (now : Instant) (outcome : Except IoFault LineId)
  | hearListener (now : Instant) (stimulus : Stimulus)
  | listenerExpired (now : Instant)
  | resumeListener (now : Instant)
  | sendRealtime (call : CallId) (commands : List String) (now : Instant)
  | hearWrite (call : CallId) (stimulus : Stimulus)
  | writeExpired (call : CallId) (now : Instant)
  | resumeCall (call : CallId) (now : Instant)
  | cancelCall (call : CallId)
  | shutdown (call : CallId)

/-- The channel once something happened to it. -/
def Channel.perform (c : Channel) : ChannelEvent → Channel
  | .dialled now outcome => c.dialled now outcome
  | .hearListener now stimulus => c.hearListener now stimulus
  | .listenerExpired now => c.listenerExpired now
  | .resumeListener now => c.resumeListener now
  | .sendRealtime call commands now =>
    match c.sendRealtime call commands now with
    | .ok d => d
    | .error _ => c
  | .hearWrite call stimulus => c.hearWrite call stimulus
  | .writeExpired call now => c.writeExpired call now
  | .resumeCall call now => c.resumeCall call now
  | .cancelCall call => c.cancelCall call
  | .shutdown call => c.shutdown call

/-- More bytes on the last connection. -/
def carry : List Bytes → Bytes → List Bytes
  | [], bytes => [bytes]
  | [last], bytes => [last ++ bytes]
  | first :: second :: rest, bytes => first :: carry (second :: rest) bytes

theorem carry_snoc (earlier : List Bytes) (current bytes : Bytes) :
    carry (earlier ++ [current]) bytes = earlier ++ [current ++ bytes] := by
  induction earlier with
  | nil => rfl
  | cons first earlier ih =>
    cases earlier with
    | nil => rfl
    | cons second rest => exact congrArg (first :: ·) ih

/-- A channel, and the bytes that each of its connections carried so far, the last one last. What
the channel asks for is left in `acts`, which therefore shows all of it in order. -/
structure Pipeline where
  channel : Channel
  carried : List Bytes := []

namespace Pipeline

/-- The pipeline of a channel to a studio. -/
def toStudio (id : ChannelId) (studio : Studio) (settings : ChannelSettings) (now : Instant) :
    Pipeline :=
  { channel := .toStudio id studio settings now }

/-- What the connections carried once something happened: a connection made carries nothing yet,
and bytes count as carried when the listener reads them. -/
def carriedAfter (p : Pipeline) : ChannelEvent → List Bytes
  | .dialled _ (.ok _) =>
    match p.channel.listener with
    | .dialling _ => p.carried ++ [[]]
    | _ => p.carried
  | .hearListener _ (.received bytes) =>
    match p.channel.listener with
    | .reading _ => carry p.carried bytes
    | _ => p.carried
  | _ => p.carried

/-- One event. -/
def step (p : Pipeline) (event : ChannelEvent) : Pipeline :=
  ⟨p.channel.perform event, p.carriedAfter event⟩

/-- Any number of events. -/
def run (p : Pipeline) (events : List ChannelEvent) : Pipeline := events.foldl step p

end Pipeline

theorem publications_append (front back : List (Except DecodeFault (Option Event))) :
    publications (front ++ back) = publications front ++ publications back :=
  List.filterMap_append

/-- What a connection's bytes give a framer of their own, packet by packet. -/
def decodedOf (studio : String) (bytes : Bytes) : List (Except DecodeFault (Option Event)) :=
  (({} : Framer).feedEvents studio bytes).2

theorem decodedOf_nil (studio : String) : decodedOf studio [] = [] := by
  have hfeed : ({} : Framer).feed [] = ({}, []) := Framer.drain_of_none rfl
  rw [decodedOf, Framer.feedEvents, hfeed]
  rfl

/-- A framer that holds what the first bytes left goes on as if it had been fed all at once. -/
theorem decodedOf_append {f : Framer} {current : Bytes}
    (h : f.Alike (({} : Framer).feed current).1) (studio : String) (bytes : Bytes) :
    decodedOf studio (current ++ bytes) =
      decodedOf studio current ++ (f.feedEvents studio bytes).2 := by
  have hpackets := (h.feed bytes).2
  simp only [decodedOf, Framer.feedEvents]
  rw [Framer.feed_append, List.map_append, hpackets]

/-! ## The invariant -/

namespace Intake

/-- The framer of a connection listened to, or about to be, holds what its bytes left; a connection
that is still greeted carried nothing. -/
def Attached (i : Intake) (carried : List Bytes) : Prop :=
  match i.listener with
  | .greeting _ _ => ∃ earlier, carried = earlier ++ [[]]
  | .installing _ | .reading _ =>
    ∃ earlier current, carried = earlier ++ [current] ∧
      i.framer.Alike (({} : Framer).feed current).1
  | _ => True

/-- What was published and counted is what the connections to the studio carried. -/
structure Faithful (i : Intake) (studio : String) (carried : List Bytes) : Prop where
  name : i.studio = studio
  published : i.published = carried.flatMap fun bytes => publications (decodedOf studio bytes)
  bytesReceived : i.bytesReceived = UInt64.ofNat carried.flatten.length
  packetsDecoded : i.packetsDecoded = UInt64.ofNat i.published.length
  packetsDropped : i.packetsDropped =
    UInt64.ofNat ((carried.flatMap (decodedOf studio)).countP Channel.isDropped)
  attached : i.Attached carried

variable {i : Intake} {studio : String} {carried : List Bytes}

/-- Without a connection the listener has nothing to be true to. -/
theorem Faithful.detach (h : i.Faithful studio carried) {stage : ListenerStage}
    (hstage : stage.isDetached) :
    { i with listener := stage }.Faithful studio carried where
  name := h.name
  published := h.published
  bytesReceived := h.bytesReceived
  packetsDecoded := h.packetsDecoded
  packetsDropped := h.packetsDropped
  attached := by
    cases stage <;> first | contradiction | trivial

/-- The greeting changes nothing about what was carried. -/
theorem Faithful.greeting (h : i.Faithful studio carried) {line : LineId} {rest : Bytes}
    (hstage : i.listener = .greeting line rest) (line' : LineId) (rest' : Bytes) :
    { i with listener := .greeting line' rest' }.Faithful studio carried where
  name := h.name
  published := h.published
  bytesReceived := h.bytesReceived
  packetsDecoded := h.packetsDecoded
  packetsDropped := h.packetsDropped
  attached := by
    have hattached := h.attached
    rw [Attached, hstage] at hattached
    exact hattached

/-- A new connection has carried nothing. -/
theorem Faithful.connect (h : i.Faithful studio carried) (line : LineId) (rest : Bytes) :
    { i with listener := .greeting line rest }.Faithful studio (carried ++ [[]]) where
  name := h.name
  published := by
    rw [List.flatMap_append, ← h.published]
    simp [decodedOf_nil, publications]
  bytesReceived := by
    rw [List.flatten_append]
    simpa using h.bytesReceived
  packetsDecoded := h.packetsDecoded
  packetsDropped := by
    rw [List.flatMap_append]
    simpa [decodedOf_nil] using h.packetsDropped
  attached := ⟨carried, rfl⟩

/-- A connection that was greeted is listened to with an empty framer. -/
theorem Faithful.greeted (h : i.Faithful studio carried) {line : LineId} {rest : Bytes}
    (hgreeting : i.listener = .greeting line rest) {stage : ListenerStage}
    (hstage : stage = .installing line ∨ stage = .reading line) :
    { i with framer := i.framer.reset, listener := stage }.Faithful studio carried where
  name := h.name
  published := h.published
  bytesReceived := h.bytesReceived
  packetsDecoded := h.packetsDecoded
  packetsDropped := h.packetsDropped
  attached := by
    have hattached := h.attached
    rw [Attached, hgreeting] at hattached
    obtain ⟨earlier, hcarried⟩ := hattached
    -- A framer that was reset has still thrown bytes away before, so it is alike and not the same.
    have halike : i.framer.reset.Alike (({} : Framer).feed []).1 := by
      rw [show ({} : Framer).feed [] = ({}, []) from Framer.drain_of_none rfl]
      exact Framer.alike_reset i.framer
    rcases hstage with rfl | rfl <;> exact ⟨earlier, [], hcarried, halike⟩

/-- With the writer in place the connection is read. -/
theorem Faithful.install (h : i.Faithful studio carried) {line : LineId}
    (hstage : i.listener = .installing line) (line' : LineId) :
    { i with listener := .reading line' }.Faithful studio carried where
  name := h.name
  published := h.published
  bytesReceived := h.bytesReceived
  packetsDecoded := h.packetsDecoded
  packetsDropped := h.packetsDropped
  attached := by
    have hattached := h.attached
    rw [Attached, hstage] at hattached
    exact hattached

/-- What is read goes through the framer of its connection: it is published and counted as if the
connection had carried all its bytes at once. -/
theorem Faithful.listen {c : Channel} (h : c.intake.Faithful studio carried) {line : LineId}
    (hstage : c.listener = .reading line) (bytes : Bytes) :
    (c.listen bytes).intake.Faithful studio (carry carried bytes) := by
  -- The connection that is read is the last one, and its framer holds what its bytes have left.
  obtain ⟨earlier, current, rfl, halike⟩ :
      ∃ earlier current, carried = earlier ++ [current] ∧
        c.framer.Alike (({} : Framer).feed current).1 := by
    have hattached := h.attached
    rw [Attached, show c.intake.listener = .reading line from hstage] at hattached
    exact hattached
  obtain rfl : c.studio = studio := h.name
  have hdecoded := decodedOf_append halike c.studio bytes
  rw [carry_snoc, Channel.intake_listen]
  constructor
  · rfl
  · show c.published ++ publications (c.framer.feedEvents c.studio bytes).2 = _
    rw [show c.published = _ from h.published, List.flatMap_append, List.flatMap_append]
    simp only [List.flatMap_cons, List.flatMap_nil, List.append_nil]
    rw [hdecoded, publications_append, List.append_assoc]
  · show c.counters.bytesReceived + UInt64.ofNat bytes.length = _
    rw [show c.counters.bytesReceived = _ from h.bytesReceived, ← UInt64.ofNat_add]
    congr 1
    simp only [List.flatten_append, List.flatten_cons, List.flatten_nil, List.append_nil,
      List.length_append]
    omega
  · show c.counters.packetsDecoded + UInt64.ofNat _ = UInt64.ofNat (c.published ++ _).length
    rw [show c.counters.packetsDecoded = _ from h.packetsDecoded, ← UInt64.ofNat_add,
      List.length_append]
    rfl
  · show c.counters.packetsDropped + UInt64.ofNat _ = _
    rw [show c.counters.packetsDropped = _ from h.packetsDropped, ← UInt64.ofNat_add,
      List.flatMap_append, List.flatMap_append, List.countP_append, List.countP_append]
    simp only [List.flatMap_cons, List.flatMap_nil, List.append_nil]
    rw [hdecoded, List.countP_append, Nat.add_assoc]
  · show Attached { c.intake with framer := _, listener := c.listener } _
    rw [hstage]
    refine ⟨earlier, current ++ bytes, rfl, ?_⟩
    rw [Framer.feed_append]
    exact (halike.feed bytes).1

end Intake

/-! ## Runs -/

namespace Channel

variable {c : Channel} {studio : String} {carried : List Bytes}

theorem faithful_lose (h : c.intake.Faithful studio carried) (line : LineId) (now : Instant) :
    (c.lose line now).intake.Faithful studio carried := by
  obtain ⟨stage, hstage, heq⟩ := intake_lose c line now
  rw [heq]
  exact h.detach hstage

theorem faithful_remove (h : c.intake.Faithful studio carried) (now : Instant) :
    (c.remove now).intake.Faithful studio carried := by
  obtain ⟨stage, hstage, heq⟩ := intake_remove c now
  rw [heq]
  exact h.detach hstage

theorem faithful_resumeListener (h : c.intake.Faithful studio carried) (now : Instant) :
    (c.resumeListener now).intake.Faithful studio carried := by
  unfold resumeListener
  split
  · split
    · exact faithful_remove h now
    · exact h.detach rfl
    · exact faithful_lose h _ now
    · rename_i line hstage
      rw [intake_install]
      exact h.install hstage line
    · obtain ⟨stage, hstage, heq⟩ := intake_afterRemoval c now
      rw [heq]
      exact h.detach hstage
    · exact h
  · exact h

theorem faithful_listenerExpired (h : c.intake.Faithful studio carried) (now : Instant) :
    (c.listenerExpired now).intake.Faithful studio carried := by
  have hdial : (c.dialExpired now).intake.Faithful studio carried := by
    unfold dialExpired dialled
    split
    · split
      · exact faithful_remove h now
      · exact h
    · exact h
  unfold listenerExpired listenerRested
  split
  · split
    · exact hdial.detach rfl
    · exact hdial
  · exact hdial

end Channel

namespace Pipeline

variable {p : Pipeline} {studio : String}

/-- What was published and counted is what the connections carried. -/
def Faithful (p : Pipeline) (studio : String) : Prop :=
  p.channel.intake.Faithful studio p.carried

theorem faithful_toStudio (id : ChannelId) (studio : Studio) (settings : ChannelSettings)
    (now : Instant) : (toStudio id studio settings now).Faithful studio.name :=
  ⟨rfl, rfl, rfl, rfl, rfl, trivial⟩

/-- Most of what happens to a channel has nothing to do with what arrives. -/
theorem Faithful.of_intake_eq (h : p.Faithful studio) {event : ChannelEvent}
    (hintake : (p.channel.perform event).intake = p.channel.intake)
    (hcarried : p.carriedAfter event = p.carried) : (p.step event).Faithful studio := by
  rw [Faithful, step, hcarried]
  exact hintake.symm ▸ h

theorem Faithful.dialled (h : p.Faithful studio) (now : Instant) (outcome : Except IoFault LineId) :
    (p.step (.dialled now outcome)).Faithful studio := by
  cases hstage : p.channel.listener with
  | dialling deadline =>
    cases outcome with
    | error fault =>
      show (p.channel.dialled now (.error fault)).intake.Faithful studio p.carried
      rw [Channel.dialled, hstage]
      exact Channel.faithful_remove h now
    | ok line =>
      have hcarried : p.carriedAfter (.dialled now (.ok line)) = p.carried ++ [[]] := by
        rw [carriedAfter, hstage]
      rw [Faithful, step, hcarried]
      show (p.channel.dialled now (.ok line)).intake.Faithful studio _
      rw [Channel.dialled, hstage]
      exact h.connect line _
  | greeting | installing | reading | removing | resting | «over» =>
    -- Nobody has asked for a connection.
    have hsame : p.step (.dialled now outcome) = p := by
      cases outcome <;> simp only [step, carriedAfter, Channel.perform, Channel.dialled, hstage]
    rw [hsame]
    exact h

theorem Faithful.hearListener (h : p.Faithful studio) (now : Instant) (stimulus : Stimulus) :
    (p.step (.hearListener now stimulus)).Faithful studio := by
  cases hstage : p.channel.listener with
  | greeting line rest =>
    have hcarried : p.carriedAfter (.hearListener now stimulus) = p.carried := by
      cases stimulus <;> simp only [carriedAfter, hstage]
    rw [Faithful, step, hcarried]
    show (p.channel.hearListener now stimulus).intake.Faithful studio _
    unfold Channel.hearListener
    rw [hstage]
    cases stimulus with
    | accepted n =>
      dsimp only
      split
      · exact Channel.faithful_lose h line now
      · split
        · obtain ⟨stage, hnext, heq⟩ := Channel.intake_greeted p.channel line
          rw [heq]
          exact Intake.Faithful.greeted h hstage hnext
        · exact Intake.Faithful.greeting h hstage line _
    | writeFailed fault => exact Channel.faithful_lose h line now
    | flushed | flushFailed | received | ended | readFailed | expired => exact h
  | reading line =>
    cases stimulus with
    | received bytes =>
      have hcarried : p.carriedAfter (.hearListener now (.received bytes)) =
          carry p.carried bytes := by
        simp only [carriedAfter, hstage]
      rw [Faithful, step, hcarried]
      show (p.channel.hearListener now (.received bytes)).intake.Faithful studio _
      unfold Channel.hearListener
      rw [hstage]
      exact Intake.Faithful.listen h hstage bytes
    | ended | readFailed =>
      show (p.channel.hearListener now _).intake.Faithful studio p.carried
      unfold Channel.hearListener
      rw [hstage]
      exact Channel.faithful_lose h line now
    | accepted | writeFailed | flushed | flushFailed | expired =>
      show (p.channel.hearListener now _).intake.Faithful studio p.carried
      unfold Channel.hearListener
      rw [hstage]
      exact h
  | dialling | installing | removing | resting | «over» =>
    have hsame : p.step (.hearListener now stimulus) = p := by
      cases stimulus <;>
        simp only [step, carriedAfter, Channel.perform, Channel.hearListener, hstage]
    rw [hsame]
    exact h

/-- One event. -/
theorem Faithful.step (h : p.Faithful studio) (event : ChannelEvent) :
    (p.step event).Faithful studio := by
  cases event with
  | dialled now outcome => exact h.dialled now outcome
  | hearListener now stimulus => exact h.hearListener now stimulus
  | listenerExpired now => exact Channel.faithful_listenerExpired h now
  | resumeListener now => exact Channel.faithful_resumeListener h now
  | sendRealtime call commands now =>
    refine h.of_intake_eq ?_ rfl
    rw [Channel.perform]
    split
    · rename_i d hsent
      exact Channel.intake_sendRealtime hsent
    · rfl
  | hearWrite call stimulus =>
    exact h.of_intake_eq (Channel.intake_hearWrite p.channel call stimulus) rfl
  | writeExpired call now =>
    exact h.of_intake_eq (Channel.intake_writeExpired p.channel call now) rfl
  | resumeCall call now => exact h.of_intake_eq (Channel.intake_resumeCall p.channel call now) rfl
  | cancelCall call => exact h.of_intake_eq (Channel.intake_cancelCall p.channel call) rfl
  | shutdown call => exact h.of_intake_eq (Channel.intake_shutdown p.channel call) rfl

theorem Faithful.run (h : p.Faithful studio) (events : List ChannelEvent) :
    (p.run events).Faithful studio := by
  induction events generalizing p with
  | nil => exact h
  | cons event events ih => exact ih (h.step event)

/-- A channel publishes exactly what its connections carried. After any events, what it asked to
have published is, connection by connection, what a framer of their own lifts from the bytes read,
the packets that are no events left out; and modulo the size of the counts, the bytes read, the
events published and the packets that could not be decoded are counted. -/
theorem run_publishes_what_was_carried (id : ChannelId) (studio : Studio)
    (settings : ChannelSettings) (now : Instant) (events : List ChannelEvent) :
    let p := (toStudio id studio settings now).run events
    p.channel.published =
      (p.carried.flatMap fun bytes => publications (decodedOf studio.name bytes)) ∧
    p.channel.counters.bytesReceived.toNat = p.carried.flatten.length % UInt64.size ∧
    p.channel.counters.packetsDecoded.toNat = p.channel.published.length % UInt64.size ∧
    p.channel.counters.packetsDropped.toNat =
      (p.carried.flatMap (decodedOf studio.name)).countP Channel.isDropped % UInt64.size := by
  intro p
  have h : p.Faithful studio.name := (faithful_toStudio id studio settings now).run events
  refine ⟨h.published, ?_, ?_, ?_⟩
  · rw [show p.channel.counters.bytesReceived = _ from h.bytesReceived, UInt64.toNat_ofNat']
  · rw [show p.channel.counters.packetsDecoded = _ from h.packetsDecoded, UInt64.toNat_ofNat']
    rfl
  · rw [show p.channel.counters.packetsDropped = _ from h.packetsDropped, UInt64.toNat_ofNat']

end Pipeline

end BroadcastLink
