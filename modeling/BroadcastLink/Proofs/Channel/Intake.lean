import BroadcastLink.Channel.Listener
import BroadcastLink.Channel.Realtime

/-!
# What a channel takes in

Most of what a channel does has nothing to do with what arrives: it asks for its lock, puts the
writer there or takes it away, and writes for its callers. The intake of a channel is the part that
what arrives depends on and goes into. Each operation is told apart by what it does to the intake;
all but a few leave it alone.
-/

namespace BroadcastLink

/-- The publication that is asked for, if one is. -/
def ChannelAct.publication? : ChannelAct → Option Publication
  | .publish publication => some publication
  | _ => none

/-- What the listener is at, its framer, the counts of what arrived, and what is to be published. -/
structure Intake where
  studio : String
  listener : ListenerStage
  framer : Framer
  bytesReceived : UInt64
  packetsDecoded : UInt64
  packetsDropped : UInt64
  published : List Publication

/-- Is there no connection to listen on, and none about to be greeted? -/
def ListenerStage.isDetached : ListenerStage → Bool
  | .greeting _ _ | .installing _ | .reading _ => false
  | _ => true

namespace Channel

/-- Everything the channel asks to have published, in order. -/
def published (c : Channel) : List Publication := c.acts.filterMap ChannelAct.publication?

/-- The intake of a channel. -/
def intake (c : Channel) : Intake where
  studio := c.studio
  listener := c.listener
  framer := c.framer
  bytesReceived := c.counters.bytesReceived
  packetsDecoded := c.counters.packetsDecoded
  packetsDropped := c.counters.packetsDropped
  published := c.published

/-! ## Small steps -/

theorem intake_acts (c : Channel) {acts : List ChannelAct}
    (h : ∀ act ∈ acts, act.publication? = none) :
    { c with acts := c.acts ++ acts }.intake = c.intake := by
  have hnone : acts.filterMap ChannelAct.publication? = [] := List.filterMap_eq_nil_iff.mpr h
  simp [intake, published, hnone]

theorem intake_ask (c : Channel) {act : ChannelAct} (h : act.publication? = none) :
    (c.ask act).intake = c.intake :=
  intake_acts c fun _ hmem => List.mem_singleton.mp hmem ▸ h

@[simp] theorem intake_putListener (c : Channel) (stage : ListenerStage) :
    (c.putListener stage).intake = { c.intake with listener := stage } := rfl

@[simp] theorem intake_putCall (c : Channel) (call : CallId) (stage : ChannelCall) :
    (c.putCall call stage).intake = c.intake := rfl

@[simp] theorem intake_endCall (c : Channel) (call : CallId) :
    (c.endCall call).intake = c.intake := rfl

@[simp] theorem intake_request (c : Channel) (user : WriterUser) :
    (c.request user).intake = c.intake := rfl

@[simp] theorem intake_giveUp (c : Channel) (user : WriterUser) :
    (c.giveUp user).intake = c.intake := by
  refine intake_acts { c with lock := _ } fun act hmem => ?_
  obtain ⟨next, -, rfl⟩ := List.mem_map.mp hmem
  rfl

@[simp] theorem intake_takeWriter (c : Channel) : c.takeWriter.intake = c.intake := by
  rw [takeWriter]
  split
  · exact intake_ask { c with writer := none } rfl
  · rfl

/-! ## Calls -/

@[simp] theorem intake_dropWrite (c : Channel) (call : CallId) :
    (c.dropWrite call).intake = c.intake := by
  rw [dropWrite, intake_ask _ rfl, intake_endCall, intake_giveUp]
  rfl

@[simp] theorem intake_beginWrite (c : Channel) (call : CallId) (payload : Bytes) (now : Instant) :
    (c.beginWrite call payload now).intake = c.intake := by
  rw [beginWrite]
  split
  · rfl
  · exact intake_dropWrite c call

@[simp] theorem intake_queueWrite (c : Channel) (call : CallId) (payload : Bytes) (now : Instant) :
    (c.queueWrite call payload now).intake = c.intake := by
  rw [queueWrite]
  split
  · exact intake_beginWrite _ call payload now
  · rfl

theorem intake_sendRealtime {c d : Channel} {call : CallId} {commands : List String}
    {now : Instant} (h : c.sendRealtime call commands now = .ok d) : d.intake = c.intake := by
  rw [sendRealtime] at h
  split at h
  · contradiction
  · obtain rfl := Except.ok.inj h
    exact intake_ask c rfl
  · obtain rfl := Except.ok.inj h
    exact intake_queueWrite c call _ now

@[simp] theorem intake_breakWriter (c : Channel) (call : CallId) :
    (c.breakWriter call).intake = c.intake := by
  rw [breakWriter, intake_dropWrite, intake_ask _ rfl]
  exact intake_takeWriter c

@[simp] theorem intake_hearWrite (c : Channel) (call : CallId) (stimulus : Stimulus) :
    (c.hearWrite call stimulus).intake = c.intake := by
  unfold hearWrite
  split
  · split
    · exact intake_breakWriter c call
    · split
      · rw [intake_ask _ rfl, intake_endCall, intake_giveUp]
      · rfl
  · exact intake_breakWriter c call
  · rfl

@[simp] theorem intake_writeExpired (c : Channel) (call : CallId) (now : Instant) :
    (c.writeExpired call now).intake = c.intake := by
  rw [writeExpired]
  split
  · split
    · exact intake_breakWriter c call
    · rfl
  · rfl

@[simp] theorem intake_closeWriter (c : Channel) (call : CallId) :
    (c.closeWriter call).intake = c.intake := by
  have hclosed : (c.takeWriter.giveUp (.call call)).intake = c.intake := by
    rw [intake_giveUp, intake_takeWriter]
  rw [closeWriter]
  split
  · rw [intake_ask _ rfl, intake_endCall, hclosed]
  · rw [intake_putCall, hclosed]

@[simp] theorem intake_shutdown (c : Channel) (call : CallId) :
    (c.shutdown call).intake = c.intake := by
  have hasked : ({ c with isCancelled := true }.ask (.wake .listener)).intake = c.intake :=
    intake_ask { c with isCancelled := true } rfl
  rw [shutdown]
  split
  · exact intake_ask c rfl
  · dsimp only
    split
    · rw [intake_closeWriter, intake_putCall, intake_request, hasked]
    · rw [intake_putCall, intake_request, hasked]

@[simp] theorem intake_resumeCall (c : Channel) (call : CallId) (now : Instant) :
    (c.resumeCall call now).intake = c.intake := by
  rw [resumeCall]
  split
  · split
    · exact intake_beginWrite c call _ now
    · exact intake_closeWriter c call
    · rw [intake_ask _ rfl, intake_endCall]
    · rfl
  · rfl

@[simp] theorem intake_cancelCall (c : Channel) (call : CallId) :
    (c.cancelCall call).intake = c.intake := by
  rw [cancelCall, intake_endCall, intake_giveUp]

/-! ## The listener -/

theorem intake_afterRemoval (c : Channel) (now : Instant) :
    ∃ stage : ListenerStage, stage.isDetached ∧
      (c.afterRemoval now).intake = { c.intake with listener := stage } := by
  -- The writer is gone and its lock passed on; only the stage of the listener is still to change.
  have hgone : ({ c.takeWriter with counters := c.counters.setConnected false }.giveUp
      .listener).intake = c.intake := by
    rw [intake_giveUp, takeWriter]
    split
    · exact intake_ask { c with writer := none, counters := c.counters.setConnected false } rfl
    · rfl
  rw [afterRemoval]
  dsimp only
  rw [← hgone]
  split
  · exact ⟨.over, rfl, rfl⟩
  · exact ⟨.resting _, rfl, rfl⟩

theorem intake_remove (c : Channel) (now : Instant) :
    ∃ stage : ListenerStage, stage.isDetached ∧
      (c.remove now).intake = { c.intake with listener := stage } := by
  rw [remove]
  dsimp only
  split
  · exact intake_afterRemoval { c.request .listener with listener := .removing } now
  · exact ⟨.removing, rfl, rfl⟩

theorem intake_lose (c : Channel) (line : LineId) (now : Instant) :
    ∃ stage : ListenerStage, stage.isDetached ∧
      (c.lose line now).intake = { c.intake with listener := stage } := by
  rw [lose]
  split
  · exact intake_remove c now
  · rw [← intake_ask c (show (ChannelAct.hangUp line).publication? = none from rfl)]
    exact intake_remove _ now

theorem intake_install (c : Channel) (line : LineId) :
    (c.install line).intake = { c.intake with listener := .reading line } := by
  rw [install, intake_giveUp]
  rfl

/-- Once greeted, a connection is listened to with a framer that holds nothing. -/
theorem intake_greeted (c : Channel) (line : LineId) :
    ∃ stage, (stage = .installing line ∨ stage = .reading line) ∧
      (c.greeted line).intake =
        { c.intake with framer := c.framer.reset, listener := stage } := by
  rw [greeted]
  dsimp only
  split
  · exact ⟨.reading line, .inr rfl, intake_install _ line⟩
  · exact ⟨.installing line, .inl rfl, rfl⟩

/-! ## What arrives -/

/-- A packet could not be decoded. -/
def isDropped (decoded : Except DecodeFault (Option Event)) : Bool :=
  match decoded with
  | .error _ => true
  | .ok _ => false

/-- Each event is counted, and each packet that could not be decoded; nothing else is. -/
theorem foldl_countPacket (counters : Counters)
    (decoded : List (Except DecodeFault (Option Event))) :
    decoded.foldl countPacket counters = { counters with
      packetsDecoded := counters.packetsDecoded + UInt64.ofNat (publications decoded).length
      packetsDropped := counters.packetsDropped + UInt64.ofNat (decoded.countP isDropped) } := by
  -- By induction on the packets, from any counts: each step starts from the counts of the last.
  induction decoded generalizing counters with
  | nil => simp [publications]
  | cons packet rest ih =>
    rw [List.foldl_cons, ih]
    match packet with
    | .ok none => rfl
    | .ok (some e) =>
      have hcount : 1 + UInt64.ofNat (publications rest).length =
          UInt64.ofNat ((publications rest).length + 1) := by
        rw [UInt64.ofNat_add, UInt64.add_comm]
        rfl
      simp only [countPacket, Counters.packetDecoded, UInt64.add_assoc, hcount]
      rfl
    | .error fault =>
      have hcount : 1 + UInt64.ofNat (rest.countP isDropped) =
          UInt64.ofNat (rest.countP isDropped + 1) := by
        rw [UInt64.ofNat_add, UInt64.add_comm]
        rfl
      rw [List.countP_cons_of_pos (show isDropped (.error fault) from rfl), ← hcount]
      simp only [countPacket, Counters.packetDropped, UInt64.add_assoc]
      rfl

theorem intake_listen (c : Channel) (bytes : Bytes) :
    (c.listen bytes).intake = { c.intake with
      framer := (c.framer.feedEvents c.studio bytes).1
      bytesReceived := c.counters.bytesReceived + UInt64.ofNat bytes.length
      packetsDecoded := c.counters.packetsDecoded +
        UInt64.ofNat (publications (c.framer.feedEvents c.studio bytes).2).length
      packetsDropped := c.counters.packetsDropped +
        UInt64.ofNat ((c.framer.feedEvents c.studio bytes).2.countP isDropped)
      published := c.published ++ publications (c.framer.feedEvents c.studio bytes).2 } := by
  rw [listen, intake]
  dsimp only
  rw [foldl_countPacket, published, List.filterMap_append, List.filterMap_map,
    show ChannelAct.publication? ∘ ChannelAct.publish = some from rfl, List.filterMap_some]
  rfl

end Channel

end BroadcastLink
