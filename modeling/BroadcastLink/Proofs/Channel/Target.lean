import BroadcastLink.Channel.Listener
import BroadcastLink.Channel.Realtime

/-!
# Where a channel connects to

A channel keeps the host and the port it was made with, whatever it does.
-/

namespace BroadcastLink.Channel

/-- Host and port of a channel. -/
def target (c : Channel) : String × UInt16 := (c.host, c.port)

theorem target_takeWriter (c : Channel) : c.takeWriter.target = c.target := by
  unfold takeWriter
  split <;> rfl

/-! ## Calls -/

theorem target_beginWrite (c : Channel) (call : CallId) (payload : Bytes) (now : Instant) :
    (c.beginWrite call payload now).target = c.target := by
  unfold beginWrite
  split <;> rfl

theorem target_sendRealtime {c d : Channel} {call : CallId} {commands : List String}
    {now : Instant} (h : c.sendRealtime call commands now = .ok d) : d.target = c.target := by
  unfold sendRealtime at h
  split at h
  · contradiction
  · obtain rfl := Except.ok.inj h
    rfl
  · obtain rfl := Except.ok.inj h
    unfold queueWrite
    dsimp only
    split
    · exact target_beginWrite _ call _ now
    · rfl

theorem target_breakWriter (c : Channel) (call : CallId) :
    (c.breakWriter call).target = c.target :=
  target_takeWriter c

theorem target_hearWrite (c : Channel) (call : CallId) (stimulus : Stimulus) :
    (c.hearWrite call stimulus).target = c.target := by
  unfold hearWrite
  split
  · split
    · exact target_breakWriter c call
    · split <;> rfl
  · exact target_breakWriter c call
  · rfl

theorem target_writeExpired (c : Channel) (call : CallId) (now : Instant) :
    (c.writeExpired call now).target = c.target := by
  unfold writeExpired
  split
  · split
    · exact target_breakWriter c call
    · rfl
  · rfl

theorem target_closeWriter (c : Channel) (call : CallId) :
    (c.closeWriter call).target = c.target := by
  unfold closeWriter
  dsimp only
  split <;> exact target_takeWriter c

theorem target_shutdown (c : Channel) (call : CallId) : (c.shutdown call).target = c.target := by
  unfold shutdown
  split
  · rfl
  · dsimp only
    split
    · exact target_closeWriter _ call
    · rfl

theorem target_resumeCall (c : Channel) (call : CallId) (now : Instant) :
    (c.resumeCall call now).target = c.target := by
  unfold resumeCall
  split
  · split
    · exact target_beginWrite c call _ now
    · exact target_closeWriter c call
    · rfl
    · rfl
  · rfl

theorem target_cancelCall (c : Channel) (call : CallId) : (c.cancelCall call).target = c.target :=
  rfl

/-! ## The listener -/

theorem target_afterRemoval (c : Channel) (now : Instant) :
    (c.afterRemoval now).target = c.target := by
  unfold afterRemoval
  dsimp only
  split <;> exact target_takeWriter c

theorem target_remove (c : Channel) (now : Instant) : (c.remove now).target = c.target := by
  unfold remove
  dsimp only
  split
  · exact target_afterRemoval _ now
  · rfl

theorem target_lose (c : Channel) (line : LineId) (now : Instant) :
    (c.lose line now).target = c.target := by
  unfold lose
  split
  · exact target_remove c now
  · exact target_remove (c.ask (.hangUp line)) now

theorem target_dialled (c : Channel) (now : Instant) (outcome : Except IoFault LineId) :
    (c.dialled now outcome).target = c.target := by
  unfold dialled
  split
  · split
    · rfl
    · exact target_remove c now
  · rfl

theorem target_greeted (c : Channel) (line : LineId) : (c.greeted line).target = c.target := by
  unfold greeted
  dsimp only
  split <;> rfl

theorem target_hearListener (c : Channel) (now : Instant) (stimulus : Stimulus) :
    (c.hearListener now stimulus).target = c.target := by
  unfold hearListener
  split
  · split
    · exact target_lose c _ now
    · split
      · exact target_greeted c _
      · rfl
  · exact target_lose c _ now
  · rfl
  · exact target_lose c _ now
  · exact target_lose c _ now
  · rfl

theorem target_resumeListener (c : Channel) (now : Instant) :
    (c.resumeListener now).target = c.target := by
  unfold resumeListener
  split
  · split
    · exact target_remove c now
    · rfl
    · exact target_lose c _ now
    · rfl
    · exact target_afterRemoval c now
    · rfl
  · rfl

theorem target_listenerExpired (c : Channel) (now : Instant) :
    (c.listenerExpired now).target = c.target := by
  have hdial : (c.dialExpired now).target = c.target := by
    unfold dialExpired
    split
    · split
      · exact target_dialled c now _
      · rfl
    · rfl
  unfold listenerExpired listenerRested
  split
  · split <;> exact hdial
  · exact hdial

end BroadcastLink.Channel
