import BroadcastLink.Proofs.Channel.Outlet
import BroadcastLink.Proofs.Roster.Values
import BroadcastLink.Proofs.Sync.Locks

/-!
# What happens to a channel is moves

Every event of an outlet is a few moves of its writer, its lock, its listener and its calls: asking
for the lock is one and having it at once another, and so is taking the last bytes and being over.
-/

namespace BroadcastLink

namespace Channel

/-- What counts for the writing on a channel's connections. -/
def outflow (c : Channel) (asked : Roster CallId (List String)) (wires : Roster LineId Outgoing) :
    Outflow :=
  ⟨c.writer, c.lock, c.listener, c.calls, asked, wires⟩

open Outflow (Move Moves)

variable {c : Channel} {asked : Roster CallId (List String)} {wires : Roster LineId Outgoing}
  {call : CallId} {line : LineId} {now : Instant}

theorem outflow_takeWriter (c : Channel) (asked : Roster CallId (List String))
    (wires : Roster LineId Outgoing) :
    c.takeWriter.outflow asked wires = { c.outflow asked wires with writer := none } := by
  unfold takeWriter
  split
  · rfl
  · rename_i hwriter
    rw [outflow, hwriter]

/-- Whoever takes the writer away gives up the lock. -/
theorem outflow_giveUp_takeWriter (c : Channel) (user : WriterUser)
    (asked : Roster CallId (List String)) (wires : Roster LineId Outgoing) :
    (c.takeWriter.giveUp user).outflow asked wires =
      { c.outflow asked wires with writer := none, lock := (c.lock.giveUp user).1 } := by
  have htaken := outflow_takeWriter c asked wires
  show (⟨c.takeWriter.writer, (c.takeWriter.lock.giveUp user).1, c.takeWriter.listener,
    c.takeWriter.calls, asked, wires⟩ : Outflow) = _
  rw [show c.takeWriter.writer = none from congrArg Outflow.writer htaken,
    show c.takeWriter.lock = c.lock from congrArg Outflow.lock htaken,
    show c.takeWriter.listener = c.listener from congrArg Outflow.listener htaken,
    show c.takeWriter.calls = c.calls from congrArg Outflow.calls htaken]
  rfl

theorem outflow_breakWriter (c : Channel) (call : CallId) (asked : Roster CallId (List String))
    (wires : Roster LineId Outgoing) :
    (c.breakWriter call).outflow asked wires =
      { c.outflow asked wires with writer := none }.leave call := by
  rw [← outflow_takeWriter]
  rfl

/-! ### The listener -/

theorem moves_afterRemoval (hlistener : c.listener = .removing)
    (hheld : c.lock.heldBy .listener = true) (now : Instant) :
    Moves (c.outflow asked wires) ((c.afterRemoval now).outflow asked wires) := by
  have hremoved : ∀ stage : ListenerStage,
      (({ c.takeWriter with counters := c.counters.setConnected false }.giveUp
        .listener).putListener stage).outflow asked wires =
        (c.outflow asked wires).listenerLeaves none stage := by
    intro stage
    show { (c.takeWriter.giveUp .listener).outflow asked wires with listener := stage } = _
    rw [outflow_giveUp_takeWriter]
    rfl
  have hholder := Lock.holder_of_heldBy hheld
  rw [afterRemoval]
  dsimp only
  split
  · rw [hremoved]
    exact .single (.removed hlistener hholder rfl)
  · rw [hremoved]
    exact .single (.removed hlistener hholder rfl)

theorem moves_remove (hlistener : c.listener.usesLock = false) (now : Instant) :
    Moves (c.outflow asked wires) ((c.remove now).outflow asked wires) := by
  have hasked : Move (c.outflow asked wires)
      (Channel.outflow { c.request .listener with listener := .removing } asked wires) :=
    .remove hlistener
  rw [remove]
  dsimp only
  split
  · exact .head hasked (moves_afterRemoval rfl ‹_› now)
  · exact .single hasked

theorem moves_lose (hlistener : c.listener.usesLock = false) (line : LineId) (now : Instant) :
    Moves (c.outflow asked wires) ((c.lose line now).outflow asked wires) := by
  rw [lose]
  split
  · exact moves_remove hlistener now
  · exact moves_remove (c := c.ask (.hangUp line)) hlistener now

theorem moves_install (hlistener : c.listener = .installing line)
    (hheld : c.lock.heldBy .listener = true) :
    Moves (c.outflow asked wires) ((c.install line).outflow asked wires) :=
  .single (.install hlistener (Lock.holder_of_heldBy hheld))

/-- Once the greeting is out, the writer is put there as soon as the lock allows. -/
theorem moves_greeted (c : Channel) (line : LineId) :
    Moves { c.outflow asked wires with listener := .greeting line [] }
      ((c.greeted line).outflow asked wires) := by
  have hasked : Move { c.outflow asked wires with listener := .greeting line [] }
      (Channel.outflow { c.request .listener with
        framer := c.framer.reset, listener := .installing line } asked wires) :=
    .greeted rfl
  rw [greeted]
  dsimp only
  split
  · exact .head hasked (moves_install rfl ‹_›)
  · exact .single hasked

theorem moves_resumeListener (c : Channel) (now : Instant) :
    Moves (c.outflow asked wires) ((c.resumeListener now).outflow asked wires) := by
  unfold resumeListener
  split
  · rename_i hready
    unfold listenerReady at hready
    split
    · rename_i hlistener
      exact moves_remove (by rw [hlistener]; rfl) now
    · rename_i hlistener
      exact .single (.rest (by show c.listener.isApart = true; rw [hlistener]; rfl) rfl)
    · rename_i hlistener
      exact moves_lose (by rw [hlistener]; rfl) _ now
    · rename_i hlistener
      rw [hlistener] at hready
      exact moves_install hlistener hready
    · rename_i hlistener
      rw [hlistener] at hready
      exact moves_afterRemoval hlistener hready now
    · exact .refl
  · exact .refl

theorem moves_dialExpired (c : Channel) (now : Instant) :
    Moves (c.outflow asked wires) ((c.dialExpired now).outflow asked wires) := by
  unfold dialExpired
  split
  · rename_i hlistener
    split
    · rw [dialled, hlistener]
      exact moves_remove (by rw [hlistener]; rfl) now
    · exact .refl
  · exact .refl

theorem moves_listenerRested (c : Channel) (now : Instant) :
    Moves (c.outflow asked wires) ((c.listenerRested now).outflow asked wires) := by
  unfold listenerRested
  split
  · rename_i hlistener
    split
    · exact .single (.rest (by show c.listener.isApart = true; rw [hlistener]; rfl) rfl)
    · exact .refl
  · exact .refl

theorem moves_listenerExpired (c : Channel) (now : Instant) :
    Moves (c.outflow asked wires) ((c.listenerExpired now).outflow asked wires) :=
  (moves_dialExpired c now).trans (moves_listenerRested (c.dialExpired now) now)

/-! ### Calls -/

/-- With the lock, a call begins to write or is over without a connection. -/
theorem moves_beginWrite {payload : Bytes} (hcall : c.calls.get? call = some (.queued payload))
    (hheld : c.lock.heldBy (.call call) = true) (now : Instant) :
    Moves (c.outflow asked wires) ((c.beginWrite call payload now).outflow asked
      (match c.writer with
        | some line => wires.modify line (·.enter call)
        | none => wires)) := by
  rw [beginWrite]
  cases hwriter : c.writer with
  | none =>
    refine .single (Move.drop fun rest deadline hwriting => ?_)
    have := Option.some.inj (hcall.symm.trans hwriting)
    contradiction
  | some line => exact .single (.enter _ hcall (Lock.holder_of_heldBy hheld) hwriter)

theorem moves_closeWriter (hcall : c.calls.get? call = some .closing)
    (hheld : c.lock.heldBy (.call call) = true) :
    Moves (c.outflow asked wires) ((c.closeWriter call).outflow asked wires) := by
  have hclose : Move (c.outflow asked wires) { c.outflow asked wires with
      writer := none
      lock := (c.lock.giveUp (.call call)).1
      calls := c.calls.put call .joining } :=
    .close hcall (Lock.holder_of_heldBy hheld)
  have hclosed := outflow_giveUp_takeWriter c (.call call) asked wires
  rw [closeWriter]
  split
  · -- The listener is at its end already, so the call only passes through waiting for it.
    refine .head hclose (.single ?_)
    have hjoined := Move.joined (t := { c.outflow asked wires with
      writer := none
      lock := (c.lock.giveUp (.call call)).1
      calls := c.calls.put call .joining })
      (show (c.calls.put call .joining).get? call = some .joining by
        rw [Roster.get?_put, if_pos rfl])
    have hlast : (((c.takeWriter.giveUp (.call call)).endCall call).ask (.stopped call)).outflow
        asked wires = { (c.takeWriter.giveUp (.call call)).outflow asked wires with
          calls := ((c.takeWriter.giveUp (.call call)).outflow asked wires).calls.erase call } :=
      rfl
    rw [hlast, hclosed]
    rw [show ((c.calls.put call .joining).erase call) = c.calls.erase call from
      Roster.erase_put c.calls call .joining] at hjoined
    exact hjoined
  · have hlast : ((c.takeWriter.giveUp (.call call)).putCall call .joining).outflow asked wires =
        { (c.takeWriter.giveUp (.call call)).outflow asked wires with
          calls := ((c.takeWriter.giveUp (.call call)).outflow asked wires).calls.put call
            .joining } := rfl
    rw [hlast, hclosed]
    exact .single hclose

theorem moves_shutdown (hcall : c.calls.get? call = none) :
    Moves (c.outflow asked wires) ((c.shutdown call).outflow asked wires) := by
  rw [shutdown]
  split
  · exact .refl
  · have hbegin : Move (c.outflow asked wires)
        (((({ c with isCancelled := true }.ask (.wake .listener)).request (.call call)).putCall call
          .closing).outflow asked wires) :=
      .beginClosing hcall
    dsimp only
    split
    · refine .head hbegin (moves_closeWriter ?_ ‹_›)
      show (c.calls.put call .closing).get? call = _
      rw [Roster.get?_put, if_pos rfl]
    · exact .single hbegin

theorem moves_breakWriter {rest : Bytes} {deadline : Instant}
    (hcall : c.calls.get? call = some (.writing rest deadline)) :
    Moves (c.outflow asked wires) ((c.breakWriter call).outflow asked wires) := by
  rw [outflow_breakWriter]
  exact .single (.breakOff hcall)

end Channel

namespace Outlet

open Outflow (Move Moves)

variable {o : Outlet}

/-- What counts for the writing. -/
def outflow (o : Outlet) : Outflow := o.channel.outflow o.asked o.wires

/-- Whoever writes has a connection to write on. -/
def Connected (o : Outlet) : Prop :=
  ∀ call rest deadline, o.channel.calls.get? call = some (.writing rest deadline) →
    ∃ line, o.channel.writer = some line

theorem moves_dialled (hadmits : o.Admits (.dialled now outcome)) :
    Moves o.outflow ((o.channel.perform (.dialled now outcome)).outflow o.asked
      (o.wiresAfter (.dialled now outcome))) := by
  cases hlistener : o.channel.listener with
  | dialling deadline =>
    cases outcome with
    | error fault =>
      show Moves o.outflow ((o.channel.dialled now (.error fault)).outflow o.asked o.wires)
      rw [Channel.dialled, hlistener]
      exact Channel.moves_remove (by rw [hlistener]; rfl) now
    | ok line =>
      rw [wiresAfter, hlistener]
      show Moves o.outflow ((o.channel.dialled now (.ok line)).outflow o.asked _)
      rw [Channel.dialled, hlistener]
      refine .single (.connect hlistener (Roster.get?_of_not_has fun hhas => ?_))
      rw [Admits, show o.wires.has line = true from hhas] at hadmits
      contradiction
  | greeting | installing | reading | removing | resting | «over» =>
    -- Nobody has asked for a connection.
    have hsame : (o.channel.perform (.dialled now outcome)).outflow o.asked
        (o.wiresAfter (.dialled now outcome)) = o.outflow := by
      cases outcome <;> simp only [wiresAfter, Channel.perform, Channel.dialled, hlistener, outflow]
    rw [hsame]

theorem moves_hearListener (o : Outlet) (now : Instant) (stimulus : Stimulus) :
    Moves o.outflow ((o.channel.perform (.hearListener now stimulus)).outflow o.asked
      (o.wiresAfter (.hearListener now stimulus))) := by
  show Moves o.outflow ((o.channel.hearListener now stimulus).outflow o.asked _)
  cases hlistener : o.channel.listener with
  | greeting line rest =>
    have hfree : o.channel.listener.usesLock = false := by rw [hlistener]; rfl
    cases stimulus with
    | accepted n =>
      have hgreet := Move.greet (t := o.outflow) n hlistener
      simp only [wiresAfter, Channel.hearListener, hlistener]
      split
      · -- Nothing was taken, so the greeting stays as it is until the connection is given up.
        rename_i hzero
        subst hzero
        rw [List.drop_zero, ← hlistener] at hgreet
        exact .head hgreet (Channel.moves_lose hfree line now)
      · split
        · rename_i hdrop
          rw [hdrop] at hgreet
          have hgreeted : Moves
              { o.channel.outflow o.asked (o.wires.modify line (·.add (rest.take n))) with
                listener := .greeting line [] } _ :=
            Channel.moves_greeted o.channel line
          exact .head hgreet hgreeted
        · exact .single hgreet
    | writeFailed fault =>
      simp only [wiresAfter, Channel.hearListener, hlistener]
      exact Channel.moves_lose hfree line now
    | flushed | flushFailed | received | ended | readFailed | expired =>
      simp only [wiresAfter, Channel.hearListener, hlistener]
      exact .refl
  | reading line =>
    have hfree : o.channel.listener.usesLock = false := by rw [hlistener]; rfl
    cases stimulus with
    | ended | readFailed =>
      simp only [wiresAfter, Channel.hearListener, hlistener]
      exact Channel.moves_lose hfree line now
    | received | accepted | writeFailed | flushed | flushFailed | expired =>
      simp only [wiresAfter, Channel.hearListener, hlistener]
      exact .refl
  | dialling | installing | removing | resting | «over» =>
    cases stimulus <;> simp only [wiresAfter, Channel.hearListener, hlistener] <;> exact .refl

/-- The connection takes bytes of a call. Then the call goes on, or it is over: after its last byte,
or when the connection takes nothing any more. -/
theorem moves_accepted {call : CallId} {rest : Bytes} {deadline : Instant} {line : LineId}
    (hcall : o.channel.calls.get? call = some (.writing rest deadline))
    (hwriter : o.channel.writer = some line) (n : Nat) :
    Moves o.outflow ((o.channel.hearWrite call (.accepted n)).outflow o.asked
      (o.wiresAfter (.hearWrite call (.accepted n)))) := by
  have htake := Move.take (t := o.outflow) n hcall hwriter
  have hthere : (o.channel.calls.put call (.writing (rest.drop n) deadline)).get? call =
      some (.writing (rest.drop n) deadline) := by
    rw [Roster.get?_put, if_pos rfl]
  simp only [wiresAfter, Channel.hearWrite, hcall, hwriter]
  split
  · have hbreak := Move.breakOff (t := { o.outflow with
      wires := o.wires.modify line (·.add (rest.take n))
      calls := o.channel.calls.put call (.writing (rest.drop n) deadline) }) hthere
    rw [Channel.outflow_breakWriter]
    refine .head htake (.single ?_)
    rw [Outflow.leave, Roster.erase_put] at hbreak
    exact hbreak
  · split
    · rename_i hdrop
      rw [hdrop] at htake hthere
      have hfinish := Move.finish (t := { o.outflow with
        wires := o.wires.modify line (·.add (rest.take n))
        calls := o.channel.calls.put call (.writing [] deadline) }) hthere
      refine .head htake (.single ?_)
      rw [Outflow.leave, Roster.erase_put] at hfinish
      exact hfinish
    · exact .single htake

theorem moves_hearWrite (h : o.Connected) (call : CallId) (stimulus : Stimulus) :
    Moves o.outflow ((o.channel.perform (.hearWrite call stimulus)).outflow o.asked
      (o.wiresAfter (.hearWrite call stimulus))) := by
  show Moves o.outflow ((o.channel.hearWrite call stimulus).outflow o.asked _)
  by_cases hwriting : ∃ rest deadline, o.channel.calls.get? call = some (.writing rest deadline)
  · obtain ⟨rest, deadline, hcall⟩ := hwriting
    obtain ⟨line, hwriter⟩ := h call rest deadline hcall
    cases stimulus with
    | accepted n => exact moves_accepted hcall hwriter n
    | writeFailed fault =>
      simp only [wiresAfter, Channel.hearWrite, hcall]
      exact Channel.moves_breakWriter hcall
    | flushed | flushFailed | received | ended | readFailed | expired =>
      simp only [wiresAfter, Channel.hearWrite, hcall]
      exact .refl
  · have hother : ∀ rest deadline, o.channel.calls.get? call ≠ some (.writing rest deadline) :=
      fun rest deadline hcall => hwriting ⟨rest, deadline, hcall⟩
    have hwires : o.wiresAfter (.hearWrite call stimulus) = o.wires := by
      cases stimulus
      case accepted n =>
        rw [wiresAfter]
        split
        · exact absurd ‹_› (hother _ _)
        · rfl
      all_goals rfl
    have hchannel : o.channel.hearWrite call stimulus = o.channel := by
      unfold Channel.hearWrite
      split
      · exact absurd ‹_› (hother _ _)
      · exact absurd ‹_› (hother _ _)
      · rfl
    rw [hwires, hchannel]
    exact .refl

theorem moves_cancelCall (h : o.Connected) (call : CallId) :
    Moves o.outflow ((o.channel.perform (.cancelCall call)).outflow o.asked
      (o.wiresAfter (.cancelCall call))) := by
  by_cases hwriting : ∃ rest deadline, o.channel.calls.get? call = some (.writing rest deadline)
  · obtain ⟨rest, deadline, hcall⟩ := hwriting
    obtain ⟨line, hwriter⟩ := h call rest deadline hcall
    have habandon := Move.abandon (t := o.outflow) hcall hwriter
    simp only [wiresAfter, hcall, hwriter]
    exact .single habandon
  · have hother : ∀ rest deadline, o.channel.calls.get? call ≠ some (.writing rest deadline) :=
      fun rest deadline hcall => hwriting ⟨rest, deadline, hcall⟩
    have hwires : o.wiresAfter (.cancelCall call) = o.wires := by
      rw [wiresAfter]
      split
      · exact absurd ‹_› (hother _ _)
      · rfl
    rw [hwires]
    exact .single (.drop hother)

/-! ### Calls that begin to write -/

theorem isWriting_of_get? {c : Channel} {call : CallId} {stage : Option ChannelCall}
    (h : c.calls.get? call = stage)
    (hstage : ∀ rest deadline, stage ≠ some (.writing rest deadline)) :
    c.isWriting call = false := by
  unfold Channel.isWriting
  rw [h]
  split
  · exact absurd rfl (hstage _ _)
  · rfl

theorem get?_endCall (c : Channel) (call : CallId) : (c.endCall call).calls.get? call = none := by
  show (c.calls.erase call).get? call = none
  rw [Roster.get?_erase, if_pos rfl]

theorem isWriting_closeWriter (c : Channel) (call : CallId) :
    (c.closeWriter call).isWriting call = false := by
  rw [Channel.closeWriter]
  split
  · exact isWriting_of_get? (get?_endCall _ call) fun _ _ h => by contradiction
  · have hjoining : ((c.takeWriter.giveUp (.call call)).putCall call .joining).calls.get? call =
        some .joining := by
      show ((c.takeWriter.giveUp (.call call)).calls.put call .joining).get? call = _
      rw [Roster.get?_put, if_pos rfl]
    exact isWriting_of_get? hjoining fun _ _ h => by
      have := Option.some.inj h
      contradiction

/-- With the lock, a call writes if there is a connection. -/
theorem isWriting_beginWrite (c : Channel) (call : CallId) (payload : Bytes) (now : Instant) :
    (c.beginWrite call payload now).isWriting call = c.writer.isSome := by
  unfold Channel.beginWrite
  split
  · rename_i hwriter
    have hget : (c.putCall call (.writing payload (c.settings.writeTimeout.after now))).calls.get?
        call = some (.writing payload (c.settings.writeTimeout.after now)) :=
      (Roster.get?_put ..).trans (if_pos rfl)
    rw [hwriter, Channel.isWriting, hget]
    rfl
  · rename_i hwriter
    rw [hwriter]
    exact isWriting_of_get? (get?_endCall c call) fun _ _ h => by contradiction

theorem enteredAfter_same {event : ChannelEvent} {call : CallId}
    (h : (o.channel.perform event).isWriting call = o.channel.isWriting call) :
    o.enteredAfter event call = o.wires := by
  unfold enteredAfter
  rw [h]
  cases o.channel.isWriting call <;> rfl

theorem enteredAfter_beginWrite {event : ChannelEvent} {call : CallId} {c : Channel}
    {payload : Bytes} {now : Instant} (hbefore : o.channel.isWriting call = false)
    (hafter : o.channel.perform event = c.beginWrite call payload now)
    (hwriter : c.writer = o.channel.writer) :
    o.enteredAfter event call = match c.writer with
      | some line => o.wires.modify line (·.enter call)
      | none => o.wires := by
  rw [enteredAfter, hbefore, hafter, isWriting_beginWrite, hwriter]
  cases o.channel.writer <;> rfl

theorem moves_sendRealtime {call : CallId} {commands : List String} {now : Instant}
    (hadmits : o.Admits (.sendRealtime call commands now)) :
    Moves o.outflow ((o.channel.perform (.sendRealtime call commands now)).outflow
      (o.askedAfter (.sendRealtime call commands now))
      (o.wiresAfter (.sendRealtime call commands now))) := by
  rw [Admits, Bool.and_eq_true, Bool.not_eq_true', Bool.not_eq_true'] at hadmits
  have hasked : o.asked.get? call = none := Roster.get?_of_not_has (by simp [hadmits.1])
  have hcall : o.channel.calls.get? call = none := Roster.get?_of_not_has (by simp [hadmits.2])
  have hbefore : o.channel.isWriting call = false :=
    isWriting_of_get? hcall fun _ _ h => by contradiction
  have hask : Move o.outflow { o.outflow with asked := o.asked.put call commands } :=
    .ask hcall hasked
  show Moves o.outflow (Channel.outflow _ (o.asked.put call commands)
    (o.enteredAfter (.sendRealtime call commands now) call))
  cases hpayload : realtimePayload commands with
  | error fault =>
    have hsame : o.channel.perform (.sendRealtime call commands now) = o.channel := by
      rw [Channel.perform, Channel.sendRealtime, hpayload]
    rw [enteredAfter_same (congrArg (Channel.isWriting · call) hsame), hsame]
    exact .single hask
  | ok payload =>
    cases payload with
    | nil =>
      have hsame : o.channel.perform (.sendRealtime call commands now) =
          o.channel.ask (.sent call false) := by
        rw [Channel.perform, Channel.sendRealtime, hpayload]
      rw [enteredAfter_same (show _ = (o.channel.ask (.sent call false)).isWriting call from
        congrArg (Channel.isWriting · call) hsame), hsame]
      exact .single hask
    | cons b rest =>
      have hsent : o.channel.perform (.sendRealtime call commands now) =
          o.channel.queueWrite call (b :: rest) now := by
        rw [Channel.perform, Channel.sendRealtime, hpayload]
      have hqueue := Move.queue (t := o.outflow) hcall hasked hpayload
      have hqueued :
          ((o.channel.request (.call call)).putCall call (.queued (b :: rest))).calls.get? call =
            some (.queued (b :: rest)) := by
        show (o.channel.calls.put call _).get? call = _
        rw [Roster.get?_put, if_pos rfl]
      rw [Channel.queueWrite] at hsent
      split at hsent
      · rename_i hheld
        rw [enteredAfter_beginWrite hbefore hsent rfl, hsent]
        exact .head hqueue (Channel.moves_beginWrite hqueued hheld now)
      · have hafter :
            (o.channel.perform (.sendRealtime call commands now)).isWriting call = false := by
          rw [hsent]
          exact isWriting_of_get? hqueued fun _ _ h => by
            have := Option.some.inj h
            contradiction
        rw [enteredAfter_same (hafter.trans hbefore.symm), hsent]
        exact .single hqueue

theorem moves_resumeCall (o : Outlet) (call : CallId) (now : Instant) :
    Moves o.outflow ((o.channel.perform (.resumeCall call now)).outflow o.asked
      (o.wiresAfter (.resumeCall call now))) := by
  show Moves o.outflow ((o.channel.resumeCall call now).outflow o.asked
    (o.enteredAfter (.resumeCall call now) call))
  by_cases hready : o.channel.callReady call = true
  · have hresumed : o.channel.perform (.resumeCall call now) = o.channel.resumeCall call now := rfl
    rw [Channel.resumeCall, if_pos hready] at hresumed ⊢
    rw [Channel.callReady] at hready
    cases hcall : o.channel.calls.get? call with
    | none =>
      rw [hcall] at hready
      contradiction
    | some stage =>
      rw [hcall] at hready hresumed
      have hbefore : (∀ rest deadline, stage ≠ .writing rest deadline) →
          o.channel.isWriting call = false := fun hstage =>
        isWriting_of_get? hcall fun rest deadline h => hstage rest deadline (Option.some.inj h)
      cases stage with
      | queued payload =>
        rw [enteredAfter_beginWrite (hbefore fun _ _ h => by contradiction) hresumed rfl]
        exact Channel.moves_beginWrite hcall hready now
      | writing rest deadline => contradiction
      | closing =>
        have hafter := isWriting_closeWriter o.channel call
        rw [enteredAfter_same ((congrArg (Channel.isWriting · call) hresumed).trans
          (hafter.trans (hbefore fun _ _ h => by contradiction).symm))]
        exact Channel.moves_closeWriter hcall hready
      | joining =>
        have hafter : ((o.channel.endCall call).ask (.stopped call)).isWriting call = false :=
          isWriting_of_get? (get?_endCall o.channel call) fun _ _ h => by contradiction
        rw [enteredAfter_same ((congrArg (Channel.isWriting · call) hresumed).trans
          (hafter.trans (hbefore fun _ _ h => by contradiction).symm))]
        exact .single (.joined hcall)
  · have hsame : o.channel.perform (.resumeCall call now) = o.channel := by
      show o.channel.resumeCall call now = o.channel
      rw [Channel.resumeCall, if_neg hready]
    rw [enteredAfter_same (congrArg (Channel.isWriting · call) hsame)]
    show Moves o.outflow ((o.channel.perform (.resumeCall call now)).outflow o.asked o.wires)
    rw [hsame]
    exact .refl

/-- What happens to a channel is moves of what counts for its writing. -/
theorem moves_step (h : o.Connected) (event : ChannelEvent) :
    Moves o.outflow (o.step event).outflow := by
  by_cases hadmits : o.Admits event = true
  · rw [step, if_pos hadmits]
    cases event with
    | dialled now outcome => exact moves_dialled hadmits
    | hearListener now stimulus => exact moves_hearListener o now stimulus
    | listenerExpired now => exact Channel.moves_listenerExpired o.channel now
    | resumeListener now => exact Channel.moves_resumeListener o.channel now
    | sendRealtime call commands now => exact moves_sendRealtime hadmits
    | hearWrite call stimulus => exact moves_hearWrite h call stimulus
    | writeExpired call now =>
      show Moves o.outflow ((o.channel.writeExpired call now).outflow o.asked o.wires)
      rw [Channel.writeExpired]
      split
      · split
        · exact Channel.moves_breakWriter ‹_›
        · exact .refl
      · exact .refl
    | resumeCall call now => exact moves_resumeCall o call now
    | cancelCall call => exact moves_cancelCall h call
    | shutdown call =>
      rw [Admits, Bool.and_eq_true, Bool.not_eq_true', Bool.not_eq_true'] at hadmits
      exact Channel.moves_shutdown (Roster.get?_of_not_has (by simp [hadmits.2]))
  · rw [step, if_neg hadmits]

end Outlet

end BroadcastLink
