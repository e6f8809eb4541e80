import BroadcastLink.Proofs.Channel.Wholeness

/-!
# What a studio receives on a notify connection

In every run of a channel, a connection on which no call was given up amid its payload carries the
greeting and then whole payloads, and once anything is missing for good it carries nothing more. On
other connections that fails: a call that is given up leaves a part of its payload, and the next
call's bytes are read as the end of its line.
-/

namespace BroadcastLink

namespace Outflow

variable {t t' : Outflow} {line : LineId}

/-- Nobody writes on the connection any more, and nobody will. -/
structure Sealed (t : Outflow) (line : LineId) : Prop where
  made : t.wires.get? line ≠ none
  greeting : ∀ r, t.listener ≠ .greeting line r
  installing : t.listener ≠ .installing line
  writer : t.writer ≠ some line

theorem get?_modify_of_ne (wires : Roster LineId Outgoing) {other : LineId} (h : other ≠ line)
    (f : Outgoing → Outgoing) : (wires.modify other f).get? line = wires.get? line := by
  rw [Roster.get?_modify, if_neg fun heq => h heq.symm]

theorem ne_of_writer {other : LineId} (h : t.Sealed line) (hwriter : t.writer = some other) :
    other ≠ line := fun heq => h.writer (heq ▸ hwriter)

theorem off_of_isApart {stage : ListenerStage} (h : stage.isApart = true) (line : LineId) :
    (∀ r, stage ≠ .greeting line r) ∧ stage ≠ .installing line := by
  refine ⟨fun r heq => ?_, fun heq => ?_⟩ <;>
    · rw [heq] at h
      contradiction

/-- A connection stays sealed, and what was written on it stays as it is. -/
theorem Sealed.move (h : t.Sealed line) (hmove : Move t t') :
    t'.Sealed line ∧ t'.wires.get? line = t.wires.get? line := by
  cases hmove with
  | ask | queue | finish | drop | beginClosing | joined =>
    exact ⟨⟨h.made, h.greeting, h.installing, h.writer⟩, rfl⟩
  | enter deadline hcall hheld hwriter | take n hcall hwriter | abandon hcall hwriter =>
    have hsame := get?_modify_of_ne t.wires (ne_of_writer h hwriter)
    exact ⟨⟨(hsame _).symm ▸ h.made, h.greeting, h.installing, h.writer⟩, hsame _⟩
  | breakOff | close =>
    exact ⟨⟨h.made, h.greeting, h.installing, (Option.some_ne_none line).symm⟩, rfl⟩
  | @connect deadline other hlistener hline =>
    have hne : line ≠ other := fun heq => h.made (heq ▸ hline)
    have hsame : (t.wires.put other {}).get? line = t.wires.get? line := by
      rw [Roster.get?_put, if_neg hne]
    refine ⟨⟨?_, fun r hr => ?_, fun heq => by contradiction, h.writer⟩, hsame⟩
    · exact hsame.symm ▸ h.made
    · exact hne (ListenerStage.greeting.inj hr).1.symm
  | @greet other rest n hlistener =>
    have hne : other ≠ line := fun heq => h.greeting rest (heq ▸ hlistener)
    have hsame := get?_modify_of_ne t.wires hne
    exact ⟨⟨(hsame _).symm ▸ h.made, fun r hr => hne (ListenerStage.greeting.inj hr).1,
      fun heq => by contradiction, h.writer⟩, hsame _⟩
  | @greeted other hlistener =>
    refine ⟨⟨h.made, fun r hr => by contradiction, fun heq => ?_, h.writer⟩, rfl⟩
    exact h.greeting [] (ListenerStage.installing.inj heq ▸ hlistener)
  | @install other hlistener hheld =>
    refine ⟨⟨h.made, fun r hr => by contradiction, fun heq => by contradiction, fun heq => ?_⟩, rfl⟩
    exact h.installing (Option.some.inj heq ▸ hlistener)
  | remove hlistener =>
    exact ⟨⟨h.made, fun r hr => by contradiction, fun heq => by contradiction, h.writer⟩, rfl⟩
  | removed hlistener hheld hstage =>
    obtain ⟨hgreeting, hinstalling⟩ := off_of_isApart hstage line
    exact ⟨⟨h.made, hgreeting, hinstalling, (Option.some_ne_none line).symm⟩, rfl⟩
  | rest hlistener hstage =>
    obtain ⟨hgreeting, hinstalling⟩ := off_of_isApart hstage line
    exact ⟨⟨h.made, hgreeting, hinstalling, h.writer⟩, rfl⟩

/-- Everything that holds of the writing in every state that a channel comes to. -/
structure Sound (t : Outflow) : Prop where
  guarded : t.Guarded
  known : t.Known
  laid : t.Laid

theorem Sound.moves (h : t.Sound) (hmoves : Moves t t') : t'.Sound := by
  induction hmoves with
  | refl => exact h
  | tail _ hmove ih =>
    exact ⟨ih.guarded.move hmove, ih.known.move hmove, ih.laid.move ih.guarded ih.known hmove⟩

theorem Sealed.moves (h : t.Sealed line) (hmoves : Moves t t') :
    t'.Sealed line ∧ t'.wires.get? line = t.wires.get? line := by
  induction hmoves with
  | refl => exact ⟨h, rfl⟩
  | tail _ hmove ih =>
    obtain ⟨hstill, hwires⟩ := ih.1.move hmove
    exact ⟨hstill, hwires.trans ih.2⟩

end Outflow

namespace Outlet

variable {o : Outlet} {line : LineId} {w : Outgoing}

theorem connected_of_guarded (h : o.outflow.Guarded) : o.Connected :=
  fun call rest deadline hcall => (h.writing call rest deadline hcall).2

theorem sound_toStudio (id : ChannelId) (studio : Studio) (settings : ChannelSettings)
    (now : Instant) : (toStudio id studio settings now).outflow.Sound where
  guarded := by
    refine ⟨List.nodup_nil, fun call => ?_, ?_, fun _ _ _ hc => ?_, fun _ hline => ?_⟩
    · refine iff_of_false List.not_mem_nil ?_
      rintro ⟨stage, hstage, -⟩
      contradiction
    · exact iff_of_false List.not_mem_nil Bool.false_ne_true
    · contradiction
    · contradiction
  known := ⟨fun _ _ hw => by contradiction, fun _ _ hc => by contradiction⟩
  laid := fun _ _ hw => by contradiction

/-! ## Runs -/

theorem sound_step (h : o.outflow.Sound) (event : ChannelEvent) : (o.step event).outflow.Sound :=
  h.moves (moves_step (connected_of_guarded h.guarded) event)

theorem sound_run (h : o.outflow.Sound) (events : List ChannelEvent) :
    (o.run events).outflow.Sound := by
  induction events generalizing o with
  | nil => exact h
  | cons event events ih => exact ih (sound_step h event)

/-- What was written on a connection that nobody writes on any more stays as it is. -/
theorem wires_run_of_sealed (h : o.outflow.Sound) (hsealed : o.outflow.Sealed line)
    (events : List ChannelEvent) : (o.run events).wires.get? line = o.wires.get? line := by
  induction events generalizing o with
  | nil => rfl
  | cons event events ih =>
    obtain ⟨hstill, hwires⟩ :=
      hsealed.moves (moves_step (connected_of_guarded h.guarded) event)
    exact (ih (sound_step h event) hstill).trans hwires

/-- What a call was given, it was given by one of the events. -/
theorem asked_run {call : CallId} {commands : List String} {events : List ChannelEvent}
    (h : (o.run events).asked.get? call = some commands) :
    o.asked.get? call = some commands ∨ ∃ now, .sendRealtime call commands now ∈ events := by
  induction events generalizing o with
  | nil => exact .inl h
  | cons event events ih =>
    rcases ih h with hstep | ⟨now, hmem⟩
    · rw [step] at hstep
      split at hstep
      · cases event with
        | sendRealtime c given now =>
          change (o.asked.put c given).get? call = _ at hstep
          rw [Roster.get?_put] at hstep
          split at hstep
          · rename_i heq
            obtain rfl := Option.some.inj hstep
            exact .inr ⟨now, heq ▸ List.mem_cons_self⟩
          · exact .inl hstep
        | dialled | hearListener | listenerExpired | resumeListener | hearWrite | writeExpired
        | resumeCall | cancelCall | shutdown => exact .inl hstep
      · exact .inl hstep
    · exact .inr ⟨now, List.mem_cons_of_mem event hmem⟩

/-- The listener still has to write the rest of the greeting on a connection, or a call the rest of
its payload. -/
def IsWriting (o : Outlet) (line : LineId) (rest : Bytes) : Prop :=
  o.channel.listener = .greeting line rest ∨ o.channel.writer = some line ∧
    ∃ call deadline, o.channel.calls.get? call = some (.writing rest deadline)

/-- What is missing is either still being written, or never will be. -/
theorem isWriting_or_sealed (h : o.outflow.Sound) (hw : o.wires.get? line = some w) {rest : Bytes}
    (hmissing : o.outflow.Missing line w rest) (hrest : rest ≠ []) :
    o.IsWriting line rest ∨ ∀ later, (o.run later).wires.get? line = some w := by
  by_cases hwriter : o.channel.writer = some line
  · by_cases hcall : ∃ call r deadline, o.channel.calls.get? call = some (.writing r deadline)
    · obtain ⟨call, r, deadline, hcall⟩ := hcall
      obtain ⟨rfl, -⟩ := hmissing.writing hwriter call r deadline hcall
      exact .inl (.inr ⟨hwriter, call, deadline, hcall⟩)
    · exact absurd (hmissing.idle hwriter fun c r d hc => hcall ⟨c, r, d, hc⟩) hrest
  · by_cases hgreeting : ∃ r, o.channel.listener = .greeting line r
    · obtain ⟨r, hr⟩ := hgreeting
      exact .inl (.inl (hmissing.greeting r hr ▸ hr))
    · right
      intro later
      rw [wires_run_of_sealed h ⟨?_, fun r hr => hgreeting ⟨r, hr⟩, ?_, hwriter⟩, hw]
      · show o.wires.get? line ≠ none
        rw [hw]
        exact Option.some_ne_none w
      · exact fun hinstalling => hrest (hmissing.installing hinstalling)

/-- On a connection on which no call was given up amid its payload, a studio receives whole
payloads. After any events, the calls on the connection are calls that were made, each once and with
commands that are lines of their own; the greeting and their payloads stand there one after another,
up to a rest of the last one that is still being written or after which nothing more ever is; and
the complete lines are the words of the greeting and then the commands, in order. -/
theorem run_delivers_whole_payloads (id : ChannelId) (studio : Studio) (settings : ChannelSettings)
    (now : Instant) (events : List ChannelEvent)
    (hw : ((toStudio id studio settings now).run events).wires.get? line = some w)
    (hwhole : w.isTorn = false) :
    let o := (toStudio id studio settings now).run events
    w.calls.Nodup ∧
    (∀ call ∈ w.calls, ∃ commands instant, .sendRealtime call commands instant ∈ events ∧
      o.asked.get? call = some commands ∧ ∀ command ∈ commands, breaksLine command = false) ∧
    (∃ rest, WrittenUpTo (payloads o.asked w.calls) rest w.bytes ∧
      (rest ≠ [] → o.IsWriting line rest ∨
        ∀ later, (o.run later).wires.get? line = some w)) ∧
    completeLines w.bytes <+:
      (notifyWord :: meterWord :: w.calls.flatMap (commandsOf o.asked)).map Text.encode := by
  intro o
  have hsound : o.outflow.Sound := sound_run (sound_toStudio id studio settings now) events
  obtain ⟨hnodup, hcalls⟩ := hsound.known.entered line w hw
  obtain ⟨rest, hwritten, hmissing⟩ := hsound.laid line w hw hwhole
  have hgiven : ∀ call ∈ w.calls, o.asked.get? call = some (commandsOf o.asked call) := by
    intro call hcall
    obtain ⟨commands, hcommands⟩ := Option.ne_none_iff_exists'.mp (hcalls call hcall).1
    rw [commandsOf, show o.asked.get? call = some commands from hcommands]
    rfl
  refine ⟨hnodup, fun call hcall => ?_,
    ⟨rest, hwritten, isWriting_or_sealed hsound hw hmissing⟩, ?_⟩
  · obtain hold | ⟨instant, hmem⟩ := asked_run (hgiven call hcall)
    · contradiction
    · exact ⟨_, instant, hmem, hgiven call hcall, (hcalls call hcall).2⟩
  -- The bytes and the rest together are whole lines, and the complete lines of a part come first.
  · have hclean : ∀ command ∈ notifyWord :: meterWord :: w.calls.flatMap (commandsOf o.asked),
        breaksLine command = false := by
      intro command hmem
      rcases List.mem_cons.mp hmem with rfl | hmem
      · decide
      · rcases List.mem_cons.mp hmem with rfl | hmem
        · decide
        · obtain ⟨call, hcall, hcommand⟩ := List.mem_flatMap.mp hmem
          exact (hcalls call hcall).2 command hcommand
    have hflat : w.bytes ++ rest = (payloads o.asked w.calls).flatten := hwritten.whole
    rw [← completeLines_lineBytes hclean, ← flatten_payloads, ← hflat]
    exact completeLines_append w.bytes rest

/-- A studio on the host itself. -/
def mainStudio : Studio := { name := "main", host := "127.0.0.1", port := 9000 }

/-- Two calls write, and the connection fails in the middle of the second one's line. -/
def cutShort : List ChannelEvent :=
  [.dialled 0 (.ok 7), .hearListener 0 (.accepted 4), .hearListener 0 (.accepted 6),
    .sendRealtime 1 ["a", "b"] 0, .sendRealtime 2 ["c"] 0, .hearWrite 1 (.accepted 4),
    .resumeCall 2 0, .hearWrite 2 (.accepted 1), .hearWrite 2 (.writeFailed (.bare .timedOut))]

/-- Both calls are on the connection, the second one without its line break. -/
theorem cutShort_delivers :
    ((toStudio 0 mainStudio {} 0).run cutShort).wires.get? 7 =
        some ⟨[1, 2], Channel.greetingBytes ++ [0x61, 0x0A, 0x62, 0x0A, 0x63], false⟩ ∧
      completeLines (Channel.greetingBytes ++ [0x61, 0x0A, 0x62, 0x0A, 0x63]) <+:
        ["notify", "vu", "a", "b", "c"].map Text.encode := by
  have hwire : ((toStudio 0 mainStudio {} 0).run cutShort).wires.get? 7 =
      some ⟨[1, 2], Channel.greetingBytes ++ [0x61, 0x0A, 0x62, 0x0A, 0x63], false⟩ := by decide
  exact ⟨hwire, (run_delivers_whole_payloads 0 mainStudio {} 0 cutShort hwire rfl).2.2.2⟩

/-- A call is given up when the first byte of its line is written, and another one writes. -/
def givenUp : List ChannelEvent :=
  [.dialled 0 (.ok 7), .hearListener 0 (.accepted 10), .sendRealtime 1 ["ab"] 0,
    .hearWrite 1 (.accepted 1), .cancelCall 1, .sendRealtime 2 ["cd"] 0, .hearWrite 2 (.accepted 3)]

/-- The studio reads a line that is no command: what is on the connection is not the greeting and
whole payloads of calls, whichever and up to whatever rest. -/
theorem givenUp_mixes_commands :
    ∃ w, ((toStudio 0 mainStudio {} 0).run givenUp).wires.get? 7 = some w ∧
    ∀ (batches : List (List String)) rest,
      (∀ batch ∈ batches, ∃ call instant, .sendRealtime call batch instant ∈ givenUp) →
      ¬ WrittenUpTo (Channel.greetingBytes :: batches.map lineBytes) rest w.bytes := by
  refine ⟨⟨[1, 2], Channel.greetingBytes ++ [0x61, 0x63, 0x64, 0x0A], true⟩, by decide, ?_⟩
  intro batches rest hbatches hwritten
  have hgiven : ∀ batch ∈ batches, batch = ["ab"] ∨ batch = ["cd"] := by
    intro batch hbatch
    obtain ⟨call, instant, hmem⟩ := hbatches batch hbatch
    simp only [givenUp, List.mem_cons, ChannelEvent.sendRealtime.injEq, List.not_mem_nil, or_false,
      reduceCtorEq, false_or] at hmem
    exact hmem.imp (·.2.1) (·.2.1)
  have hpayloads : ∀ payload ∈ Channel.greetingBytes :: batches.map lineBytes, ∃ commands,
      (∀ c ∈ commands, c ∈ ["notify", "vu", "ab", "cd"] ∧ breaksLine c = false) ∧
        payload = lineBytes commands := by
    intro payload hpayload
    rcases List.mem_cons.mp hpayload with rfl | hpayload
    · exact ⟨[notifyWord, meterWord], by decide, rfl⟩
    · obtain ⟨batch, hbatch, rfl⟩ := List.mem_map.mp hpayload
      rcases hgiven batch hbatch with rfl | rfl
      · exact ⟨["ab"], by decide, rfl⟩
      · exact ⟨["cd"], by decide, rfl⟩
  have hthere : [0x61, 0x63, 0x64] ∈ completeLines
      (Channel.greetingBytes ++ [0x61, 0x63, 0x64, 0x0A]) := by decide
  obtain ⟨command, hcommand, hline⟩ := hwritten.completeLines_mem
    (P := fun c => c ∈ ["notify", "vu", "ab", "cd"]) hpayloads hthere
  simp only [List.mem_cons, List.not_mem_nil, or_false] at hcommand
  rcases hcommand with rfl | rfl | rfl | rfl <;> exact absurd hline (by decide)

end Outlet

end BroadcastLink
