import BroadcastLink.Proofs.Channel.Greeting

/-!
# What a call has written so far

A call that writes has written of its payload what it has not left, in one piece, at the end of what
was written on the connection. That holds on torn connections too: what others left there stands in
front. So once nothing is left, the whole payload stands on the connection, and stays there.
-/

namespace BroadcastLink

namespace Outflow

open Outlet (commandsOf)

variable {t t' : Outflow} {call : CallId} {line : LineId} {w : Outgoing} {payload : Bytes}

/-- The payload stands on a connection, in one piece. -/
def Carried (t : Outflow) (payload : Bytes) : Prop :=
  ∃ line w, t.wires.get? line = some w ∧ payload <:+: w.bytes

/-- What is written stays. -/
theorem Carried.move (h : t.Carried payload) (hmove : Move t t') : t'.Carried payload := by
  obtain ⟨line, w, hw, hcarried⟩ := h
  obtain ⟨w', hw', hgrows⟩ := grows_move hmove hw
  exact ⟨line, w', hw', hcarried.trans hgrows.isInfix⟩

theorem Carried.moves (h : t.Carried payload) (hmoves : Moves t t') : t'.Carried payload := by
  induction hmoves with
  | refl => exact h
  | tail _ hmove ih => exact ih.move hmove

/-- All but the rest of a call's payload is the last that was written on the connection it writes
on. -/
def Underway (t : Outflow) (call : CallId) (rest : Bytes) : Prop :=
  ∃ line w written, t.writer = some line ∧ t.wires.get? line = some w ∧
    written <:+ w.bytes ∧ written ++ rest = lineBytes (commandsOf t.asked call)

/-- What is known of the connection that is there to write on, and of the call that writes. -/
structure Underways (t : Outflow) : Prop where
  greets : t.Greets
  wired : ∀ line, t.writer = some line → ∃ w, t.wires.get? line = some w
  writing : ∀ call rest deadline, t.calls.get? call = some (.writing rest deadline) →
    t.Underway call rest

namespace Underway

variable {rest : Bytes}

/-- The connection and the commands stay as they are. -/
theorem keep (h : t.Underway call rest) (hwriter : t'.writer = t.writer)
    (hwires : t'.wires = t.wires)
    (hasked : commandsOf t'.asked call = commandsOf t.asked call) : t'.Underway call rest := by
  unfold Underway
  rw [hwriter, hwires, hasked]
  exact h

/-- A call that begins to write has nothing of its payload written. -/
theorem enter (hwriter : t.writer = some line) (hw : t.wires.get? line = some w)
    (hrest : rest = lineBytes (commandsOf t.asked call)) : t.Underway call rest :=
  ⟨line, w, [], hwriter, hw, List.nil_suffix, hrest⟩

/-- The connection takes bytes of the call. -/
theorem take (h : t.Underway call rest) (n : Nat) (hline : t.writer = some line)
    (hwriter : t'.writer = t.writer)
    (hwires : t'.wires = t.wires.modify line (·.add (rest.take n)))
    (hasked : t'.asked = t.asked) : t'.Underway call (rest.drop n) := by
  obtain ⟨other, w, written, hother, hw, hlast, hwhole⟩ := h
  obtain rfl : other = line := Option.some.inj (hother.symm.trans hline)
  refine ⟨other, w.add (rest.take n), written ++ rest.take n, hwriter.trans hline, ?_, ?_, ?_⟩
  · rw [hwires, Roster.get?_modify, if_pos rfl, hw]
    rfl
  · obtain ⟨earlier, hbytes⟩ := hlast
    exact ⟨earlier, by rw [Outgoing.add, ← hbytes, List.append_assoc]⟩
  · rw [List.append_assoc, List.take_append_drop, hasked]
    exact hwhole

/-- Once nothing is left, the payload stands on the connection. -/
theorem carried (h : t.Underway call []) :
    t.Carried (lineBytes (commandsOf t.asked call)) := by
  obtain ⟨line, w, written, -, hw, hlast, hwhole⟩ := h
  rw [List.append_nil] at hwhole
  exact ⟨line, w, hw, hwhole ▸ hlast.isInfix⟩

end Underway

namespace Underways

/-- A connection that is there stays there. -/
theorem wired_move (h : t.Underways) (hmove : Move t t')
    (hwriter : ∀ line, t'.writer = some line → t.writer = some line) (line : LineId)
    (hline : t'.writer = some line) : ∃ w, t'.wires.get? line = some w := by
  obtain ⟨w, hw⟩ := h.wired line (hwriter line hline)
  obtain ⟨w', hw', -⟩ := grows_move hmove hw
  exact ⟨w', hw'⟩

/-- No call writes any more, as far as calls are over or go on to something else. -/
theorem writing_of_calls (h : t.Underways) (hwriter : t'.writer = t.writer)
    (hwires : t'.wires = t.wires) (hasked : t'.asked = t.asked)
    (hcalls : ∀ c rest deadline, t'.calls.get? c = some (.writing rest deadline) →
      t.calls.get? c = some (.writing rest deadline)) (c : CallId) (rest : Bytes)
    (deadline : Instant) (hc : t'.calls.get? c = some (.writing rest deadline)) :
    t'.Underway c rest :=
  (h.writing c rest deadline (hcalls c rest deadline hc)).keep hwriter hwires (by rw [hasked])

/-- While the listener holds the lock, or nobody is connected, no call writes. -/
theorem silent_of_listener (hguarded : t.Guarded) (hheld : t.lock.holder = some .listener)
    (c : CallId) (rest : Bytes) (deadline : Instant) :
    t.calls.get? c ≠ some (.writing rest deadline) := by
  intro hc
  have := hguarded.alone hheld hc
  contradiction

theorem silent_of_noWriter (hguarded : t.Guarded) (hwriter : t.writer = none) (c : CallId)
    (rest : Bytes) (deadline : Instant) : t.calls.get? c ≠ some (.writing rest deadline) := by
  intro hc
  obtain ⟨-, line, hline⟩ := hguarded.writing c rest deadline hc
  rw [hwriter] at hline
  contradiction

/-- What a new call is given is nothing to a call that writes. -/
theorem underway_put (h : t.Underways) (hnew : t.calls.get? call = none) (commands : List String)
    {c : CallId} {rest : Bytes} {deadline : Instant}
    (hc : t.calls.get? c = some (.writing rest deadline)) (hwriter : t'.writer = t.writer)
    (hwires : t'.wires = t.wires) (hasked : t'.asked = t.asked.put call commands) :
    t'.Underway c rest := by
  have hne : c ≠ call := fun heq => by
    rw [heq, hnew] at hc
    contradiction
  exact (h.writing c rest deadline hc).keep hwriter hwires
    (by rw [hasked, Outlet.commandsOf_put hne])

/-- The call that has the lock is the only one that writes. -/
theorem eq_of_writing_put (hguarded : t.Guarded) {c call : CallId} {rest payload : Bytes}
    {deadline deadline' : Instant} (hheld : t.lock.holder = some (.call call))
    (hc : (t.calls.put call (.writing payload deadline)).get? c = some (.writing rest deadline')) :
    c = call ∧ rest = payload := by
  rw [Roster.get?_put] at hc
  split at hc
  · rename_i heq
    exact ⟨heq, (ChannelCall.writing.inj (Option.some.inj hc)).1.symm⟩
  · rename_i hne
    exact absurd hc (others_silent hguarded hheld c rest deadline' hne)

theorem move (h : t.Underways) (hguarded : t.Guarded) (hknown : t.Known) (hmove : Move t t') :
    t'.Underways := by
  have hgreets := h.greets.move hguarded hmove
  have hwired := h.wired_move hmove
  cases hmove with
  | ask hcall hasked =>
    exact ⟨hgreets, hwired fun _ hline => hline, fun c rest deadline hc =>
      h.underway_put hcall _ hc rfl rfl rfl⟩
  | queue hcall hasked hpayload =>
    refine ⟨hgreets, hwired fun _ hline => hline, fun c rest deadline hc => ?_⟩
    have hbefore := (writing_put_iff (fun _ _ heq => by contradiction)
      (not_writing_of_none hcall)).mp hc
    exact h.underway_put hcall _ hbefore rfl rfl rfl
  | @enter call payload line deadline hcall hheld hwriter =>
    refine ⟨hgreets, hwired fun _ hline => hline, fun c rest deadline' hc => ?_⟩
    obtain ⟨rfl, rfl⟩ := eq_of_writing_put hguarded hheld hc
    obtain ⟨w, hw⟩ := h.wired line hwriter
    have hentered : (t.wires.modify line (·.enter c)).get? line = some (w.enter c) := by
      rw [Roster.get?_modify, if_pos rfl, hw]
      rfl
    exact .enter hwriter hentered (hknown.queued c _ hcall).2.2.1
  | @take call rest deadline line n hcall hwriter =>
    refine ⟨hgreets, hwired fun _ hline => hline, fun c rest' deadline' hc => ?_⟩
    obtain ⟨rfl, rfl⟩ := eq_of_writing_put hguarded (hguarded.writing call rest deadline hcall).1 hc
    exact (h.writing c rest deadline hcall).take n hwriter rfl rfl rfl
  | finish hcall =>
    exact ⟨hgreets, hwired fun _ hline => hline,
      fun c rest deadline hc => absurd hc (nobody_left hguarded hcall c rest deadline)⟩
  | drop hcall =>
    exact ⟨hgreets, hwired fun _ hline => hline, h.writing_of_calls rfl rfl rfl
      fun c rest deadline hc => get?_of_erase hc⟩
  | abandon hcall hwriter =>
    exact ⟨hgreets, hwired fun _ hline => hline,
      fun c rest deadline hc => absurd hc (nobody_left hguarded hcall c rest deadline)⟩
  | breakOff hcall =>
    exact ⟨hgreets, fun _ hline => by contradiction,
      fun c rest deadline hc => absurd hc (nobody_left hguarded hcall c rest deadline)⟩
  | beginClosing hcall =>
    exact ⟨hgreets, hwired fun _ hline => hline, h.writing_of_calls rfl rfl rfl
      fun c rest deadline hc => (writing_put_iff (fun _ _ heq => by contradiction)
        (not_writing_of_none hcall)).mp hc⟩
  | @close call hcall hheld =>
    refine ⟨hgreets, fun _ hline => by contradiction, fun c rest deadline hc => ?_⟩
    -- The call that shuts the channel down holds the lock, so nobody writes.
    have hsilent := not_writing_of hcall fun _ _ heq => by contradiction
    have hbefore := (writing_put_iff (fun _ _ heq => by contradiction) hsilent).mp hc
    by_cases hne : c = call
    · exact absurd (hne ▸ hbefore) (hsilent rest deadline)
    · exact absurd hbefore (others_silent hguarded hheld c rest deadline hne)
  | joined hcall =>
    exact ⟨hgreets, hwired fun _ hline => hline, h.writing_of_calls rfl rfl rfl
      fun c rest deadline hc => get?_of_erase hc⟩
  | connect hlistener hline =>
    have hnone := hguarded.noWriter_of_isApart (by rw [hlistener]; rfl)
    exact ⟨hgreets, hwired fun _ hline => hline, fun c rest deadline hc =>
      absurd hc (silent_of_noWriter hguarded hnone c rest deadline)⟩
  | greet n hlistener =>
    have hnone := hguarded.noWriter_of_greeting hlistener
    exact ⟨hgreets, hwired fun _ hline => hline, fun c rest deadline hc =>
      absurd hc (silent_of_noWriter hguarded hnone c rest deadline)⟩
  | greeted | remove | rest =>
    exact ⟨hgreets, hwired fun _ hline => hline, h.writing_of_calls rfl rfl rfl
      fun c rest deadline hc => hc⟩
  | @install line hlistener hheld =>
    refine ⟨hgreets, fun other hother => ?_, fun c rest deadline hc =>
      absurd hc (silent_of_listener hguarded hheld c rest deadline)⟩
    obtain rfl := Option.some.inj hother
    obtain ⟨w, hw, -⟩ : t.Greeted line := by
      have hgreeted := h.greets
      rw [Greets, hlistener] at hgreeted
      exact hgreeted
    exact ⟨w, hw⟩
  | removed hlistener hheld hstage =>
    exact ⟨hgreets, fun _ hline => by contradiction, fun c rest deadline hc =>
      absurd hc (silent_of_listener hguarded hheld c rest deadline)⟩

theorem moves (h : t.Underways) (hsound : t.Sound) (hmoves : Moves t t') : t'.Underways := by
  have hboth : t'.Underways ∧ t'.Sound := by
    induction hmoves with
    | refl => exact ⟨h, hsound⟩
    | tail _ hmove ih =>
      exact ⟨ih.1.move ih.2.guarded ih.2.known hmove, ih.2.moves (.single hmove)⟩
  exact hboth.1

end Underways

end Outflow

end BroadcastLink
