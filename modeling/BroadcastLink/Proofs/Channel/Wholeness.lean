import BroadcastLink.Proofs.Channel.Writers
import BroadcastLink.Proofs.Session.Payloads

/-!
# Whole payloads on a channel's connections

On every connection the greeting is written first, then the payloads of calls one after another. A
write that fails or takes too long leaves a rest that is never written, because it takes the writer
away before anyone else has the lock. A call that is given up does not: what it wrote of its payload
stays there, and the next call writes behind it. On a connection where that never happened, what is
written is whole payloads up to a rest of the last one.
-/

namespace BroadcastLink

namespace Outlet

/-- The payloads on a connection: the greeting, and the commands of the calls in order. -/
def payloads (asked : Roster CallId (List String)) (calls : List CallId) : List Bytes :=
  Channel.greetingBytes :: calls.map fun call => lineBytes (commandsOf asked call)

theorem payloads_enter (asked : Roster CallId (List String)) (calls : List CallId) (call : CallId) :
    payloads asked (calls ++ [call]) =
      payloads asked calls ++ [lineBytes (commandsOf asked call)] := by
  rw [payloads, payloads, List.map_append, List.cons_append]
  rfl

theorem commandsOf_put {asked : Roster CallId (List String)} {call c : CallId}
    (h : c ≠ call) (commands : List String) :
    commandsOf (asked.put call commands) c = commandsOf asked c := by
  rw [commandsOf, commandsOf, Roster.get?_put, if_neg h]

/-- What a new call is given is nothing to the payloads of others. -/
theorem payloads_put {asked : Roster CallId (List String)} {call : CallId} {calls : List CallId}
    (h : call ∉ calls) (commands : List String) :
    payloads (asked.put call commands) calls = payloads asked calls := by
  refine congrArg (Channel.greetingBytes :: ·) (List.map_congr_left fun c hc => ?_)
  have hne : c ≠ call := fun heq => h (heq ▸ hc)
  rw [commandsOf_put hne]

/-- All payloads together are the lines of the greeting's words and of the commands. -/
theorem flatten_payloads (asked : Roster CallId (List String)) (calls : List CallId) :
    (payloads asked calls).flatten =
      lineBytes (notifyWord :: meterWord :: calls.flatMap (commandsOf asked)) := by
  have hcalls : (calls.map fun call => lineBytes (commandsOf asked call)).flatten =
      lineBytes (calls.flatMap (commandsOf asked)) := by
    induction calls with
    | nil => rfl
    | cons call calls ih =>
      rw [List.map_cons, List.flatten_cons, ih, List.flatMap_cons]
      rw [lineBytes, lineBytes, lineBytes, List.flatMap_append]
  rw [payloads, List.flatten_cons, hcalls]
  rfl

end Outlet

namespace Outflow

open Outlet (commandsOf payloads payloads_enter payloads_put)

variable {t t' : Outflow} {call : CallId} {line : LineId} {w : Outgoing} {rest : Bytes}

/-- The commands have no line breaks. -/
def Clean (commands : List String) : Prop := ∀ command ∈ commands, breaksLine command = false

/-- The calls on the connections, each once, were given commands that are lines of their own, and so
was every call that waits to write, which is on none of them yet. -/
structure Known (t : Outflow) : Prop where
  entered : ∀ line w, t.wires.get? line = some w → w.calls.Nodup ∧
    ∀ call ∈ w.calls, t.asked.get? call ≠ none ∧ Clean (commandsOf t.asked call)
  queued : ∀ call payload, t.calls.get? call = some (.queued payload) →
    t.asked.get? call ≠ none ∧ Clean (commandsOf t.asked call) ∧
      payload = lineBytes (commandsOf t.asked call) ∧
      ∀ line w, t.wires.get? line = some w → call ∉ w.calls

/-- What is missing on a connection that somebody writes on: the rest of the greeting, or of what a
call still writes, or nothing. -/
structure Missing (t : Outflow) (line : LineId) (w : Outgoing) (rest : Bytes) : Prop where
  greeting : ∀ r, t.listener = .greeting line r → rest = r
  installing : t.listener = .installing line → rest = []
  writing : t.writer = some line → ∀ call r deadline,
    t.calls.get? call = some (.writing r deadline) → rest = r ∧ w.calls.getLast? = some call
  idle : t.writer = some line →
    (∀ call r deadline, t.calls.get? call ≠ some (.writing r deadline)) → rest = []

/-- Where no call was given up amid its payload, the payloads are whole up to what is missing. -/
def Laid (t : Outflow) : Prop :=
  ∀ line w, t.wires.get? line = some w → w.isTorn = false → ∃ rest,
    WrittenUpTo (payloads t.asked w.calls) rest w.bytes ∧ t.Missing line w rest

/-! ## The calls on the connections -/

/-- A call is on no connection before it is given something to write. -/
theorem Known.not_mem (h : t.Known) (hasked : t.asked.get? call = none)
    (hw : t.wires.get? line = some w) : call ∉ w.calls :=
  fun hmem => (((h.entered line w hw).2 call hmem).1 hasked).elim

/-- A call that waits was given its commands before. -/
theorem Known.ne_of_queued (h : t.Known) (hasked : t.asked.get? call = none) {c : CallId}
    {payload : Bytes} (hc : t.calls.get? c = some (.queued payload)) : c ≠ call :=
  fun heq => (h.queued c payload hc).1 (heq ▸ hasked)

/-- A new call is given commands. -/
theorem Known.ask (h : t.Known) (hasked : t.asked.get? call = none) (commands : List String) :
    { t with asked := t.asked.put call commands }.Known := by
  have hput : ∀ {c : CallId}, c ≠ call → t.asked.get? c ≠ none → Clean (commandsOf t.asked c) →
      (t.asked.put call commands).get? c ≠ none ∧
        Clean (commandsOf (t.asked.put call commands) c) := by
    intro c hc hthere hclean
    rw [Roster.get?_put, if_neg hc, Outlet.commandsOf_put hc]
    exact ⟨hthere, hclean⟩
  refine ⟨fun line w hw => ⟨(h.entered line w hw).1, fun c hc => ?_⟩, fun c payload hc => ?_⟩
  · obtain ⟨hthere, hclean⟩ := (h.entered line w hw).2 c hc
    exact hput (fun heq => hthere (heq ▸ hasked)) hthere hclean
  · obtain ⟨hthere, hclean, hpayload, hout⟩ := h.queued c payload hc
    have hne := h.ne_of_queued hasked hc
    obtain ⟨hthere', hclean'⟩ := hput hne hthere hclean
    exact ⟨hthere', hclean', by rw [Outlet.commandsOf_put hne]; exact hpayload, hout⟩

/-- Calls may end and go on to something else than waiting to write. -/
theorem Known.calls (h : t.Known) (hasked : t'.asked = t.asked) (hwires : t'.wires = t.wires)
    (hcalls : ∀ c payload, t'.calls.get? c = some (.queued payload) →
      t.calls.get? c = some (.queued payload)) : t'.Known := by
  refine ⟨?_, fun c payload hc => ?_⟩
  · rw [hasked, hwires]
    exact h.entered
  · rw [hasked, hwires]
    exact h.queued c payload (hcalls c payload hc)

/-- A connection may change what is written on it, and lose calls. -/
theorem Known.modify (h : t.Known) {f : Outgoing → Outgoing}
    (hf : ∀ w, (f w).calls.Sublist w.calls) (line : LineId) :
    { t with wires := t.wires.modify line f }.Known := by
  have hold : ∀ l v, (t.wires.modify line f).get? l = some v →
      ∃ w, t.wires.get? l = some w ∧ v.calls.Sublist w.calls := by
    intro l v hv
    rw [Roster.get?_modify] at hv
    split at hv
    · obtain ⟨w, hw, rfl⟩ := Option.map_eq_some_iff.mp hv
      exact ⟨w, hw, hf w⟩
    · exact ⟨v, hv, List.Sublist.refl _⟩
  refine ⟨fun l v hv => ?_, fun c payload hc => ?_⟩
  · obtain ⟨w, hw, hsub⟩ := hold l v hv
    obtain ⟨hnodup, hmem⟩ := h.entered l w hw
    exact ⟨hnodup.sublist hsub, fun c hc => hmem c (hsub.subset hc)⟩
  · obtain ⟨hthere, hclean, hpayload, hout⟩ := h.queued c payload hc
    refine ⟨hthere, hclean, hpayload, fun l v hv hmem => ?_⟩
    obtain ⟨w, hw, hsub⟩ := hold l v hv
    exact hout l w hw (hsub.subset hmem)

/-- A call that waited begins to write. -/
theorem Known.enter (h : t.Known) {payload : Bytes}
    (hcall : t.calls.get? call = some (.queued payload)) (line : LineId) (deadline : Instant) :
    ({ t with wires := t.wires.modify line (·.enter call) }.putCall call
      (.writing payload deadline)).Known := by
  obtain ⟨hthere, hclean, -, hout⟩ := h.queued call payload hcall
  refine ⟨fun l v hv => ?_, fun c other hc => ?_⟩
  · change (t.wires.modify line (·.enter call)).get? l = some v at hv
    rw [Roster.get?_modify] at hv
    split at hv
    · obtain ⟨w, hw, rfl⟩ := Option.map_eq_some_iff.mp hv
      obtain ⟨hnodup, hmem⟩ := h.entered l w hw
      refine ⟨List.nodup_append.mpr ⟨hnodup, List.nodup_singleton call, ?_⟩, fun c hc => ?_⟩
      · intro c hc c' hc' heq
        exact hout l w hw (List.mem_singleton.mp hc' ▸ heq ▸ hc)
      · rcases List.mem_append.mp hc with hc | hc
        · exact hmem c hc
        · obtain rfl := List.mem_singleton.mp hc
          exact ⟨hthere, hclean⟩
    · exact h.entered l v hv
  · change (t.calls.put call (.writing payload deadline)).get? c = some (.queued other) at hc
    rw [Roster.get?_put] at hc
    split at hc
    · have := Option.some.inj hc
      contradiction
    · rename_i hne
      obtain ⟨hthere', hclean', hpayload', hout'⟩ := h.queued c other hc
      refine ⟨hthere', hclean', hpayload', fun l v hv hmem => ?_⟩
      change (t.wires.modify line (·.enter call)).get? l = some v at hv
      rw [Roster.get?_modify] at hv
      split at hv
      · obtain ⟨w, hw, rfl⟩ := Option.map_eq_some_iff.mp hv
        rcases List.mem_append.mp hmem with hmem | hmem
        · exact hout' l w hw hmem
        · exact hne (List.mem_singleton.mp hmem)
      · exact hout' l v hv hmem

theorem queued_of_put {calls : Roster CallId ChannelCall} {stage : ChannelCall} {c : CallId}
    {payload : Bytes} (hstage : ∀ p, stage ≠ .queued p)
    (h : (calls.put call stage).get? c = some (.queued payload)) :
    calls.get? c = some (.queued payload) := by
  rw [Roster.get?_put] at h
  split at h
  · exact absurd (Option.some.inj h) (hstage payload)
  · exact h

theorem get?_of_erase {calls : Roster CallId ChannelCall} {stage : ChannelCall} {c : CallId}
    (h : (calls.erase call).get? c = some stage) : calls.get? c = some stage := by
  rw [Roster.get?_erase] at h
  split at h
  · contradiction
  · exact h

/-- A connection is made with no call on it. -/
theorem Known.connect (h : t.Known) (line : LineId) (stage : ListenerStage) :
    { t with listener := stage, wires := t.wires.put line {} }.Known := by
  have hold : ∀ l v, (t.wires.put line {}).get? l = some v →
      v = {} ∨ t.wires.get? l = some v := by
    intro l v hv
    rw [Roster.get?_put] at hv
    split at hv
    · exact .inl (Option.some.inj hv).symm
    · exact .inr hv
  refine ⟨fun l v hv => ?_, fun c payload hc => ?_⟩
  · rcases hold l v hv with rfl | hv
    · exact ⟨List.nodup_nil, fun c hc => by contradiction⟩
    · exact h.entered l v hv
  · obtain ⟨hthere, hclean, hpayload, hout⟩ := h.queued c payload hc
    refine ⟨hthere, hclean, hpayload, fun l v hv => ?_⟩
    rcases hold l v hv with rfl | hv
    · exact List.not_mem_nil
    · exact hout l v hv

/-- A payload that the channel accepts is lines of commands that break none. -/
theorem clean_of_realtimePayload {commands : List String} {payload : Bytes}
    (h : realtimePayload commands = .ok payload) :
    payload = lineBytes commands ∧ Clean commands := by
  rw [realtimePayload] at h
  split at h
  · contradiction
  · rename_i hnone
    refine ⟨(Except.ok.inj h).symm, fun command hmem => ?_⟩
    simpa using List.find?_eq_none.mp hnone command hmem

/-- A new call waits to write what it was given. -/
theorem Known.queue (h : t.Known) {commands : List String} {payload : Bytes}
    (hasked : t.asked.get? call = none) (hpayload : realtimePayload commands = .ok payload) :
    ({ t with asked := t.asked.put call commands }.queueUp call (.queued payload)).Known := by
  obtain ⟨hlines, hclean⟩ := clean_of_realtimePayload hpayload
  have hgiven := h.ask hasked commands
  have hcommands : commandsOf (t.asked.put call commands) call = commands := by
    rw [commandsOf, Roster.get?_put, if_pos rfl]
    rfl
  refine ⟨hgiven.entered, fun c other hc => ?_⟩
  change (t.calls.put call (.queued payload)).get? c = some (.queued other) at hc
  rw [Roster.get?_put] at hc
  split at hc
  · rename_i heq
    obtain rfl := ChannelCall.queued.inj (Option.some.inj hc)
    subst heq
    refine ⟨?_, ?_, ?_, fun l v hv => h.not_mem hasked hv⟩
    · show (t.asked.put c commands).get? c ≠ none
      rw [Roster.get?_put, if_pos rfl]
      exact Option.some_ne_none _
    · show Clean (commandsOf (t.asked.put c commands) c)
      rw [hcommands]
      exact hclean
    · show payload = lineBytes (commandsOf (t.asked.put c commands) c)
      rw [hcommands]
      exact hlines
  · exact hgiven.queued c other hc

theorem Known.move (h : t.Known) (hmove : Move t t') : t'.Known := by
  cases hmove with
  | ask hcall hasked => exact h.ask hasked _
  | queue hcall hasked hpayload => exact h.queue hasked hpayload
  | enter deadline hcall hheld hwriter => exact h.enter hcall _ deadline
  | @take call rest deadline line n hcall hwriter =>
    have hadded := h.modify (f := (·.add (rest.take n))) (fun w => List.Sublist.refl _) line
    exact hadded.calls rfl rfl fun c p hc => queued_of_put (fun _ heq => by contradiction) hc
  | finish hcall => exact h.calls rfl rfl fun c p hc => get?_of_erase hc
  | drop hcall => exact h.calls rfl rfl fun c p hc => get?_of_erase hc
  | @abandon call rest deadline line hcall hwriter =>
    have habandoned := h.modify
      (f := (·.abandon call (rest == lineBytes (commandsOf t.asked call)))) (fun w => by
        unfold Outgoing.abandon
        split
        · exact List.erase_sublist
        · exact List.Sublist.refl _) line
    exact habandoned.calls rfl rfl fun c p hc => get?_of_erase hc
  | breakOff hcall => exact h.calls rfl rfl fun c p hc => get?_of_erase hc
  | beginClosing hcall =>
    exact h.calls rfl rfl fun c p hc => queued_of_put (fun _ heq => by contradiction) hc
  | close hcall hheld =>
    exact h.calls rfl rfl fun c p hc => queued_of_put (fun _ heq => by contradiction) hc
  | joined hcall => exact h.calls rfl rfl fun c p hc => get?_of_erase hc
  | connect hlistener hline => exact h.connect _ _
  | @greet line rest n hlistener =>
    have hadded := h.modify (f := (·.add (rest.take n))) (fun w => List.Sublist.refl _) line
    exact hadded.calls rfl rfl fun c p hc => hc
  | greeted | install | remove | removed | rest => exact h.calls rfl rfl fun c p hc => hc

/-! ## What is missing on the connections -/

/-- Where nothing is written the payloads stay as they are, as long as nothing more is missing. -/
theorem Laid.keep (h : t.Laid) (hwires : t'.wires = t.wires)
    (hpayloads : ∀ line w, t.wires.get? line = some w →
      payloads t'.asked w.calls = payloads t.asked w.calls)
    (hmissing : ∀ line w rest, t.Missing line w rest → t'.Missing line w rest) : t'.Laid := by
  intro line w hw hwhole
  rw [hwires] at hw
  obtain ⟨rest, hwritten, hrest⟩ := h line w hw hwhole
  rw [hpayloads line w hw]
  exact ⟨rest, hwritten, hmissing line w rest hrest⟩

/-- On one connection something changes. -/
theorem Laid.modify (h : t.Laid) {f : Outgoing → Outgoing} (line : LineId)
    (hwires : t'.wires = t.wires.modify line f) (hasked : t'.asked = t.asked)
    (hothers : ∀ l w rest, l ≠ line → t.Missing l w rest → t'.Missing l w rest)
    (hhere : ∀ w, t.wires.get? line = some w → (f w).isTorn = false → w.isTorn = false ∧
      ∀ rest, WrittenUpTo (payloads t.asked w.calls) rest w.bytes → t.Missing line w rest →
        ∃ rest', WrittenUpTo (payloads t.asked (f w).calls) rest' (f w).bytes ∧
          t'.Missing line (f w) rest') : t'.Laid := by
  intro l v hv hwhole
  rw [hwires, Roster.get?_modify] at hv
  rw [hasked]
  split at hv
  · rename_i hl
    obtain ⟨w, hw, rfl⟩ := Option.map_eq_some_iff.mp hv
    rw [hl] at hw ⊢
    obtain ⟨hold, hgoesOn⟩ := hhere w hw hwhole
    obtain ⟨rest, hwritten, hrest⟩ := h line w hw hold
    exact hgoesOn rest hwritten hrest
  · rename_i hl
    obtain ⟨rest, hwritten, hrest⟩ := h l v hv hwhole
    exact ⟨rest, hwritten, hothers l v rest hl hrest⟩

/-- What is missing depends on the listener, on the writer and on the calls that write. -/
theorem Missing.same (h : t.Missing line w rest) (hlistener : t'.listener = t.listener)
    (hwriter : t'.writer = t.writer)
    (hcalls : ∀ c r deadline, t'.calls.get? c = some (.writing r deadline) ↔
      t.calls.get? c = some (.writing r deadline)) : t'.Missing line w rest := by
  refine ⟨?_, ?_, ?_, ?_⟩
  · rw [hlistener]
    exact h.greeting
  · rw [hlistener]
    exact h.installing
  · intro hline c r deadline hc
    exact h.writing (hwriter ▸ hline) c r deadline ((hcalls c r deadline).mp hc)
  · intro hline hidle
    exact h.idle (hwriter ▸ hline) fun c r deadline hc =>
      hidle c r deadline ((hcalls c r deadline).mpr hc)

/-- On a connection that nobody writes on anything may be missing. -/
theorem missing_of_unused (hlistener : ∀ r, t.listener ≠ .greeting line r)
    (hinstalling : t.listener ≠ .installing line) (hwriter : t.writer ≠ some line) :
    t.Missing line w rest :=
  ⟨fun r hr => absurd hr (hlistener r), fun heq => absurd heq hinstalling,
    fun heq => absurd heq hwriter, fun heq => absurd heq hwriter⟩

theorem writer_ne_of_none (h : t.writer = none) (line : LineId) : t.writer ≠ some line := by
  rw [h]
  exact (Option.some_ne_none line).symm

theorem writing_put_iff {calls : Roster CallId ChannelCall} {stage : ChannelCall} {c : CallId}
    {r : Bytes} {deadline : Instant} (hnew : ∀ r deadline, stage ≠ .writing r deadline)
    (hold : ∀ r deadline, calls.get? call ≠ some (.writing r deadline)) :
    (calls.put call stage).get? c = some (.writing r deadline) ↔
      calls.get? c = some (.writing r deadline) := by
  rw [Roster.get?_put]
  split
  · rename_i heq
    subst heq
    exact iff_of_false (fun h => hnew r deadline (Option.some.inj h)) (hold r deadline)
  · exact Iff.rfl

theorem writing_erase_iff {calls : Roster CallId ChannelCall} {c : CallId} {r : Bytes}
    {deadline : Instant} (hold : ∀ r deadline, calls.get? call ≠ some (.writing r deadline)) :
    (calls.erase call).get? c = some (.writing r deadline) ↔
      calls.get? c = some (.writing r deadline) := by
  rw [Roster.get?_erase]
  split
  · rename_i heq
    subst heq
    exact iff_of_false (fun h => by contradiction) (hold r deadline)
  · exact Iff.rfl

theorem not_writing_of {stage : ChannelCall} (h : t.calls.get? call = some stage)
    (hstage : ∀ r deadline, stage ≠ .writing r deadline) (r : Bytes) (deadline : Instant) :
    t.calls.get? call ≠ some (.writing r deadline) :=
  fun hwriting => hstage r deadline (Option.some.inj (h.symm.trans hwriting))

theorem not_writing_of_none (h : t.calls.get? call = none) (r : Bytes) (deadline : Instant) :
    t.calls.get? call ≠ some (.writing r deadline) :=
  fun hwriting => by
    rw [h] at hwriting
    contradiction

/-- What is missing on one connection is nothing to what is written on another. -/
theorem Missing.elsewhere {other : LineId} (h : t.Missing other w rest)
    (hlistener : t'.listener = t.listener) (hwriter : t'.writer = some line)
    (hne : other ≠ line) : t'.Missing other w rest := by
  have hother : t'.writer ≠ some other := fun heq => hne (Option.some.inj (heq.symm.trans hwriter))
  refine ⟨?_, ?_, fun heq => absurd heq hother, fun heq => absurd heq hother⟩
  · rw [hlistener]
    exact h.greeting
  · rw [hlistener]
    exact h.installing

/-- Without a writer nothing but a greeting can be missing. -/
theorem Missing.noWriter (h : t.Missing line w rest) (hlistener : t'.listener = t.listener)
    (hwriter : t'.writer = none) : t'.Missing line w rest := by
  have hnone := writer_ne_of_none hwriter line
  refine ⟨?_, ?_, fun heq => absurd heq hnone, fun heq => absurd heq hnone⟩
  · rw [hlistener]
    exact h.greeting
  · rw [hlistener]
    exact h.installing

/-! ### Calls -/

/-- What a call still writes is missing on the connection it writes on. -/
theorem missing_of_writing (h : t.Guarded) (hwriter : t.writer = some line) {deadline : Instant}
    (hothers : ∀ c r deadline, c ≠ call → t.calls.get? c ≠ some (.writing r deadline))
    (hlast : w.calls.getLast? = some call) (hlistener : t'.listener = t.listener)
    (hcalls : t'.calls = t.calls.put call (.writing rest deadline)) : t'.Missing line w rest := by
  refine ⟨?_, ?_, ?_, ?_⟩
  · intro r hr
    exact absurd (hlistener.symm.trans hr) (h.not_greeting hwriter line r)
  · intro hinstalling
    exact absurd (hlistener.symm.trans hinstalling) (h.not_installing hwriter line)
  · intro _ c r deadline' hc
    rw [hcalls, Roster.get?_put] at hc
    split at hc
    · rename_i heq
      obtain ⟨rfl, -⟩ := ChannelCall.writing.inj (Option.some.inj hc)
      exact ⟨rfl, heq ▸ hlast⟩
    · rename_i hne
      exact absurd hc (hothers c r deadline' hne)
  · intro _ hidle
    refine absurd ?_ (hidle call rest deadline)
    rw [hcalls, Roster.get?_put, if_pos rfl]

/-- Nobody but the holder of the lock writes. -/
theorem others_silent (h : t.Guarded) (hheld : t.lock.holder = some (.call call)) (c : CallId)
    (r : Bytes) (deadline : Instant) (hne : c ≠ call) :
    t.calls.get? c ≠ some (.writing r deadline) :=
  fun hc => hne (WriterUser.call.inj (h.alone hheld hc)).symm

/-- A call that waited begins to write where nothing is missing. -/
theorem Laid.enter (h : t.Laid) (hguarded : t.Guarded) (hknown : t.Known) {payload : Bytes}
    (deadline : Instant) (hcall : t.calls.get? call = some (.queued payload))
    (hheld : t.lock.holder = some (.call call)) (hwriter : t.writer = some line) :
    ({ t with wires := t.wires.modify line (·.enter call) }.putCall call
      (.writing payload deadline)).Laid := by
  have hothers := others_silent hguarded hheld
  -- The call holds the lock and only waits, so nobody writes and nothing is missing.
  have hnobody : ∀ c r deadline, t.calls.get? c ≠ some (.writing r deadline) := by
    intro c r deadline hc
    by_cases hne : c = call
    · exact not_writing_of hcall (fun _ _ heq => by contradiction) r deadline (hne ▸ hc)
    · exact hothers c r deadline hne hc
  refine h.modify (f := (·.enter call)) line rfl rfl
    (fun l w rest hl hrest => hrest.elsewhere rfl hwriter hl) fun w hw hwhole => ?_
  refine ⟨hwhole, fun rest hwritten hrest => ⟨payload, ?_, ?_⟩⟩
  · rw [hrest.idle hwriter hnobody] at hwritten
    rw [(hknown.queued call payload hcall).2.2.1]
    show WrittenUpTo (payloads t.asked (w.calls ++ [call])) _ w.bytes
    rw [payloads_enter]
    exact hwritten.begin _
  · exact missing_of_writing hguarded hwriter hothers List.getLast?_concat rfl rfl

/-- The connection takes bytes from the call that writes. -/
theorem Laid.take (h : t.Laid) (hguarded : t.Guarded) {r : Bytes} {deadline : Instant} (n : Nat)
    (hcall : t.calls.get? call = some (.writing r deadline)) (hwriter : t.writer = some line) :
    ({ t with wires := t.wires.modify line (·.add (r.take n)) }.putCall call
      (.writing (r.drop n) deadline)).Laid := by
  have hothers := others_silent hguarded (hguarded.writing call r deadline hcall).1
  refine h.modify (f := (·.add (r.take n))) line rfl rfl
    (fun l w rest hl hrest => hrest.elsewhere rfl hwriter hl) fun w hw hwhole => ?_
  refine ⟨hwhole, fun rest hwritten hrest => ⟨r.drop n, ?_, ?_⟩⟩
  · rw [(hrest.writing hwriter call r deadline hcall).1, ← List.take_append_drop n r] at hwritten
    exact hwritten.goOn
  · have hlast := (hrest.writing hwriter call r deadline hcall).2
    exact missing_of_writing hguarded hwriter hothers hlast rfl rfl

/-- Once the call that wrote is over, nobody writes. -/
theorem nobody_left (h : t.Guarded) {r : Bytes} {deadline : Instant}
    (hcall : t.calls.get? call = some (.writing r deadline)) (c : CallId) (r' : Bytes)
    (deadline' : Instant) : (t.calls.erase call).get? c ≠ some (.writing r' deadline') := by
  rw [Roster.get?_erase]
  split
  · exact fun heq => by contradiction
  · rename_i hne
    exact others_silent h (h.writing call r deadline hcall).1 c r' deadline' hne

/-- The last bytes of a payload were taken, and the call is over. -/
theorem Laid.finish (h : t.Laid) (hguarded : t.Guarded) {deadline : Instant}
    (hcall : t.calls.get? call = some (.writing [] deadline)) : (t.leave call).Laid := by
  refine h.keep rfl (fun _ _ _ => rfl) fun line w rest hrest => ?_
  refine ⟨hrest.greeting, hrest.installing, ?_, ?_⟩
  · intro _ c r deadline' hc
    exact absurd hc (nobody_left hguarded hcall c r deadline')
  · intro hline _
    exact (hrest.writing hline call [] deadline hcall).1

/-- A call that writes is given up. Where nothing of it was written it might as well not have begun;
elsewhere the connection is torn. -/
theorem Laid.abandon (h : t.Laid) (hguarded : t.Guarded) (hknown : t.Known) {r : Bytes}
    {deadline : Instant} (hcall : t.calls.get? call = some (.writing r deadline))
    (hwriter : t.writer = some line) :
    ({ t with
      wires := t.wires.modify line
        (·.abandon call (r == lineBytes (commandsOf t.asked call))) }.leave call).Laid := by
  refine h.modify (f := (·.abandon call (r == lineBytes (commandsOf t.asked call)))) line rfl rfl
    (fun l w rest hl hrest => hrest.elsewhere rfl hwriter hl) fun w hw hwhole => ?_
  unfold Outgoing.abandon at hwhole ⊢
  split at hwhole
  · rename_i huntouched
    rw [if_pos huntouched]
    refine ⟨hwhole, fun rest hwritten hrest => ⟨[], ?_, ?_⟩⟩
    -- The call is the last one on the connection, and only there, so it is the one taken off again.
    · obtain ⟨rfl, hlast⟩ := hrest.writing hwriter call r deadline hcall
      obtain ⟨earlier, hcalls⟩ := List.getLast?_eq_some_iff.mp hlast
      have hnodup := (hknown.entered line w hw).1
      rw [hcalls, List.nodup_append] at hnodup
      have hnew : call ∉ earlier := fun hmem =>
        hnodup.2.2 call hmem call (List.mem_singleton_self call) rfl
      rw [hcalls, beq_iff_eq.mp huntouched, payloads_enter] at hwritten
      show WrittenUpTo (payloads t.asked (w.calls.erase call)) [] w.bytes
      rw [hcalls, List.erase_append_right _ hnew, List.erase_cons_head, List.append_nil]
      exact hwritten.withdraw
    · refine ⟨fun r' hr => ?_, fun _ => rfl, fun _ c r' deadline' hc => ?_, fun _ _ => rfl⟩
      · exact absurd hr (hguarded.not_greeting hwriter line r')
      · exact absurd hc (nobody_left hguarded hcall c r' deadline')
  · contradiction

/-! ### The listener -/

/-- A connection is made, and all of the greeting is missing on it. -/
theorem Laid.connect (h : t.Laid) (hguarded : t.Guarded) {deadline : Instant}
    (hlistener : t.listener = .dialling deadline) (line : LineId) :
    { t with
      listener := .greeting line Channel.greetingBytes, wires := t.wires.put line {} }.Laid := by
  have hwriter := writer_ne_of_none (hguarded.noWriter_of_isApart (by rw [hlistener]; rfl))
  intro l w hw hwhole
  change (t.wires.put line {}).get? l = some w at hw
  rw [Roster.get?_put] at hw
  split at hw
  · rename_i hl
    subst hl
    obtain rfl := Option.some.inj hw
    refine ⟨Channel.greetingBytes, WrittenUpTo.nothing.begin Channel.greetingBytes, ?_, ?_, ?_, ?_⟩
    · exact fun r hr => (ListenerStage.greeting.inj hr).2
    · exact fun heq => by contradiction
    · exact fun heq => absurd heq (hwriter l)
    · exact fun heq => absurd heq (hwriter l)
  · rename_i hl
    obtain ⟨rest, hwritten, -⟩ := h l w hw hwhole
    exact ⟨rest, hwritten, missing_of_unused
      (fun r hr => hl (ListenerStage.greeting.inj hr).1.symm) (fun heq => by contradiction)
      (hwriter l)⟩

/-- The connection takes bytes of the greeting. -/
theorem Laid.greet (h : t.Laid) (hguarded : t.Guarded) {r : Bytes} (n : Nat)
    (hlistener : t.listener = .greeting line r) :
    { t with
      listener := .greeting line (r.drop n)
      wires := t.wires.modify line (·.add (r.take n)) }.Laid := by
  have hwriter := writer_ne_of_none (hguarded.noWriter_of_greeting hlistener)
  refine h.modify (f := (·.add (r.take n))) line rfl rfl (fun l w rest hl _ => ?_)
    fun w hw hwhole => ?_
  · exact missing_of_unused (fun r' hr => hl (ListenerStage.greeting.inj hr).1.symm)
      (fun heq => by contradiction) (hwriter l)
  · refine ⟨hwhole, fun rest hwritten hrest => ⟨r.drop n, ?_, ?_, ?_, ?_, ?_⟩⟩
    · rw [hrest.greeting r hlistener, ← List.take_append_drop n r] at hwritten
      exact hwritten.goOn
    · exact fun r' hr => (ListenerStage.greeting.inj hr).2
    · exact fun heq => by contradiction
    · exact fun heq => absurd heq (hwriter line)
    · exact fun heq => absurd heq (hwriter line)

/-- The greeting is out, and the listener wants to put the writer there. -/
theorem Laid.greeted (h : t.Laid) (hguarded : t.Guarded)
    (hlistener : t.listener = .greeting line []) :
    (t.listenerAsks (.installing line)).Laid := by
  have hwriter := writer_ne_of_none (hguarded.noWriter_of_greeting hlistener)
  refine h.keep rfl (fun _ _ _ => rfl) fun l w rest hrest => ?_
  refine ⟨fun r hr => by contradiction, fun heq => ?_, fun heq => ?_, fun heq => ?_⟩
  · obtain rfl := ListenerStage.installing.inj heq
    exact hrest.greeting [] hlistener
  · exact absurd heq (hwriter l)
  · exact absurd heq (hwriter l)

/-- The writer is put on a connection where nothing is missing. -/
theorem Laid.install (h : t.Laid) (hguarded : t.Guarded) (hlistener : t.listener = .installing line)
    (hheld : t.lock.holder = some .listener) :
    (t.listenerLeaves (some line) (.reading line)).Laid := by
  refine h.keep rfl (fun _ _ _ => rfl) fun l w rest hrest => ?_
  refine ⟨fun r hr => by contradiction, fun heq => by contradiction, ?_, ?_⟩
  · intro _ c r deadline hc
    have := hguarded.alone hheld hc
    contradiction
  · intro heq _
    obtain rfl := Option.some.inj heq
    exact hrest.installing hlistener

/-- Where the listener is on no connection and no writer is there, nothing is told. -/
theorem Laid.apart (h : t.Laid) {stage : ListenerStage} (hstage : stage.isApart = true)
    (hlistener : t'.listener = stage) (hwriter : t'.writer = none) (hwires : t'.wires = t.wires)
    (hasked : t'.asked = t.asked) : t'.Laid := by
  refine h.keep hwires (fun _ _ _ => by rw [hasked]) fun l w rest _ => missing_of_unused ?_ ?_ ?_
  · intro r hr
    rw [← hlistener, hr] at hstage
    contradiction
  · intro heq
    rw [← hlistener, heq] at hstage
    contradiction
  · exact writer_ne_of_none hwriter l

theorem Laid.move (h : t.Laid) (hguarded : t.Guarded) (hknown : t.Known) (hmove : Move t t') :
    t'.Laid := by
  cases hmove with
  | ask hcall hasked =>
    exact h.keep rfl (fun line w hw => payloads_put (hknown.not_mem hasked hw) _)
      fun _ _ _ hrest => hrest.same rfl rfl fun _ _ _ => Iff.rfl
  | queue hcall hasked hpayload =>
    exact h.keep rfl (fun line w hw => payloads_put (hknown.not_mem hasked hw) _)
      fun _ _ _ hrest => hrest.same rfl rfl fun _ _ _ =>
        writing_put_iff (fun _ _ heq => by contradiction) (not_writing_of_none hcall)
  | enter deadline hcall hheld hwriter => exact h.enter hguarded hknown deadline hcall hheld hwriter
  | take n hcall hwriter => exact h.take hguarded n hcall hwriter
  | finish hcall => exact h.finish hguarded hcall
  | drop hcall =>
    exact h.keep rfl (fun _ _ _ => rfl) fun _ _ _ hrest =>
      hrest.same rfl rfl fun _ _ _ => writing_erase_iff hcall
  | abandon hcall hwriter => exact h.abandon hguarded hknown hcall hwriter
  | breakOff hcall =>
    exact h.keep rfl (fun _ _ _ => rfl) fun _ _ _ hrest => hrest.noWriter rfl rfl
  | beginClosing hcall =>
    exact h.keep rfl (fun _ _ _ => rfl) fun _ _ _ hrest => hrest.same rfl rfl fun _ _ _ =>
      writing_put_iff (fun _ _ heq => by contradiction) (not_writing_of_none hcall)
  | close hcall hheld =>
    exact h.keep rfl (fun _ _ _ => rfl) fun _ _ _ hrest => hrest.noWriter rfl rfl
  | joined hcall =>
    exact h.keep rfl (fun _ _ _ => rfl) fun _ _ _ hrest => hrest.same rfl rfl fun _ _ _ =>
      writing_erase_iff (not_writing_of hcall fun _ _ heq => by contradiction)
  | connect hlistener hline => exact h.connect hguarded hlistener _
  | greet n hlistener => exact h.greet hguarded n hlistener
  | greeted hlistener => exact h.greeted hguarded hlistener
  | install hlistener hheld => exact h.install hguarded hlistener hheld
  | remove hlistener =>
    refine h.keep rfl (fun _ _ _ => rfl) fun _ _ _ hrest => ?_
    exact ⟨fun _ heq => by contradiction, fun heq => by contradiction, hrest.writing, hrest.idle⟩
  | removed hlistener hheld hstage => exact h.apart hstage rfl rfl rfl rfl
  | rest hlistener hstage =>
    exact h.apart hstage rfl (hguarded.noWriter_of_isApart hlistener) rfl rfl

end Outflow

end BroadcastLink
