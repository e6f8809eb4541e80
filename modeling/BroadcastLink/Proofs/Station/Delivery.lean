import BroadcastLink.Proofs.Station.Execution

/-!
# Responses reach the calls they belong to

Any number of calls execute commands on one studio, while its pool is kept up, resized and cleared,
time runs out and calls are given up, in any order. Connections take and deliver bytes in pieces of
any size or fail; servers answer honestly, or stay silent. Whatever happens, a response given out is
the reply to the last command of the very call that gets it.
-/

namespace BroadcastLink

/-- Who wants something of a command connection, or a new one: a call, or the pool's upkeep. -/
inductive Worker where
  | caller (call : CallId)
  | upkeep
  deriving DecidableEq, Repr

/-- The task by which a worker does it. -/
def Worker.task : Worker → Task
  | .caller call => .call call
  | .upkeep => .upkeep 0

/-- The connection that something is wanted of. -/
def Want.line? : Want → Option LineId
  | .write line _ | .flush line | .read line _ => some line
  | _ => none

/-- What happens between a station and the servers of one studio. -/
inductive TrafficEvent where
  /-- A new call executes commands on a studio. -/
  | execute (call : CallId) (studio : String) (commands : Commands) (raw : Bool)
  /-- The connection that a call is busy with does something for it. -/
  | hear (call : CallId) (happening : Happening)
  | dialled (worker : Worker) (line : LineId)
  | dialFailed (worker : Worker) (fault : IoFault)
  | resume (worker : Worker)
  | expire (worker : Worker)
  | cancel (call : CallId)
  | clock (now : Instant)
  /-- The server at the other end of a connection answers a line. -/
  | reply (line : LineId) (index : Nat) (text : Bytes)
  | resize (min max : Nat)
  | clear
  deriving DecidableEq, Repr

/-- A station, its command connections, and what its calls were given to execute. -/
structure Traffic where
  station : Station
  wires : Roster LineId Wire := {}
  orders : Roster CallId Order := {}

namespace Traffic

/-- The start: a studio was linked, and no call has been made. -/
def linked (settings : RegistrySettings) (studio : Studio) : Traffic where
  station := Station.insertLink { registry := { settings := settings } } studio

/-- One event. Calls are made once each, new connections are not known yet, connections do only what
is wanted of them, and servers give only replies they may give. -/
def perform (t : Traffic) : TrafficEvent → Traffic
  | .execute call studio commands raw =>
    if t.orders.has call then t
    else
      { t with
        station := t.station.execute call studio commands ⟨false, raw⟩
        orders := t.orders.put call ⟨commands.toList, raw⟩ }
  | .hear call happening =>
    match (t.station.callWant call).line? with
    | none => t
    | some line =>
      match (t.wires.get? line).bind (·.meet call (t.station.callWant call) happening) with
      | none => t
      | some (w, stimulus) =>
        { t with
          station := t.station.hear (.call call) (.stimulus stimulus)
          wires := t.wires.put line w }
  | .dialled worker line =>
    match t.station.want worker.task with
    | .dial _ _ =>
      if t.wires.has line then t
      else
        { t with
          station := t.station.hear worker.task (.dialled (.ok line))
          wires := t.wires.put line {} }
    | _ => t
  | .dialFailed worker fault =>
    match t.station.want worker.task with
    | .dial _ _ => { t with station := t.station.hear worker.task (.dialled (.error fault)) }
    | _ => t
  | .resume worker => { t with station := t.station.resume worker.task }
  | .expire worker => { t with station := t.station.expire worker.task }
  | .cancel call => { t with station := t.station.cancel call }
  | .clock now => { t with station := { t.station with now := now } }
  | .reply line index text =>
    match t.wires.get? line with
    | none => t
    | some w =>
      if w.MayAnswer index text then { t with wires := t.wires.put line (w.answer index text) }
      else t
  | .resize min max =>
    { t with station := t.station.onPool 0 (·.resize min max t.station.now) }
  | .clear => { t with station := t.station.onPool 0 (·.clear) }

/-- Any number of events. -/
def run (t : Traffic) (events : List TrafficEvent) : Traffic := events.foldl perform t

/-- The servers are honest, and the station serves its calls what is theirs. -/
structure Sound (t : Traffic) : Prop where
  honest : Honest t.wires
  serving : t.station.Serving t.wires t.orders

variable {t : Traffic} {wires wires' : Roster LineId Wire} {orders : Roster CallId Order}
  {s : Station} {call : CallId} {line : LineId}

/-! ## Who wants what -/

theorem line_of_want {session : Session} (h : session.want.line? = some line) :
    session.line = line := by
  unfold Session.want at h
  split at h
  · exact Option.some.inj h
  · exact Option.some.inj h
  · exact Option.some.inj h
  · contradiction

theorem want_ne_dial (session : Session) (host : String) (port : UInt16) :
    session.want ≠ .dial host port := by
  intro h
  unfold Session.want at h
  split at h <;> contradiction

theorem callWant_borrowing {p : Pool} (hp : s.pools.get? 0 = some p) {commands : List String}
    {raw : Bool} (hcall : s.calls.get? call = some (.executing 0 commands raw .borrowing)) :
    s.callWant call = p.borrowWant call := by
  unfold Station.callWant
  rw [hcall]
  dsimp only
  rw [Station.ofPool, hp]
  rfl

theorem callWant_exchanging {p : Pool} (hp : s.pools.get? 0 = some p) {commands : List String}
    {raw : Bool} (hcall : s.calls.get? call = some (.executing 0 commands raw .exchanging)) :
    s.callWant call = ((p.loans.get? call).map Session.want).getD .patience := by
  unfold Station.callWant
  rw [hcall]
  dsimp only
  rw [Station.ofPool, hp]
  rfl

/-- A call that has its session wants nothing of it before it begins. -/
theorem callWant_lent {commands : List String} {raw : Bool}
    (hcall : s.calls.get? call = some (.executing 0 commands raw .lent)) :
    s.callWant call = .nothing := by
  rw [Station.callWant, hcall]

theorem callWant_gone (hcall : s.calls.get? call = none) : s.callWant call = .patience := by
  rw [Station.callWant, hcall]

/-- A call that wants something of a connection has a session on it, under check or lent. -/
theorem of_callWant_line (h : s.Serving wires orders)
    (hline : (s.callWant call).line? = some line) :
    ∃ (p : Pool) (order : Order) (session : Session), s.pools.get? 0 = some p ∧
      p.Attuned wires orders ∧ session.line = line ∧ s.callWant call = session.want ∧
      ((s.calls.get? call = some (.executing 0 order.commands order.raw .borrowing) ∧
          ∃ deadline counts, p.borrows.get? call = some ⟨.checking session, deadline, counts⟩) ∨
        (s.calls.get? call = some (.executing 0 order.commands order.raw .exchanging) ∧
          p.loans.get? call = some session)) := by
  obtain ⟨p, hp, hattuned⟩ := h.pool
  obtain hgone | ⟨order, stage, -, hcall⟩ := h.activity call
  · rw [callWant_gone hgone] at hline
    contradiction
  · cases stage with
    | borrowing =>
      rw [callWant_borrowing hp hcall] at hline ⊢
      unfold Pool.borrowWant at hline ⊢
      split at hline
      · rename_i session deadline counts hb
        exact ⟨p, order, session, hp, hattuned, line_of_want hline, rfl,
          .inl ⟨hcall, deadline, counts, hb⟩⟩
      · contradiction
      · split at hline <;> contradiction
      · contradiction
    | lent =>
      rw [callWant_lent hcall] at hline
      contradiction
    | exchanging =>
      rw [callWant_exchanging hp hcall] at hline ⊢
      cases hloan : p.loans.get? call with
      | none =>
        rw [hloan] at hline
        contradiction
      | some session =>
        rw [hloan] at hline
        exact ⟨p, order, session, hp, hattuned, line_of_want hline, rfl, .inr ⟨hcall, hloan⟩⟩

/-- A call that wants a connection is a caller that holds a place. -/
theorem of_callWant_dial (h : s.Serving wires orders) {host : String} {port : UInt16}
    (hwant : s.callWant call = .dial host port) :
    ∃ p order, s.pools.get? 0 = some p ∧ orders.get? call = some order ∧
      s.calls.get? call = some (.executing 0 order.commands order.raw .borrowing) ∧
      ∃ id until_ deadline counts,
        p.borrows.get? call = some ⟨.dialling id until_, deadline, counts⟩ := by
  obtain ⟨p, hp, -⟩ := h.pool
  obtain hgone | ⟨order, stage, horder, hcall⟩ := h.activity call
  · rw [callWant_gone hgone] at hwant
    contradiction
  · cases stage with
    | borrowing =>
      rw [callWant_borrowing hp hcall] at hwant
      unfold Pool.borrowWant at hwant
      split at hwant
      · exact absurd hwant (want_ne_dial _ host port)
      · rename_i id until_ deadline counts hb
        exact ⟨p, order, hp, horder, hcall, id, until_, deadline, counts, hb⟩
      · split at hwant <;> contradiction
      · contradiction
    | lent =>
      rw [callWant_lent hcall] at hwant
      contradiction
    | exchanging =>
      rw [callWant_exchanging hp hcall] at hwant
      cases hloan : p.loans.get? call with
      | none =>
        rw [hloan] at hwant
        contradiction
      | some session =>
        rw [hloan] at hwant
        exact absurd hwant (want_ne_dial session host port)

/-- Upkeep that wants a connection holds a place. -/
theorem of_upkeepWant_dial (h : s.Serving wires orders) {host : String} {port : UInt16}
    (hwant : s.want (.upkeep 0) = .dial host port) :
    ∃ p id deadline, s.pools.get? 0 = some p ∧ p.upkeep.stage = .dialling id deadline := by
  obtain ⟨p, hp, -⟩ := h.pool
  rw [Station.want, Station.ofPool, hp] at hwant
  replace hwant : p.upkeepWant s.now = .dial host port := hwant
  unfold Pool.upkeepWant at hwant
  split at hwant
  · split at hwant <;> contradiction
  · rename_i id deadline hstage
    exact ⟨p, id, deadline, hp, hstage⟩
  · contradiction
  · contradiction

/-! ## What connections do -/

/-- A connection did something for a call that wanted it. -/
theorem serving_hear (h : s.Serving wires orders) (hhonest : Honest wires) {w w' : Wire}
    {happening : Happening} {stimulus : Stimulus} (hline : (s.callWant call).line? = some line)
    (hw : wires.get? line = some w)
    (hmeet : w.meet call (s.callWant call) happening = some (w', stimulus)) :
    (s.hear (.call call) (.stimulus stimulus)).Serving (wires.put line w') orders ∧ w'.Honest := by
  obtain ⟨p, order, session, hp, hattuned, rfl, hwant, hstage⟩ := of_callWant_line h hline
  rw [hwant] at hmeet
  have hafter := Wire.after_meet (hhonest _ w hw) hmeet
  -- Only the wire of the call's own session has moved.
  have hwires : WiresAfter wires (wires.put session.line w') call session stimulus := by
    refine ⟨⟨w, w', hw, ?_, hafter⟩, fun other hother => ?_⟩
    · rw [Roster.get?_put, if_pos rfl]
    · rw [Roster.get?_put, if_neg hother]
  refine ⟨?_, hafter.honest⟩
  show (s.callHears call (.stimulus stimulus)).Serving _ orders
  unfold Station.callHears
  obtain ⟨hcall, deadline, counts, hb⟩ | ⟨hcall, hloan⟩ := hstage
  · rw [hcall]
    refine h.onPool hwires.grown fun q hq _ => ?_
    obtain rfl := Option.some.inj (hp.symm.trans hq)
    exact hattuned.hearCheck hb hwires s.now
  · rw [hcall]
    exact h.executionMoved hcall hp hloan hwires ⟨_, _, _, rfl⟩

/-- A connection that nothing is known of is no session's. -/
theorem unmoved_put_new (hnew : wires.get? line = none) (w : Wire) :
    Unmoved wires (wires.put line w) ∧ Grown wires (wires.put line w) := by
  have hkept : ∀ other (v : Wire), wires.get? other = some v →
      (wires.put line w).get? other = some v := by
    intro other v hv
    rw [Roster.get?_put, if_neg]
    · exact hv
    · rintro rfl
      rw [hnew] at hv
      contradiction
  exact ⟨fun other v hv => ⟨v, hkept other v hv, rfl, rfl⟩,
    fun other v hv => ⟨v, hkept other v hv, .refl v⟩⟩

theorem serving_dialled (h : s.Serving wires orders) {worker : Worker} {host : String}
    {port : UInt16} (hwant : s.want worker.task = .dial host port)
    (hnew : wires.get? line = none) :
    (s.hear worker.task (.dialled (.ok line))).Serving (wires.put line {}) orders := by
  obtain ⟨hunmoved, hgrown⟩ := unmoved_put_new hnew {}
  have hthere : (wires.put line {}).get? line = some {} := by rw [Roster.get?_put, if_pos rfl]
  cases worker with
  | caller call =>
    obtain ⟨p, order, hp, -, hcall, id, until_, deadline, counts, hb⟩ := of_callWant_dial h hwant
    show (s.callHears call (.dialled (.ok line))).Serving _ orders
    unfold Station.callHears
    rw [hcall]
    refine h.onPool hgrown fun q hq hattuned => ?_
    obtain rfl := Option.some.inj (hp.symm.trans hq)
    exact hattuned.dialled hb hnew hunmoved hthere s.now
  | upkeep =>
    obtain ⟨p, id, deadline, hp, hstage⟩ := of_upkeepWant_dial h hwant
    refine h.onPool hgrown fun q hq hattuned => ?_
    obtain rfl := Option.some.inj (hp.symm.trans hq)
    exact hattuned.upkeepDialled hstage hnew hunmoved hthere s.now

theorem serving_dialFailed (h : s.Serving wires orders) {worker : Worker} {host : String}
    {port : UInt16} (hwant : s.want worker.task = .dial host port) (fault : IoFault) :
    (s.hear worker.task (.dialled (.error fault))).Serving wires orders := by
  cases worker with
  | caller call =>
    obtain ⟨p, order, -, horder, hcall, -⟩ := of_callWant_dial h hwant
    show (s.callHears call (.dialled (.error fault))).Serving _ orders
    unfold Station.callHears
    rw [hcall]
    exact h.onPool (.refl wires) fun q _ hattuned =>
      hattuned.dialFailed (Station.known_of_order horder) s.now fault
  | upkeep =>
    exact h.onPool (.refl wires) fun q _ hattuned => hattuned.upkeepDialFailed s.now fault

/-! ## Every event, and any number of them -/

theorem honest_put (h : Honest wires) {w : Wire} (hw : w.Honest) : Honest (wires.put line w) := by
  intro other v hv
  rw [Roster.get?_put] at hv
  split at hv
  · rw [← Option.some.inj hv]
    exact hw
  · exact h other v hv

/-- A reply is on its way, and nobody has read of it. -/
theorem unmoved_put_answer {w : Wire} (hw : wires.get? line = some w) (hhonest : w.Honest)
    {index : Nat} {text : Bytes} (hmay : w.MayAnswer index text) :
    Unmoved wires (wires.put line (w.answer index text)) ∧
      Grown wires (wires.put line (w.answer index text)) := by
  have htranscript := (hhonest.answer hmay).2
  constructor
  · intro other v hv
    rw [Roster.get?_put]
    split
    · rename_i hother
      rw [hother, hw] at hv
      rw [← Option.some.inj hv]
      exact ⟨_, rfl, rfl, htranscript⟩
    · exact ⟨v, hv, rfl, rfl⟩
  · intro other v hv
    rw [Roster.get?_put]
    split
    · rename_i hother
      rw [hother, hw] at hv
      rw [← Option.some.inj hv]
      exact ⟨_, rfl, Wire.grows_answer w index text⟩
    · exact ⟨v, hv, .refl v⟩

/-- One event keeps everything sound. -/
theorem Sound.perform (h : t.Sound) (event : TrafficEvent) : (t.perform event).Sound := by
  obtain ⟨hhonest, hserving⟩ := h
  cases event with
  | execute call studio commands raw =>
    rw [Traffic.perform]
    split
    · exact ⟨hhonest, hserving⟩
    · rename_i hknown
      exact ⟨hhonest, hserving.execute (Roster.get?_of_not_has hknown) studio commands raw⟩
  | hear call happening =>
    rw [Traffic.perform]
    split
    · exact ⟨hhonest, hserving⟩
    · rename_i line hline
      split
      · exact ⟨hhonest, hserving⟩
      · rename_i w' stimulus hmet
        obtain ⟨w, hw, hmeet⟩ := Option.bind_eq_some_iff.mp hmet
        obtain ⟨hheard, hw'⟩ := serving_hear hserving hhonest hline hw hmeet
        exact ⟨honest_put hhonest hw', hheard⟩
  | dialled worker line =>
    rw [Traffic.perform]
    split
    · rename_i hwant
      split
      · exact ⟨hhonest, hserving⟩
      · rename_i hknown
        exact ⟨honest_put hhonest Wire.honest_new,
          serving_dialled hserving hwant (Roster.get?_of_not_has hknown)⟩
    · exact ⟨hhonest, hserving⟩
  | dialFailed worker fault =>
    rw [Traffic.perform]
    split
    · rename_i hwant
      exact ⟨hhonest, serving_dialFailed hserving hwant fault⟩
    · exact ⟨hhonest, hserving⟩
  | resume worker =>
    cases worker with
    | caller call => exact ⟨hhonest, hserving.resumeCall call⟩
    | upkeep => exact ⟨hhonest, hserving.onPool (.refl t.wires) fun p _ hattuned =>
        hattuned.tend t.station.now⟩
  | expire worker =>
    cases worker with
    | caller call => exact ⟨hhonest, hserving.callExpired hhonest call⟩
    | upkeep => exact ⟨hhonest, hserving.onPool (.refl t.wires) fun p _ hattuned =>
        hattuned.upkeepExpired t.station.now⟩
  | cancel call => exact ⟨hhonest, hserving.cancel call⟩
  | clock now =>
    exact ⟨hhonest, hserving.undisturbed (Station.undisturbed_of_same rfl rfl rfl rfl)⟩
  | reply line index text =>
    rw [Traffic.perform]
    split
    · exact ⟨hhonest, hserving⟩
    · rename_i w hw
      split
      · rename_i hmay
        obtain ⟨hunmoved, hgrown⟩ := unmoved_put_answer hw (hhonest line w hw) hmay
        exact ⟨honest_put hhonest ((hhonest line w hw).answer hmay).1,
          hserving.unmoved hgrown hunmoved⟩
      · exact ⟨hhonest, hserving⟩
  | resize min max =>
    exact ⟨hhonest, hserving.onPool (.refl t.wires) fun p _ hattuned =>
      hattuned.resize min max t.station.now⟩
  | clear => exact ⟨hhonest, hserving.onPool (.refl t.wires) fun p _ hattuned => hattuned.clear⟩

theorem Sound.run (h : t.Sound) (events : List TrafficEvent) : (t.run events).Sound := by
  induction events generalizing t with
  | nil => exact h
  | cons event rest ih => exact ih (h.perform event)

/-- A new pool has no sessions and no calls. -/
theorem attuned_forStudio (id : PoolId) (studio : Studio) (settings : PoolSettings)
    (now : Instant) : (Pool.forStudio id studio settings now).Attuned {} {} where
  apart := fun _ _ => rfl
  known := fun _ h => by rcases h with h | h <;> exact absurd rfl h
  sessions := ⟨Multiset.nodup_zero, fun s hs => absurd hs (Multiset.notMem_zero s)⟩
  loans := fun _ _ _ h => by contradiction

theorem sound_linked (settings : RegistrySettings) (studio : Studio) :
    (linked settings studio).Sound where
  honest := fun _ _ h => by contradiction
  serving := by
    refine ⟨⟨_, rfl, attuned_forStudio 0 studio settings.pool 0⟩, fun id hid => ?_,
      fun name link hlink => ?_, fun _ _ h => by contradiction, fun _ _ h => by contradiction⟩
    · show (Roster.put {} 0 _).get? id = none
      rw [Roster.get?_put, if_neg hid]
      rfl
    · replace hlink : (Roster.put {} studio.name _).get? name = some link := hlink
      rw [Roster.get?_put] at hlink
      split at hlink
      · rw [← Option.some.inj hlink]
        rfl
      · contradiction

/-- No response ever reaches the wrong call. After any events, whatever text a call gets for its
commands is the server's reply to the last of these very commands, and they stand on one connection
in one piece, with no other call's bytes between them. -/
theorem run_delivers (settings : RegistrySettings) (studio : Studio) (events : List TrafficEvent)
    (call : CallId) (text : String)
    (hanswer : (call, Answer.executed (some text)) ∈
      ((linked settings studio).run events).station.answers) :
    ∃ order, ((linked settings studio).run events).orders.get? call = some order ∧
      (order.commands ≠ [] → ∃ line w reply,
        ((linked settings studio).run events).wires.get? line = some w ∧
          w.Delivered call order.commands reply ∧
          text = if order.raw then Text.decodeLossy reply
            else Text.Markup.escape (Text.decodeLossy reply)) := by
  have hsound := (sound_linked settings studio).run events
  obtain ⟨order, horder, hdelivered⟩ := hsound.serving.answers call text hanswer
  refine ⟨order, horder, fun hne => ?_⟩
  obtain ⟨arrived, ⟨line, w, reply, hw, hreply, rfl⟩, htext⟩ := hdelivered hne
  exact ⟨line, w, reply, hw, hreply, htext⟩

/-- Two calls share one connection: the second waits for the first, and checks the session with a
blank line before it sends its own command. -/
def sharedConnection : List TrafficEvent :=
  [.execute 1 "s" (.single "a") true, .dialled (.caller 1) 7, .resume (.caller 1),
    .execute 2 "s" (.single "b") true, .hear 1 (.accepted 2), .hear 1 .flushed,
    .reply 7 0 [0x78], .hear 1 (.received 9), .resume (.caller 2), .hear 2 (.accepted 1),
    .hear 2 .flushed, .reply 7 1 [], .hear 2 (.received 3), .hear 2 (.received 2),
    .resume (.caller 2), .hear 2 (.accepted 1), .hear 2 (.accepted 1), .hear 2 .flushed,
    .reply 7 2 [0x79], .hear 2 (.received 9)]

/-- The second call gets the reply to its own command. -/
theorem sharedConnection_delivers :
    ∃ order, ((linked {} ⟨"s", "h", 1, 0, 1, none, false⟩).run sharedConnection).orders.get? 2 =
        some order ∧
      (order.commands ≠ [] → ∃ line w reply,
        ((linked {} ⟨"s", "h", 1, 0, 1, none, false⟩).run sharedConnection).wires.get? line =
          some w ∧ w.Delivered 2 order.commands reply ∧
          "y" = if order.raw then Text.decodeLossy reply
            else Text.Markup.escape (Text.decodeLossy reply)) :=
  run_delivers {} ⟨"s", "h", 1, 0, 1, none, false⟩ sharedConnection 2 "y" (by decide +kernel)

end Traffic

end BroadcastLink
