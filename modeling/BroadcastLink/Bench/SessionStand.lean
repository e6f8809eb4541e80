import BroadcastLink.Session

/-!
# A session on the bench

One session over a connection that does what it is told: which bytes it delivers, how many it takes
at once, whether it blocks, fails or ends. The clock moves only when told to.
-/

namespace BroadcastLink.Bench

/-- How the connection behaves. Limits of zero are none. -/
structure Script where
  incoming : Bytes := []
  ends : Bool := false
  blocks : Bool := false
  readLimit : Nat := 0
  writeLimit : Nat := 0
  readFault : Option IoKind := none
  writeFault : Option IoKind := none
  flushFault : Option IoKind := none
  deriving DecidableEq, Repr

/-- A change of the connection's behaviour; what is not given stays. -/
structure ScriptChange where
  ends : Option Bool := none
  blocks : Option Bool := none
  readLimit : Option Nat := none
  writeLimit : Option Nat := none
  readFault : Option (Option IoKind) := none
  writeFault : Option (Option IoKind) := none
  flushFault : Option (Option IoKind) := none
  deriving DecidableEq, Repr

/-- What is done with the session; calls bear a label. -/
inductive SessionStep where
  | send (label : String) (commands : List String)
  | check (label : String) (timeout : Duration)
  | invalidate (label : String)
  | close (label : String)
  | cancel (label : String)
  | advance (millis : Nat)
  | feed (bytes : Bytes)
  | set (change : ScriptChange)
  deriving DecidableEq, Repr

/-- What became of a call. -/
inductive SessionAnswer where
  | sent (outcome : Except Fault String)
  | checked (outcome : Except Fault Unit)
  | inUse
  | cancelled

/-- What is seen after a step. The session itself is seen only while no call holds it. -/
structure SessionReport where
  done : List (String × SessionAnswer)
  pending : Option String
  written : Bytes
  closings : Nat
  session : Option (Session × Instant)

/-- A session on the bench: the clock, the label and purpose of the pending call, and what was
written and answered since the last report. -/
structure SessionStand where
  session : Session
  script : Script := {}
  now : Instant := 0
  pending : Option (String × Purpose) := none
  written : List Bytes := []
  closings : Nat := 0
  done : List (String × SessionAnswer) := []

namespace Script

/-- At most `limit` of `n`, where zero is no limit. -/
def atMost (limit n : Nat) : Nat := if limit = 0 then n else min limit n

/-- Change the behaviour. -/
def change (s : Script) (c : ScriptChange) : Script where
  incoming := s.incoming
  ends := c.ends.getD s.ends
  blocks := c.blocks.getD s.blocks
  readLimit := c.readLimit.getD s.readLimit
  writeLimit := c.writeLimit.getD s.writeLimit
  readFault := c.readFault.getD s.readFault
  writeFault := c.writeFault.getD s.writeFault
  flushFault := c.flushFault.getD s.flushFault

/-- What the connection does for a writing exchange, if it does not block. -/
def write (s : Script) (bytes : Bytes) : Option Stimulus :=
  match s.writeFault with
  | some kind => some (.writeFailed (.bare kind))
  | none => if s.blocks then none else some (.accepted (atMost s.writeLimit bytes.length))

/-- What the connection does when it is flushed. -/
def flush (s : Script) : Stimulus :=
  match s.flushFault with
  | some kind => .flushFailed (.bare kind)
  | none => .flushed

/-- What the connection delivers, if it does not make the reader wait: bytes first, then a fault,
then the end. -/
def read (s : Script) : Script × Option Stimulus :=
  if s.incoming.isEmpty then
    match s.readFault with
    | some kind => (s, some (.readFailed (.bare kind)))
    | none => (s, if s.ends then some .ended else none)
  else
    let n := atMost s.readLimit s.incoming.length
    ({ s with incoming := s.incoming.drop n }, some (.received (s.incoming.take n)))

end Script

namespace SessionStand

/-- What a call of a purpose answers. -/
def answerOf (purpose : Purpose) (outcome : Except Fault String) : SessionAnswer :=
  match purpose with
  | .commands => .sent outcome
  | .check => .checked (outcome.map fun _ => ())

/-- Note what became of a call. -/
def finish (s : SessionStand) (label : String) (answer : SessionAnswer) : SessionStand :=
  { s with done := s.done ++ [(label, answer)] }

/-- Tell the pending exchange what the connection did. -/
def tell (s : SessionStand) (stimulus : Stimulus) : SessionStand :=
  let (session, outcome) := s.session.react s.now stimulus
  let s := { s with session := session }
  match s.pending, outcome with
  | some (label, purpose), some outcome =>
    finish { s with pending := none } label (answerOf purpose outcome)
  | _, _ => s

/-- Has the pending exchange run out of time? -/
def overdue (s : SessionStand) : Bool := s.session.alarm?.any (·.hasRung s.now)

/-- One move of the pending exchange, or nothing if it has to wait. -/
def move (s : SessionStand) : Option SessionStand :=
  match s.session.exchange with
  | none => none
  | some x =>
    match x.stage with
    | .writing rest =>
      (s.script.write rest).map fun stimulus =>
        let taken := match stimulus with
          | .accepted n => [rest.take n]
          | _ => []
        { s with written := s.written ++ taken }.tell stimulus
    | .flushing => some (s.tell s.script.flush)
    | .reading _ _ =>
      match s.script.read with
      | (script, some stimulus) => some ({ s with script := script }.tell stimulus)
      | (_, none) => if s.overdue then some (s.tell .expired) else none

/-- Go on until nothing moves. -/
def settle : Nat → SessionStand → SessionStand
  | 0, s => s
  | fuel + 1, s =>
    match s.move with
    | some s => settle fuel s
    | none => s

/-- More moves than a step can take: each uses up a byte or ends a stage. -/
def enough (s : SessionStand) : Nat :=
  let toWrite := match s.session.exchange with
    | some ⟨_, _, _, .writing rest⟩ => rest.length
    | _ => 0
  s.script.incoming.length + toWrite + 4

/-- Let everything run that can. -/
def run (s : SessionStand) : SessionStand := settle s.enough s

/-- Start a call, unless the session is in use. -/
def call (s : SessionStand) (label : String) (purpose : Purpose) (begun : Begun) : SessionStand :=
  match begun with
  | .over outcome => s.finish label (answerOf purpose outcome)
  | .inFlight session => run { s with session := session, pending := some (label, purpose) }

/-- Do something at once, unless the session is in use. -/
def unlessInUse (s : SessionStand) (label : String) (act : SessionStand → SessionStand) :
    SessionStand :=
  if s.pending.isSome then s.finish label .inUse else act s

/-- Move the clock; a deadline on the way is seen when it is due. -/
def advance (s : SessionStand) (millis : Nat) : SessionStand :=
  let target := Duration.after (.ofMillis millis) s.now
  let s := match s.session.alarm? with
    | some ⟨due, _⟩ => if due ≤ target then run { s with now := max s.now due } else s
    | none => s
  { s with now := target }

/-- One step. -/
def step (s : SessionStand) : SessionStep → SessionStand
  | .send label commands =>
    s.unlessInUse label fun s => s.call label .commands (s.session.send commands)
  | .check label timeout =>
    s.unlessInUse label fun s => s.call label .check (s.session.check timeout)
  | .invalidate label =>
    s.unlessInUse label fun s => { s with session := s.session.invalidate }
  | .close label =>
    s.unlessInUse label fun s =>
      { s with session := s.session.invalidate, closings := s.closings + 1 }
  | .cancel label =>
    match s.pending with
    | some (pending, _) =>
      if pending = label then
        finish { s with session := s.session.abandon, pending := none } label .cancelled
      else s
    | none => s
  | .advance millis => s.advance millis
  | .feed bytes => run { s with script := { s.script with incoming := s.script.incoming ++ bytes } }
  | .set change => run { s with script := s.script.change change }

/-- What is seen. -/
def report (s : SessionStand) : SessionReport where
  done := s.done
  pending := s.pending.map (·.1)
  written := s.written.flatten
  closings := s.closings
  session := if s.pending.isSome then none else some (s.session, s.now)

/-- All steps, with a report for each. -/
def runAll (s : SessionStand) : List SessionStep → List SessionReport
  | [] => []
  | step :: rest =>
    let s := { s with done := [], written := [] }.step step
    s.report :: s.runAll rest

end SessionStand

/-- What the steps show, beginning with a session just opened. -/
def runSession (id : Nat) (patience : Duration) (steps : List SessionStep) : List SessionReport :=
  SessionStand.runAll { session := .opened id 0 patience 0 } steps

end BroadcastLink.Bench
