import BroadcastLink.Station.Tasks

/-!
# The network on the bench

Servers that accept, refuse or never answer, and connections to them. A server reads lines and
answers them; the words that ask for events turn a connection into one on which nothing is answered.
Whatever a client does is seen by the servers only when the network moves.
-/

namespace BroadcastLink.Bench

/-- What a server does with those who connect. -/
inductive Mode where
  | accept
  | refuse
  | hang
  deriving DecidableEq, Repr

/-- One thing a server does in reply to a line. -/
inductive Reply where
  | send (bytes : Bytes)
  | close
  deriving DecidableEq, Repr

/-- A server. It refuses until it is told to do otherwise. -/
structure Server where
  mode : Mode := .refuse
  answersBlank : Bool := true
  reads : Bool := true
  replies : Roster String (List Reply) := {}
  deriving DecidableEq, Repr

/-- A change of a server; what is not given stays, and so do the replies to other lines. -/
structure ServerChange where
  mode : Option Mode := none
  answersBlank : Option Bool := none
  reads : Option Bool := none
  replies : List (String × List Reply) := []
  deriving DecidableEq, Repr

/-- Change a server. -/
def Server.change (s : Server) (c : ServerChange) : Server where
  mode := c.mode.getD s.mode
  answersBlank := c.answersBlank.getD s.answersBlank
  reads := c.reads.getD s.reads
  replies := c.replies.foldl (fun known e => known.put e.1 e.2) s.replies

/-- A connection: what the client wrote and the server has not read, newest piece first, the line
begun at the server, newest byte first, and what the server sent and the client has not read. -/
structure Wire where
  address : String
  written : List Bytes := []
  writtenSize : Nat := 0
  lineBegun : Bytes := []
  sent : Bytes := []
  /-- The server has ended its side. -/
  ended : Bool := false
  /-- The connection pushes events. -/
  pushes : Bool := false
  /-- The client has hung up. -/
  hungUp : Bool := false
  /-- The server has noticed. -/
  noticed : Bool := false
  deriving DecidableEq, Repr

/-- How many bytes a connection takes while the server does not read. -/
def wireRoom : Nat := 512 * 1024

/-- What a server sends arrives, unless it has ended its side. -/
def Wire.send (w : Wire) (bytes : Bytes) : Wire :=
  if w.ended then w else { w with sent := w.sent ++ bytes }

/-- The end of every answer. -/
def prompt : String := "\nars>"

/-- What a server does about a line. -/
def Server.repliesTo (s : Server) (line : String) : List Reply :=
  match s.replies.get? line with
  | some replies => replies
  | none =>
    if (Text.trim line.toList).isEmpty then
      if s.answersBlank then [.send (Text.encode prompt)] else []
    else if line = "hang" then []
    else [.send (Text.encode ("ok " ++ line ++ prompt))]

/-- A server replies. -/
def Wire.reply (w : Wire) : Reply → Wire
  | .send bytes => w.send bytes
  | .close => { w with ended := true }

/-- A server takes a line. -/
def Wire.takeLine (w : Wire) (s : Server) (line : String) : Wire :=
  let word := String.ofList (Text.trim line.toList)
  if word = notifyWord || word = meterWord then { w with pushes := true }
  else if w.pushes then w
  else (s.repliesTo line).foldl Wire.reply w

/-- A server reads a byte; a line break completes a line. What comes in after the server has ended
its side is ignored. -/
def Wire.takeByte (s : Server) (state : Wire × List String) (b : UInt8) : Wire × List String :=
  let (w, lines) := state
  if w.ended then (w, lines)
  else if b = 0x0A then
    let line := Text.decodeLossy w.lineBegun.reverse
    (({ w with lineBegun := [] } : Wire).takeLine s line, line :: lines)
  else ({ w with lineBegun := b :: w.lineBegun }, lines)

/-- Is the connection open for the server? -/
def Wire.isOpen (w : Wire) : Bool := !w.ended && !w.noticed

/-- A connection attempt of a task: its outcome, and whether the task may know it yet. -/
structure Attempt where
  task : Task
  outcome : Option (Except IoFault LineId)
  settled : Bool := false

/-- What happened at an address: attempts, connections accepted, connections hung up by clients, and
the lines received since the last report, newest first. -/
structure Tally where
  attempts : Nat := 0
  opened : Nat := 0
  closed : Nat := 0
  lines : List String := []
  isFresh : Bool := false
  deriving DecidableEq, Repr

/-- A tally as it is reported, its lines in the order they came. -/
def Tally.inReport (t : Tally) : Tally := { t with lines := t.lines.reverse }

/-- A tally after it was reported. -/
def Tally.afterReport (t : Tally) : Tally := { t with lines := [], isFresh := false }

/-- The network. -/
structure Network where
  servers : Roster String Server := {}
  wires : Roster LineId Wire := {}
  attempts : List Attempt := []
  tallies : Roster String Tally := {}

namespace Network

/-- Note something at an address. -/
def note (n : Network) (address : String) (f : Tally → Tally) : Network :=
  let t := (n.tallies.get? address).getD {}
  { n with tallies := n.tallies.put address { f t with isFresh := true } }

/-- Change a connection. -/
def onWire (n : Network) (line : LineId) (f : Wire → Wire) : Network :=
  { n with wires := n.wires.modify line f }

/-! ## Connecting -/

/-- A task begins to connect. Being refused shows at once, being accepted when the network moves. -/
def dial (n : Network) (task : Task) (address : String) : Network :=
  let n := n.note address fun t => { t with attempts := t.attempts + 1 }
  let attempt (n : Network) (outcome : Option (Except IoFault LineId)) (settled : Bool) : Network :=
    { n with attempts := n.attempts ++ [⟨task, outcome, settled⟩] }
  match (n.servers.get? address).map Server.mode with
  | some .accept =>
    let line := n.wires.size
    let n := n.note address fun t => { t with opened := t.opened + 1 }
    attempt { n with wires := n.wires.put line { address := address } } (some (.ok line)) false
  | some .hang => attempt n none false
  | some .refuse | none => attempt n (some (.error .refused)) true

/-- The attempt of a task. -/
def attempt? (n : Network) (task : Task) : Option Attempt := n.attempts.find? (·.task = task)

/-- The attempt of a task is over. -/
def endAttempt (n : Network) (task : Task) : Network :=
  { n with attempts := n.attempts.filter (·.task ≠ task) }

/-- A client hangs up. -/
def hangUp (n : Network) (line : LineId) : Network :=
  n.onWire line fun w => { w with hungUp := true }

/-- A task gives its attempt up; a connection already made is hung up. -/
def dropAttempt (n : Network) (task : Task) : Network :=
  match n.attempt? task with
  | some a =>
    let n := n.endAttempt task
    match a.outcome with
    | some (.ok line) => n.hangUp line
    | _ => n
  | none => n

/-! ## Clients -/

/-- Write as much as the connection takes: the part that was taken, or nothing if it is full. -/
def write (n : Network) (line : LineId) (bytes : Bytes) : Option (Network × Nat) :=
  match n.wires.get? line with
  | none => none
  | some w =>
    let taken := bytes.take (wireRoom - w.writtenSize)
    let size := taken.length
    if size = 0 then none
    else some (n.onWire line fun w =>
      { w with written := taken :: w.written, writtenSize := w.writtenSize + size }, size)

/-- Can something be written? -/
def hasRoom (n : Network) (line : LineId) : Bool :=
  (n.wires.get? line).any (·.writtenSize < wireRoom)

/-- Read what has arrived, or the end. -/
def read (n : Network) (line : LineId) (limit : Option Nat) : Option (Network × Stimulus) :=
  match n.wires.get? line with
  | none => none
  | some w =>
    if w.sent.isEmpty then
      if w.ended then some (n, .ended) else none
    else
      let taken := match limit with
        | some limit => w.sent.take limit
        | none => w.sent
      let rest := match limit with
        | some limit => w.sent.drop limit
        | none => []
      some (n.onWire line fun w => { w with sent := rest }, .received taken)

/-- Can something be read? -/
def hasNews (n : Network) (line : LineId) : Bool :=
  (n.wires.get? line).any fun w => !w.sent.isEmpty || w.ended

/-! ## Servers -/

/-- A server reads what a client wrote, and then sees whether the client has hung up. -/
def serve (n : Network) (line : LineId) : Network × Bool :=
  match n.wires.get? line with
  | none => (n, false)
  | some w =>
    match n.servers.get? w.address with
    | none => (n, false)
    | some s =>
      if !s.reads || w.noticed || (w.writtenSize = 0 && !w.hungUp) then (n, false)
      else
        let bytes := w.written.reverse.flatten
        let w := { w with written := [], writtenSize := 0 }
        let (w, lines) := bytes.foldl (Wire.takeByte s) (w, [])
        let n := if lines.isEmpty then n
          else n.note w.address fun t => { t with lines := lines ++ t.lines }
        let n := if w.hungUp then n.note w.address fun t => { t with closed := t.closed + 1 } else n
        ({ n with wires := n.wires.put line { w with noticed := w.hungUp } }, true)

/-- Change the open connections at an address, those that push or the others, and count them. -/
def onOpen (n : Network) (address : String) (pushes : Bool) (f : Wire → Wire) : Network × Nat :=
  let concerned (w : Wire) : Bool := w.address == address && w.isOpen && w.pushes == pushes
  ({ n with wires := n.wires.mapEntries fun _ w => if concerned w then f w else w },
    n.wires.values.countP concerned)

/-! ## Moving -/

/-- Everything that clients did reaches the servers, and everything servers did reaches the clients.
The tasks whose attempts are settled come out, and whether anything moved. -/
def pulse (n : Network) : Network × List Task × Bool :=
  let settling := n.attempts.filter fun a => !a.settled && a.outcome.isSome
  let n : Network := { n with
    attempts := n.attempts.map fun a => { a with settled := a.settled || a.outcome.isSome } }
  let (n, moved) := n.wires.keys.foldl (fun (r : Network × Bool) line =>
    let (n, served) := r.1.serve line
    (n, r.2 || served)) (n, false)
  (n, settling.map (·.task), moved || !settling.isEmpty)

/-- What happened since the last report, by address, and nothing is fresh any more. -/
def report (n : Network) : Network × List (String × Tally) :=
  ({ n with tallies := n.tallies.mapEntries fun _ t => t.afterReport },
    (n.tallies.entries.filter (·.2.isFresh)).map fun e => (e.1, e.2.inReport))

end Network

end BroadcastLink.Bench
