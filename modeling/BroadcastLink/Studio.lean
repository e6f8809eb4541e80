import BroadcastLink.Fault

/-!
# Studio definitions

A studio is a server to link to: where it listens, how many command sessions it may have, and how a
local one is started. Definitions are compared by value.
-/

namespace BroadcastLink

/-- Host and port in one text. -/
def addressText (host : String) (port : UInt16) : String :=
  host ++ ":" ++ Decimal.natText port.toNat

/-- One studio. -/
structure Studio where
  name : String
  host : String
  port : UInt16
  /-- Sessions kept open even when idle. -/
  minPool : UInt64 := 1
  /-- The most command sessions that may be open. -/
  maxPool : UInt64 := 5
  /-- The shell command that starts a local server. -/
  launchCommand : Option String := none
  /-- Is the local server started when the studio appears? -/
  autoStart : Bool := false
  deriving DecidableEq, Repr

namespace Studio

/-- Where a studio listens. -/
def address (s : Studio) : String := addressText s.host s.port

/-- Do two definitions point at the same server? -/
def sameTarget (a b : Studio) : Bool := a.host == b.host && a.port == b.port

/-- Must a local server be started before connecting? -/
def shouldLaunch (s : Studio) : Bool := s.autoStart && s.launchCommand.isSome

/-- The first reason why a definition cannot give a working link. -/
def defect? (s : Studio) : Option String :=
  if s.name.isEmpty then some "name is empty"
  else if s.host.isEmpty then some "host is empty"
  else if s.port = 0 then some "port is 0"
  else if s.maxPool = 0 then some "maxPoolSize must be at least 1"
  else if s.maxPool < s.minPool then some "minPoolSize exceeds maxPoolSize"
  else none

/-- Reject a definition that cannot give a working link. -/
def validate (s : Studio) : Except Fault Unit :=
  match s.defect? with
  | some reason => .error (.invalidConfig s.name reason)
  | none => .ok ()

end Studio

end BroadcastLink
