import BroadcastLink.Ident
import BroadcastLink.Registry.Summary
import BroadcastLink.Roster
import BroadcastLink.Settings
import BroadcastLink.Studio.Fleet
import BroadcastLink.Sync.Lock

/-!
# The registry of studios

Every configured studio has a link, which is a command pool and a notify channel. Calls that change
the set of links take turns; each goes through its work piece by piece and waits in between until a
pool is drained, a channel has stopped or a studio was launched.
-/

namespace BroadcastLink

/-- Where a configured studio stands. One that is absent stands nowhere. -/
inductive StudioState where
  /-- Its local server is being launched. -/
  | starting
  | live
  /-- It is being resized, rebuilt or taken down. -/
  | reconfiguring
  deriving DecidableEq, Repr

/-- The live connections of one studio. -/
structure Link where
  studio : Studio
  pool : PoolId
  channel : ChannelId
  /-- Grows whenever the connections are built anew. -/
  generation : Nat
  createdAt : Instant
  deriving DecidableEq, Repr

/-- A configuration on its way to take effect: the links found at its start, those still to be
removed, the studios still to be brought in line, and what has changed so far. -/
structure Reconfiguration where
  desired : Fleet
  current : Roster String Link := {}
  gone : List (String × Link) := []
  coming : List (String × Studio) := []
  summary : Summary := {}
  deriving DecidableEq, Repr

/-- What a call that changes the set of links is there for. -/
inductive Job where
  | configure (work : Reconfiguration)
  | launch (name : String)
  /-- Take down these links and forget the configuration. -/
  | shutdown (rest : List (String × Link))
  deriving DecidableEq, Repr

/-- How far such a call has come. -/
inductive JobStage where
  /-- Waiting for its turn. -/
  | queued
  /-- About to do the next piece of work. -/
  | next
  /-- Taking a link down: its pool is drained first, then its channel is stopped. -/
  | draining (link : Link)
  | drained (link : Link)
  | stopping (link : Link)
  | stopped (link : Link)
  | launching (studio : Studio)
  | launched (studio : Studio) (fault : Option Fault)
  deriving DecidableEq, Repr

/-- The registry: its links and the states of studios by name, the configuration in force, whose
turn it is, and the generation of the next link. -/
structure Registry where
  settings : RegistrySettings := {}
  links : Roster String Link := {}
  states : Roster String StudioState := {}
  desired : Fleet := {}
  turn : Lock CallId := {}
  nextGeneration : Nat := 1
  deriving DecidableEq, Repr

namespace Registry

/-- Entries in the order of their names. -/
def byName {α : Type} (entries : List (String × α)) : List (String × α) :=
  entries.mergeSort fun a b => decide (a.1 ≤ b.1)

/-- The names of the studios with a link, in order. -/
def studios (r : Registry) : List String := (byName r.links.entries).map (·.1)

/-- Note where a studio stands. -/
def setState (r : Registry) (name : String) (state : StudioState) : Registry :=
  { r with states := r.states.put name state }

/-- A studio is absent. -/
def clearState (r : Registry) (name : String) : Registry :=
  { r with states := r.states.erase name }

/-- Take a link out of the registry. -/
def removeLink (r : Registry) (name : String) : Registry :=
  { r with links := r.links.erase name }

/-- Put in a link over a new pool and a new channel; its studio is live. -/
def insertLink (r : Registry) (studio : Studio) (pool : PoolId) (channel : ChannelId)
    (now : Instant) : Registry :=
  { r with
    links := r.links.put studio.name ⟨studio, pool, channel, r.nextGeneration, now⟩
    nextGeneration := r.nextGeneration + 1 }.setState studio.name .live

/-- Replace a link by one over the same connections. -/
def replaceLink (r : Registry) (name : String) (link : Link) : Registry :=
  { r with links := r.links.put name link }.setState name .live

/-- The work of a configuration, given the links there are. -/
def plan (r : Registry) (desired : Fleet) : Reconfiguration where
  desired := desired
  current := r.links
  gone := (byName r.links.entries).filter fun e => (desired.get? e.1).isNone
  coming := desired.entries

end Registry

end BroadcastLink
