import BroadcastLink.Bench.Network
import BroadcastLink.Bench.Shell

/-!
# A launch on the bench

One launch by a shell, with the network it knocks at. A server may begin to accept at a given time,
after whatever else is due at that time.
-/

namespace BroadcastLink.Bench

/-- How a launch is run. -/
structure LaunchSetting where
  studio : Studio
  servers : List (String × ServerChange) := []
  timeout : Duration
  interval : Duration := Launch.defaultInterval
  runFor : Duration
  /-- An address that begins to accept, and when. -/
  opening : Option (String × Duration) := none
  /-- The process ends before the clock moves. -/
  endsProcess : Bool := false
  deriving DecidableEq, Repr

/-- A launch going on: the clock, and how it came out, once it has. -/
structure LaunchStand where
  launch : Launch
  network : Network
  now : Instant := 0
  ended : Option ExitStatus := none
  outcome : Option (Option Fault × Instant) := none

namespace LaunchStand

/-- Who knocks. -/
def knocker : Task := .call 0

/-- The launch is over. -/
def finish (s : LaunchStand) (fault : Option Fault) : LaunchStand :=
  { s with outcome := some (fault, s.now) }

/-- Note how the launch stands. -/
def put (s : LaunchStand) : Except Fault Launch → LaunchStand
  | .ok l => { s with launch := l }
  | .error fault => s.finish (some fault)

/-- One move of the launch, if it can move. -/
def move (s : LaunchStand) : Option LaunchStand :=
  if s.outcome.isSome then none
  else
    let knock := match s.launch.want with
      | .dial host port =>
        match s.network.attempt? knocker with
        | none =>
          some { s with network := s.network.dial knocker (addressText host port) }
        | some ⟨_, some outcome, true⟩ =>
          let s := { s with network := s.network.endAttempt knocker }
          match outcome with
          | .ok line => some ({ s with network := s.network.hangUp line }.finish none)
          | .error _ => some (s.put (s.launch.refused s.now s.ended))
        | some _ => none
      | _ => none
    match knock with
    | some s => some s
    | none =>
      if s.launch.alarms.any (·.hasRung s.now) then
        some ({ s with network := s.network.dropAttempt knocker }.put (s.launch.expired s.now))
      else none

/-- Go on until nothing moves. -/
def settle : Nat → LaunchStand → LaunchStand
  | 0, s => s
  | fuel + 1, s =>
    match s.move with
    | some s => settle fuel s
    | none =>
      let (network, _, moved) := s.network.pulse
      let s := { s with network := network }
      if moved then settle fuel s else s

/-- More moves than a launch takes. -/
def manyMoves : Nat := 1000000000

/-- Move the clock from alarm to alarm. -/
def runUntil : Nat → Instant → LaunchStand → LaunchStand
  | 0, _, s => s
  | fuel + 1, target, s =>
    let due := s.launch.alarms.foldl (fun time a => Nat.min time a.due) (target + 1)
    if s.outcome.isSome || target < due then { s with now := max s.now target }
    else runUntil fuel target (settle manyMoves { s with now := max s.now due })

/-- The opening takes place. -/
def openAt (s : LaunchStand) (address : String) : LaunchStand :=
  let server := (s.network.servers.get? address).getD {}
  { s with network.servers := s.network.servers.put address { server with mode := .accept } }

end LaunchStand

/-- How a launch comes out and when, if it does within the time it is run for. -/
def runLaunch (g : LaunchSetting) : Option (Option Fault × Instant) :=
  let servers := g.servers.map fun e => (e.1, ({} : Server).change e.2)
  match Launch.start g.studio g.timeout g.interval 0 with
  | .error fault => some (some fault, 0)
  | .ok launch =>
    let s : LaunchStand := { launch := launch, network := { servers := .ofList servers } }
    let s := LaunchStand.settle LaunchStand.manyMoves s
    let s := if g.endsProcess then
        { s with ended := g.studio.launchCommand.map Shell.exitStatus }
      else s
    let s := match g.opening with
      | some (address, time) =>
        if time.nanos ≤ g.runFor.nanos then
          (LaunchStand.runUntil LaunchStand.manyMoves time.nanos s).openAt address
        else s
      | none => s
    (LaunchStand.runUntil LaunchStand.manyMoves g.runFor.nanos s).outcome

end BroadcastLink.Bench
