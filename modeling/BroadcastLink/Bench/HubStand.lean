import BroadcastLink.Hub

/-!
# A hub on the bench

A hub whose clock moves only when told to, and what each step shows: the result of the step and, as
long as the owner holds the hub, its topics.
-/

namespace BroadcastLink.Bench

/-- What is done with the hub. -/
inductive HubStep where
  | subscribe (topic name : String)
  | unsubscribe (name : String)
  /-- Send a payload; a payload sent more than once is numbered. -/
  | send (topic payload : String) (count : Nat)
  | receive (name : String) (count : Nat)
  | sweep
  /-- Sweep now and then once every interval; without an interval there is no sweeping. -/
  | startSweeping
  | stopSweeping
  | advance (millis : Nat)
  | close
  deriving DecidableEq, Repr

/-- What a step gives. -/
inductive HubAnswer where
  | done
  | counts (receivers : List Nat)
  | receipts (found : List Receipt)
  deriving DecidableEq, Repr

/-- What is seen after a step: the answer, and topics and subscribers as long as the hub is held. -/
structure HubReport where
  answer : HubAnswer
  topics : Option Nat
  subscribers : List (String × Nat)
  deriving DecidableEq, Repr

/-- A hub on the bench: the clock, when each periodic sweep is due, the topics named so far, and
whether the owner still holds the hub. -/
structure HubStand where
  hub : Hub
  now : Instant := 0
  sweeps : List Instant := []
  named : List String := []
  held : Bool := true
  deriving DecidableEq, Repr

namespace HubStand

/-- Remember a topic. -/
def name (s : HubStand) (topic : String) : HubStand :=
  if topic ∈ s.named then s else { s with named := s.named ++ [topic] }

/-- The hub is gone once neither its owner nor a periodic sweep holds it. -/
def settle (s : HubStand) : HubStand :=
  if s.held || !s.sweeps.isEmpty then s else { s with hub := s.hub.close }

/-- Send a payload a number of times. -/
def sendAll (h : Hub) (topic : String) : List String → Hub × List Nat
  | [] => (h, [])
  | payload :: rest =>
    let (h, n) := h.send topic payload
    let (h, ns) := sendAll h topic rest
    (h, n :: ns)

/-- The payloads to send: numbered if there is more than one. -/
def payloads (payload : String) (count : Nat) : List String :=
  if count = 1 then [payload]
  else (List.range count).map fun n => payload ++ Decimal.natText n

/-- Receive a number of times. -/
def receiveAll (h : Hub) (name : String) : Nat → Hub × List Receipt
  | 0 => (h, [])
  | n + 1 =>
    match h.receive name with
    | (h, none) => (h, [])
    | (h, some r) =>
      let (h, rs) := receiveAll h name n
      (h, r :: rs)

/-- Sweep if a periodic sweep is due, and say when the next one is. -/
def sweepDue (s : HubStand) : HubStand :=
  if s.sweeps.any (· ≤ s.now) then
    { s with
      hub := s.hub.sweep
      sweeps := s.sweeps.map fun due =>
        if due ≤ s.now then s.hub.settings.cleanupInterval.after due else due }
  else s

/-- Move the clock, a millisecond at a time. -/
def advance (s : HubStand) : Nat → HubStand
  | 0 => s
  | n + 1 => (sweepDue { s with now := Duration.after (.ofMillis 1) s.now }).advance n

/-- One step. -/
def step (s : HubStand) : HubStep → HubStand × HubAnswer
  | .subscribe topic name =>
    ({ s.name topic with hub := s.hub.subscribe name topic }, .done)
  | .unsubscribe name => ({ s with hub := s.hub.unsubscribe name }, .done)
  | .send topic payload count =>
    let (hub, ns) := sendAll s.hub topic (payloads payload count)
    ({ s.name topic with hub := hub }, .counts ns)
  | .receive name count =>
    let (hub, rs) := receiveAll s.hub name count
    ({ s with hub := hub }, .receipts rs)
  | .sweep => ({ s with hub := s.hub.sweep }, .done)
  | .startSweeping =>
    if s.hub.settings.cleanupInterval.nanos = 0 then (s, .done)
    else (sweepDue { s with sweeps := s.now :: s.sweeps }, .done)
  | .stopSweeping => ({ s with sweeps := s.sweeps.drop 1 }, .done)
  | .advance millis => (s.advance millis, .done)
  | .close => ({ s with held := false }, .done)

/-- What is seen. -/
def report (s : HubStand) (answer : HubAnswer) : HubReport :=
  if s.held then
    ⟨answer, some s.hub.topicCount, s.named.map fun t => (t, s.hub.subscriberCount t)⟩
  else ⟨answer, none, []⟩

/-- All steps, with a report for each. -/
def run (s : HubStand) : List HubStep → List HubReport
  | [] => []
  | step :: rest =>
    let (s, answer) := s.step step
    let s := s.settle
    s.report answer :: s.run rest

end HubStand

/-- What the steps show, beginning with a new hub. -/
def runHub (settings : HubSettings) (steps : List HubStep) : List HubReport :=
  HubStand.run { hub := { settings := settings } } steps

end BroadcastLink.Bench
