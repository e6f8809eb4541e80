import BroadcastLink.Station

/-!
# Changing the set of links

A configuration removes the links that are no longer wanted, then goes through the wanted studios:
what is as it should be stays, other bounds resize the pool in place, another target takes the link
down and builds it anew, and a new studio is launched if need be and linked. A link is taken down by
draining its pool and then stopping its channel.
-/

namespace BroadcastLink.Station

/-- Change the registry. -/
def onRegistry (s : Station) (f : Registry → Registry) : Station :=
  { s with registry := f s.registry }

/-- Change how far a call has come. -/
def putJob (s : Station) (call : CallId) (job : Job) (stage : JobStage) : Station :=
  s.putCall call (.reconciling job stage)

/-- Give up one's turn, and wake the call whose turn it is. -/
def giveUpTurn (s : Station) (call : CallId) : Station :=
  let (turn, next) := s.registry.turn.giveUp call
  next.toList.foldl (fun s call => s.wake (.call call))
    (s.onRegistry fun r => { r with turn := turn })

/-- A call gave up its turn and is over. -/
def finishJob (s : Station) (call : CallId) (a : Answer) : Station :=
  (s.giveUpTurn call).finish call a

/-- Begin to change the set of links, when it is one's turn. -/
def startJob (s : Station) (call : CallId) (job : Job) : Station :=
  (s.onRegistry fun r => { r with turn := r.turn.request call }).startCall call
    (.reconciling job .queued)

/-- Bring the links in line with a configuration, unless it is defective. -/
def configure (s : Station) (call : CallId) (desired : Fleet) : Station :=
  match desired.validate with
  | .error fault => s.answer call (.fault fault)
  | .ok () => s.startJob call (.configure { desired := desired })

/-- Launch a studio's local server and build its link anew. -/
def launch (s : Station) (call : CallId) (name : String) : Station :=
  s.startJob call (.launch name)

/-- Take down every link. -/
def shutdown (s : Station) (call : CallId) : Station := s.startJob call (.shutdown [])

/-! ## Links -/

/-- Link a studio over a new pool and a new channel. -/
def insertLink (s : Station) (studio : Studio) : Station :=
  let pool := s.nextPool
  let channel := s.nextChannel
  let settings := s.registry.settings
  ((s.openPool studio settings.pool).openChannel studio settings.channel).onRegistry
    (·.insertLink studio pool channel s.now)

/-- Begin to take a link down. -/
def takeDown (s : Station) (call : CallId) (job : Job) (link : Link) : Station :=
  (s.putJob call job (.draining link)).onPool link.pool (·.startDrain call s.now)

/-- The pool of the link is drained: stop its channel. -/
def stopLink (s : Station) (call : CallId) (job : Job) (link : Link) : Station :=
  (s.putJob call job (.stopping link)).onChannel link.channel (·.shutdown call)

/-! ## A configuration -/

/-- The next piece of work of a configuration. -/
def configureNext (s : Station) (call : CallId) (w : Reconfiguration) : Station :=
  match w.gone, w.coming with
  | (name, link) :: _, _ =>
    (s.onRegistry fun r => (r.setState name .reconfiguring).removeLink name).takeDown call
      (.configure w) link
  | [], [] =>
    let s := s.onRegistry fun r => { r with desired := w.desired }
    s.finishJob call (.summary w.summary)
  | [], (name, studio) :: coming =>
    let next (s : Station) (summary : Summary) : Station :=
      s.putJob call (.configure { w with coming := coming, summary := summary }) .next
    match w.current.get? name with
    | some link =>
      if link.studio = studio then
        next s { w.summary with unchanged := w.summary.unchanged ++ [name] }
      else if link.studio.sameTarget studio then
        let s := s.onRegistry (·.setState name .reconfiguring)
        let s := s.onPool link.pool (·.resize studio.minPool.toNat studio.maxPool.toNat s.now)
        next (s.onRegistry (·.replaceLink name { link with studio := studio }))
          { w.summary with resized := w.summary.resized ++ [name] }
      else
        (s.onRegistry fun r => (r.setState name .reconfiguring).removeLink name).takeDown call
          (.configure w) link
    | none =>
      if studio.shouldLaunch then
        (s.onRegistry (·.setState studio.name .starting)).putJob call (.configure w)
          (.launching studio)
      else
        next (s.insertLink studio) { w.summary with added := w.summary.added ++ [name] }

/-- A link was taken down for a configuration: it was unwanted, or it is built anew. -/
def configureStopped (s : Station) (call : CallId) (w : Reconfiguration) : Station :=
  match w.gone, w.coming with
  | (name, _) :: gone, _ =>
    (s.onRegistry (·.clearState name)).putJob call
      (.configure { w with
        gone := gone
        summary := { w.summary with removed := w.summary.removed ++ [name] } }) .next
  | [], (name, studio) :: coming =>
    (s.insertLink studio).putJob call
      (.configure { w with
        coming := coming
        summary := { w.summary with recreated := w.summary.recreated ++ [name] } }) .next
  | [], [] => s.putJob call (.configure w) .next

/-- A new studio was launched for a configuration, or its launch failed. -/
def configureLaunched (s : Station) (call : CallId) (w : Reconfiguration) (studio : Studio)
    (fault : Option Fault) : Station :=
  let name := (w.coming.head?.map (·.1)).getD studio.name
  let coming := w.coming.tail
  match fault with
  | none =>
    (s.insertLink studio).putJob call
      (.configure { w with
        coming := coming
        summary := { w.summary with added := w.summary.added ++ [name] } }) .next
  | some _ =>
    (s.onRegistry (·.clearState studio.name)).putJob call
      (.configure { w with
        coming := coming
        summary := { w.summary with launchFailed := w.summary.launchFailed ++ [name] } }) .next

/-! ## A launch -/

/-- A launch: the studio has to be configured with a command, and its link is taken down first. -/
def launchNext (s : Station) (call : CallId) (name : String) : Station :=
  match s.registry.desired.get? name with
  | none => s.finishJob call (.fault (.unknownStudio name))
  | some studio =>
    if studio.launchCommand.isNone then s.finishJob call (.fault (.noLaunchCommand name))
    else match s.registry.links.get? name with
      | some link =>
        (s.onRegistry fun r => (r.removeLink name).setState name .reconfiguring).takeDown call
          (.launch name) link
      | none =>
        (s.onRegistry (·.setState name .starting)).putJob call (.launch name) (.launching studio)

/-- The link was taken down for a launch. -/
def launchStopped (s : Station) (call : CallId) (name : String) : Station :=
  match s.registry.desired.get? name with
  | none => s.finishJob call (.fault (.unknownStudio name))
  | some studio =>
    (s.onRegistry (·.setState name .starting)).putJob call (.launch name) (.launching studio)

/-- A studio was launched, or its launch failed. -/
def launchLaunched (s : Station) (call : CallId) (name : String) (studio : Studio)
    (fault : Option Fault) : Station :=
  match fault with
  | none => (s.insertLink studio).finishJob call .launched
  | some fault => (s.onRegistry (·.clearState name)).finishJob call (.fault fault)

/-! ## A shutdown -/

/-- The next link to take down, or the end. -/
def shutdownNext (s : Station) (call : CallId) (rest : List (String × Link)) : Station :=
  match rest with
  | [] => (s.onRegistry fun r => { r with desired := {} }).finishJob call .nothing
  | (name, link) :: _ =>
    (s.onRegistry (·.setState name .reconfiguring)).takeDown call (.shutdown rest) link

/-- A link was taken down for good. -/
def shutdownStopped (s : Station) (call : CallId) (rest : List (String × Link)) : Station :=
  match rest with
  | [] => s.putJob call (.shutdown []) .next
  | (name, _) :: rest => (s.onRegistry (·.clearState name)).putJob call (.shutdown rest) .next

/-! ## Going on -/

/-- It is a call's turn: see what there is to do. -/
def beginJob (s : Station) (call : CallId) (job : Job) : Station :=
  match job with
  | .configure w => s.putJob call (.configure (s.registry.plan w.desired)) .next
  | .launch name => s.putJob call (.launch name) .next
  | .shutdown _ =>
    let rest := Registry.byName s.registry.links.entries
    (s.onRegistry fun r => { r with links := {} }).putJob call (.shutdown rest) .next

/-- The next piece of a call's work. -/
def jobNext (s : Station) (call : CallId) (job : Job) : Station :=
  match job with
  | .configure w => s.configureNext call w
  | .launch name => s.launchNext call name
  | .shutdown rest => s.shutdownNext call rest

/-- The link that a call took down is gone. -/
def jobStopped (s : Station) (call : CallId) (job : Job) : Station :=
  match job with
  | .configure w => s.configureStopped call w
  | .launch name => s.launchStopped call name
  | .shutdown rest => s.shutdownStopped call rest

/-- The studio that a call launched is there, or not. -/
def jobLaunched (s : Station) (call : CallId) (job : Job) (studio : Studio) (fault : Option Fault) :
    Station :=
  match job with
  | .configure w => s.configureLaunched call w studio fault
  | .launch name => s.launchLaunched call name studio fault
  | .shutdown rest => s.putJob call (.shutdown rest) .next

/-- A call that waits for nothing goes on. -/
def resumeJob (s : Station) (call : CallId) (job : Job) (stage : JobStage) : Station :=
  match stage with
  | .queued => if s.registry.turn.heldBy call then s.beginJob call job else s
  | .next => s.jobNext call job
  | .draining link => s.onPool link.pool (·.resumeDrain s.now)
  | .drained link => s.stopLink call job link
  | .stopping link => s.onChannel link.channel (·.resumeCall call s.now)
  | .stopped _ => s.jobStopped call job
  | .launching _ => s
  | .launched studio fault => s.jobLaunched call job studio fault

/-- What a call wants. -/
def jobWant (s : Station) (call : CallId) (stage : JobStage) : Want :=
  match stage with
  | .queued => if s.registry.turn.heldBy call then .nothing else .patience
  | .next | .drained _ | .stopped _ | .launched _ _ => .nothing
  | .draining link => ((s.pools.get? link.pool).map (·.drainWant)).getD .patience
  | .stopping link => ((s.channels.get? link.channel).map (·.callWant call)).getD .patience
  | .launching studio => .launch studio

/-- A call was given up where it stood. -/
def cancelJob (s : Station) (call : CallId) (stage : JobStage) : Station :=
  let s := match stage with
    | .draining link => s.onPool link.pool (·.cancelDrain call)
    | .stopping link => s.onChannel link.channel (·.cancelCall call)
    | _ => s
  s.giveUpTurn call

end BroadcastLink.Station
