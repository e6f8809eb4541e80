import BroadcastLink.Alarm
import BroadcastLink.Want

/-!
# Launching a local studio

A launch starts the studio's command and then knocks at the studio's port again and again. It
succeeds as soon as the port answers. It fails when the command has ended badly, or when time is up.
-/

namespace BroadcastLink

/-- How a process ended. -/
inductive ExitStatus where
  | code (n : Nat)
  | signal (n : Nat)
  deriving DecidableEq, Repr

/-- The names of signals. -/
def signalNames : List (Nat × String) :=
  [(1, "SIGHUP"), (2, "SIGINT"), (3, "SIGQUIT"), (4, "SIGILL"), (5, "SIGTRAP"), (6, "SIGABRT"),
    (7, "SIGBUS"), (8, "SIGFPE"), (9, "SIGKILL"), (10, "SIGUSR1"), (11, "SIGSEGV"),
    (12, "SIGUSR2"), (13, "SIGPIPE"), (14, "SIGALRM"), (15, "SIGTERM"), (16, "SIGSTKFLT"),
    (17, "SIGCHLD"), (18, "SIGCONT"), (19, "SIGSTOP"), (20, "SIGTSTP"), (21, "SIGTTIN"),
    (22, "SIGTTOU"), (23, "SIGURG"), (24, "SIGXCPU"), (25, "SIGXFSZ"), (26, "SIGVTALRM"),
    (27, "SIGPROF"), (28, "SIGWINCH"), (29, "SIGIO"), (30, "SIGPWR"), (31, "SIGSYS")]

namespace ExitStatus

/-- Did the process end well? -/
def isSuccess (s : ExitStatus) : Bool := s = .code 0

/-- The text of an exit status. -/
def text : ExitStatus → String
  | .code n => "exit status: " ++ Decimal.natText n
  | .signal n =>
    let name := match signalNames.lookup n with
      | some name => " (" ++ name ++ ")"
      | none => ""
    "signal: " ++ Decimal.natText n ++ name

end ExitStatus

/-- What a launch is at: knocking at the port, or pausing. -/
inductive LaunchStage where
  | knocking
  | pausing (wakeAt : Instant)
  deriving DecidableEq, Repr

/-- A launch in progress. -/
structure Launch where
  studio : Studio
  timeout : Duration
  /-- How long it pauses between two knocks. -/
  interval : Duration
  deadline : Instant
  stage : LaunchStage := .knocking
  deriving DecidableEq, Repr

namespace Launch

/-- How long a launch pauses between two knocks, unless told otherwise. -/
def defaultInterval : Duration := .ofMillis 250

/-- How many bytes a command must stay below to be started. -/
def commandLimit : Nat := 128 * 1024

/-- Why no process can be started with a command, if so. -/
def obstacle? (command : String) : Option IoFault :=
  if command.toList.contains (Char.ofNat 0) then some (.custom "nul byte found in provided data")
  else if commandLimit ≤ command.utf8ByteSize then some (.system "Argument list too long" 7)
  else none

/-- Begin to launch a studio. Without a command there is nothing to start. -/
def start (studio : Studio) (timeout interval : Duration) (now : Instant) : Except Fault Launch :=
  match studio.launchCommand with
  | none => .error (.noLaunchCommand studio.name)
  | some command =>
    match obstacle? command with
    | some fault => .error (.launch studio.name ("spawn failed: " ++ fault.message))
    | none => .ok ⟨studio, timeout, interval, timeout.after now, .knocking⟩

/-- What a launch wants. -/
def want (l : Launch) : Want :=
  match l.stage with
  | .knocking => .dial l.studio.host l.studio.port
  | .pausing _ => .patience

/-- When a launch runs out of time: its pause first, then the launch itself. -/
def alarms (l : Launch) : List Alarm :=
  match l.stage with
  | .knocking => [⟨l.deadline, .launch⟩]
  | .pausing wakeAt => [⟨wakeAt, .pause⟩, ⟨l.deadline, .launch⟩]

/-- The fault of a launch. -/
def failure (l : Launch) (reason : String) : Fault := .launch l.studio.name reason

/-- A knock was not answered: the launch failed if the command has ended badly, and pauses
otherwise. -/
def refused (l : Launch) (now : Instant) (ended : Option ExitStatus) : Except Fault Launch :=
  match ended with
  | some status =>
    if status.isSuccess then .ok { l with stage := .pausing (l.interval.after now) }
    else .error (l.failure ("process exited with " ++ status.text))
  | none => .ok { l with stage := .pausing (l.interval.after now) }

/-- Fail once the deadline has passed. -/
def timeIsUp (l : Launch) (now : Instant) : Except Fault Launch :=
  if l.deadline ≤ now then
    .error (l.failure ("port " ++ Decimal.natText l.studio.port.toNat ++ " not accepting after "
      ++ l.timeout.text))
  else .ok l

/-- A deadline has passed: a pause is over, or time is up. -/
def expired (l : Launch) (now : Instant) : Except Fault Launch :=
  match l.stage with
  | .pausing wakeAt => if wakeAt ≤ now then .ok { l with stage := .knocking } else l.timeIsUp now
  | .knocking => l.timeIsUp now

end Launch

end BroadcastLink
