import BroadcastLink.Launch
import BroadcastLink.Roster
import BroadcastLink.Bench.Shell.Condition
import BroadcastLink.Bench.Shell.Script

/-!
# A shell at work

What a shell remembers while it runs a script, and how it may stop. It reads nothing, nobody sees
what it prints, and of the file system it knows the places that every machine has.
-/

namespace BroadcastLink.Bench.Shell

/-- What a shell remembers. -/
structure State where
  /-- The values of the variables. -/
  values : Roster String String := .ofList [("HOME", "/root"), ("PATH", "/usr/bin:/bin")]
  /-- The variables that programs are told of. -/
  exported : List String := ["HOME", "PATH"]
  /-- The variables that keep their values. -/
  constants : List String := []
  functions : Roster String Script := {}
  arguments : List String := []
  /-- What is run when a signal comes; number zero stands for the end of the shell. -/
  traps : Roster Nat String := {}
  /-- How the commands ended that were not waited for. -/
  jobs : List Nat := []
  /-- Files that were made. -/
  files : List String := []
  input : String := ""
  output : String := ""
  status : Nat := 0
  /-- How the last line ended that was run for what it prints. -/
  outputStatus : Nat := 0
  /-- How many loops there are around. -/
  loops : Nat := 0
  /-- A function is running. -/
  inFunction : Bool := false
  /-- Any command that fails ends the shell. -/
  stopsOnFailure : Bool := false
  /-- A parameter without a value ends the shell. -/
  stopsOnUnset : Bool := false

/-- Why a shell does not go on with the next command. -/
inductive Stop where
  | ended (status : ExitStatus)
  /-- So many loops are left; the last one goes on with its next turn, or does not. -/
  | left (loops : Nat) (again : Bool)
  /-- A function is left. -/
  | returned
  deriving DecidableEq, Repr

/-- What a shell does. -/
abbrev Act := ExceptT Stop (StateM State)

/-- The status of a shell that was asked for something impossible. -/
def misuse : Nat := 2

/-- The shell ends. -/
def endWith {α : Type} (n : Nat) : Act α := throw (.ended (.code (n % 256)))

/-- The shell cannot go on. -/
def giveUp {α : Type} : Act α := endWith misuse

/-- A command ended so. -/
def setStatus (n : Nat) : Act Unit := modify fun s => { s with status := n }

/-- Print a text. -/
def print (text : String) : Act Unit := modify fun s => { s with output := s.output ++ text }

/-- Give a variable a value. -/
def assign (name value : String) : Act Unit := do
  if (← get).constants.contains name then giveUp
  modify fun s => { s with values := s.values.put name value }

/-- Let a variable keep its value. -/
def holdConstant (name : String) : Act Unit :=
  modify fun s => { s with constants := name :: s.constants }

/-- Tell programs of a variable. -/
def exportName (name : String) : Act Unit :=
  modify fun s => { s with exported := name :: s.exported }

/-- The status that stands for how something ended. -/
def statusOf : ExitStatus → Nat
  | .code n => n
  | .signal n => 128 + n

/-! ## Places -/

/-- Directories that every machine has. -/
def directories : List String :=
  ["/", "/bin", "/boot", "/dev", "/etc", "/home", "/lib", "/mnt", "/opt", "/proc", "/root", "/run",
    "/sbin", "/srv", "/sys", "/tmp", "/usr", "/usr/bin", "/usr/lib", "/usr/local", "/usr/local/bin",
    "/usr/sbin", "/usr/share", "/var", "/var/log", "/var/tmp", ".", ".."]

/-- Files that every machine has, programs apart. -/
def commonFiles : List String :=
  ["/dev/null", "/dev/zero", "/dev/full", "/dev/random", "/dev/urandom", "/dev/tty", "/etc/passwd",
    "/etc/group", "/etc/hosts", "/etc/hostname", "/etc/resolv.conf", "/etc/fstab", "/etc/profile"]

/-- Programs that every machine has. -/
def programs : List String :=
  ["arch", "awk", "base64", "basename", "bash", "cat", "chmod", "cp", "cut", "dash", "date", "df",
    "dirname", "du", "echo", "env", "expr", "false", "find", "grep", "head", "hostname", "id",
    "kill", "ln", "ls", "md5sum", "mkdir", "mktemp", "mv", "nohup", "nproc", "od", "perl", "printf",
    "pwd", "readlink", "realpath", "rm", "rmdir", "sed", "seq", "sh", "sha256sum", "sleep", "sort",
    "stat", "sync", "tail", "tee", "test", "timeout", "touch", "tr", "true", "tty", "uname", "uniq",
    "wc", "which", "whoami", "xargs", "yes", "["]

/-- A program without the directory it is found in. -/
def bareName (path : String) : String :=
  match ["/usr/bin/", "/bin/"].find? (path.startsWith ·) with
  | some directory => (path.drop directory.length).toString
  | none => path

/-- Is there a program at the path? -/
def isProgramPath (path : String) : Bool :=
  bareName path ≠ path && programs.contains (bareName path)

/-- A path without slashes at its end. -/
def trimPath (path : String) : String :=
  match path.toList.reverse.dropWhile (· = '/') with
  | [] => if path.isEmpty then "" else "/"
  | cs => String.ofList cs.reverse

/-- What stands at a path. -/
def kindOf (s : State) (path : String) : PathKind :=
  let path := trimPath path
  if directories.contains path then .directory
  else if commonFiles.contains path || isProgramPath path || s.files.contains path then .file
  else .nothing

/-- The directory of a path. -/
def directoryOf (path : String) : String :=
  match path.toList.reverse.dropWhile (· ≠ '/') with
  | [] => "."
  | cs => trimPath (String.ofList cs.reverse)

/-- Can a file at the path be written? -/
def isWritable (s : State) (path : String) : Bool :=
  !path.isEmpty && kindOf s path ≠ .directory && kindOf s (directoryOf path) = .directory

/-! ## Signals -/

/-- Signals that do not end a process; zero is none at all. -/
def harmlessSignals : List Nat := [0, 17, 18, 19, 20, 21, 22, 23, 28]

/-- Signals that nobody is asked about. -/
def isCompelling (n : Nat) : Bool := n = 9 || n = 19

/-- The first and the last of the signals without a use of their own. -/
def realtimeSignals : Nat × Nat := (34, 64)

/-- The signal of a name or a number. -/
def signal? (text : String) : Option Nat :=
  match text.toNat? with
  | some n => if n ≤ realtimeSignals.2 then some n else none
  | none =>
    let name := "SIG" ++ text.toUpper
    let near (start : String) (first : Nat) (step : Nat → Nat → Nat) : Option Nat := do
      let rest ← if name.startsWith start then some (name.drop start.length).toString else none
      if rest.isEmpty then return first
      return step first (← (rest.drop 1).toString.toNat?)
    if name = "SIGSTKFLT" then none
    else (signalNames.find? (·.2 = name)).map (·.1)
      <|> near "SIGRTMIN" realtimeSignals.1 (· + ·)
      <|> near "SIGRTMAX" realtimeSignals.2 (· - ·)

/-- What a trap is set for: a signal, or the end of the shell. -/
def occasion? (text : String) : Option Nat :=
  if text.toUpper = "EXIT" then some 0 else signal? text

/-- The number of the shell's own process. -/
def ownProcess : String := "40000"

/-- The number of the process of a job. -/
def jobProcess (job : Nat) : String := Decimal.natText (40001 + job)

/-- The job of a process. -/
def jobOf? (s : State) (process : String) : Option Nat :=
  (List.range s.jobs.length).find? fun job => jobProcess job = process

end BroadcastLink.Bench.Shell
