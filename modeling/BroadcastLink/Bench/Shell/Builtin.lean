import BroadcastLink.Bench.Shell.State

/-!
# Commands that run no others

Each prints what it prints and gives its status.
-/

namespace BroadcastLink.Bench.Shell

/-- A text with what its backslashes stand for. -/
def unescape : List Char → List Char
  | '\\' :: 'n' :: rest => '\n' :: unescape rest
  | '\\' :: 't' :: rest => '\t' :: unescape rest
  | '\\' :: '\\' :: rest => '\\' :: unescape rest
  | c :: rest => c :: unescape rest
  | [] => []

/-- Print the arguments. -/
def echo (args : List String) : Act Nat := do
  let (ending, args) := match args with
    | "-n" :: rest => ("", rest)
    | args => ("\n", args)
  print (String.ofList (unescape (" ".intercalate args).toList) ++ ending)
  return 0

/-- What a format makes of arguments, whether it took any, and the arguments left. -/
def formatted (args : List String) : List Char → List Char × Bool × List String
  | '%' :: '%' :: rest =>
    let (cs, took, args) := formatted args rest
    ('%' :: cs, took, args)
  | '%' :: _ :: rest =>
    let (cs, _, left) := formatted args.tail rest
    ((args.headD "").toList ++ cs, true, left)
  | c :: rest =>
    let (cs, took, args) := formatted args rest
    (c :: cs, took, args)
  | [] => ([], false, args)

/-- What a format makes of arguments, used again as long as some are left. -/
def formattedAll : Nat → List Char → List String → List Char
  | 0, _, _ => []
  | fuel + 1, format, args =>
    let (cs, took, left) := formatted args format
    if took && !left.isEmpty then cs ++ formattedAll fuel format left else cs

/-- Print arguments by a format. -/
def printFormatted : List String → Act Nat
  | [] => return misuse
  | format :: args => do
    let format := unescape format.toList
    print (String.ofList (formattedAll (args.length + 1) format args))
    return 0

/-- Is something true of the arguments? -/
def test (args : List String) : Act Nat := do
  match Condition.holds? (kindOf (← get)) args with
  | some true => return 0
  | some false => return 1
  | none => return misuse

/-- The same, between brackets. -/
def bracket (args : List String) : Act Nat :=
  if args.getLast? = some "]" then test args.dropLast else return misuse

/-- Give variables the words of a line, the last one all that is left. -/
def assignWords : List String → List String → Act Unit
  | [], _ => return
  | [name], words => assign name (" ".intercalate words)
  | name :: names, words => do
    assign name (words.headD "")
    assignWords names words.tail

/-- Read a line into variables. Without a line there is nothing to read. -/
def readInto (args : List String) : Act Nat := do
  let names := args.filter fun a => !a.startsWith "-"
  match (← get).input.toList with
  | [] =>
    assignWords names []
    return 1
  | cs =>
    let line := String.ofList (cs.takeWhile (· ≠ '\n'))
    modify fun s => { s with input := String.ofList ((cs.dropWhile (· ≠ '\n')).drop 1) }
    assignWords names (Fields.ofFragments [.loose line])
    return if cs.contains '\n' then 0 else 1

/-- Wait for a job. The shell knows none but its own. -/
def wait (args : List String) : Act Nat := do
  let s ← get
  match args.getLast? with
  | none => return 0
  | some process =>
    match jobOf? s process with
    | some job => return s.jobs.getD job 0
    | none => return if process.toNat?.isSome then 127 else misuse

/-- Give names values where such are given, and do something with each name. -/
def declare (args : List String) (each : String → Act Unit) : Act Unit :=
  args.forM fun arg => do
    match arg.splitOn "=" with
    | name :: v :: vs =>
      assign name ("=".intercalate (v :: vs))
      each name
    | _ => each arg

/-- Take variables and functions away. -/
def unset (args : List String) : Act Unit :=
  args.forM fun arg => do
    if (← get).constants.contains arg then giveUp
    modify fun s =>
      { s with values := s.values.erase arg, functions := s.functions.erase arg }

/-- Change the habits of the shell, or its arguments. -/
def changeHabits : List String → Act Unit
  | [] => return
  | "--" :: args => modify fun s => { s with arguments := args }
  | arg :: rest => do
    match arg.toList with
    | '-' :: flags => modify fun s =>
      { s with
        stopsOnFailure := s.stopsOnFailure || flags.contains 'e'
        stopsOnUnset := s.stopsOnUnset || flags.contains 'u' }
    | '+' :: flags => modify fun s =>
      { s with
        stopsOnFailure := s.stopsOnFailure && !flags.contains 'e'
        stopsOnUnset := s.stopsOnUnset && !flags.contains 'u' }
    | _ => modify fun s => { s with arguments := arg :: rest }
    if arg.startsWith "-" || arg.startsWith "+" then changeHabits rest

/-- Set what is run when signals come. -/
def setTraps (args : List String) : Act Nat := do
  let put (action : Option String) (signals : List String) : Act Nat := do
    let found := signals.filterMap occasion?
    modify fun s =>
      { s with
        traps := found.foldl (fun traps n =>
          match action with
          | some action => traps.put n action
          | none => traps.erase n) s.traps }
    return if found.length = signals.length then 0 else 1
  match args with
  | [] => return 0
  | [name] => put none [name]
  | "-" :: signals => put none signals
  | action :: signals => put (some action) signals

/-! ## Programs -/

/-- The thousandths of a second that a text names. -/
def millisOf? (text : String) : Option Nat := do
  let (digits, unit) := match text.toList.reverse with
    | 's' :: rest => (rest.reverse, 1000)
    | 'm' :: rest => (rest.reverse, 60000)
    | 'h' :: rest => (rest.reverse, 3600000)
    | 'd' :: rest => (rest.reverse, 86400000)
    | rest => (rest.reverse, 1000)
  let whole := digits.takeWhile (· ≠ '.')
  let part := (digits.dropWhile (· ≠ '.')).drop 1
  let n ← ofDigits? 10 (whole ++ part)
  return n * unit / Nat.pow 10 part.length

/-- Sleep. -/
def sleep (args : List String) : Nat :=
  if args.isEmpty || args.any fun a => (millisOf? a).isNone then 1 else 0

/-- What two numbers or texts come to under an operator. -/
def expression? (a op b : String) : Option String := do
  match argumentNumber? a, argumentNumber? b with
  | some m, some n =>
    let op := if op = "=" then "==" else op
    if ["+", "-", "*", "/", "%", "==", "!=", "<", ">", "<=", ">="].contains op then
      return toString (← Sum.combine op m n)
    none
  | _, _ =>
    match op with
    | "=" | "==" => return toString (Sum.truth (a = b))
    | "!=" => return toString (Sum.truth (a ≠ b))
    | _ => none

/-- Print the value of an expression; one that is zero or empty is a failure. -/
def evaluateExpression (args : List String) : Act Nat := do
  let value := match args with
    | [a] => some a
    | [a, op, b] => expression? a op b
    | _ => none
  match value with
  | none => return misuse
  | some value =>
    print (value ++ "\n")
    return if value = "0" || value.isEmpty then 1 else 0

/-- Print the numbers from one to another. -/
def printNumbers (args : List String) : Act Nat := do
  let (first, last) := match args.map String.toNat? with
    | [some n] => (1, n)
    | [some m, some n] => (m, n)
    | _ => (1, 0)
  print (String.join ((List.range (last + 1 - first)).map fun i =>
    Decimal.natText (first + i) ++ "\n"))
  return if args.isEmpty then 1 else 0

/-- Print what is read, or files, of which nobody knows what is in them. -/
def concatenate (args : List String) : Act Nat := do
  let s ← get
  if args.isEmpty || args.contains "-" then
    print s.input
    modify fun s => { s with input := "" }
  return if (args.filter (· ≠ "-")).all fun a => kindOf s a = .file then 0 else 1

/-- Make files. -/
def makeFiles (args : List String) : Act Nat := do
  let s ← get
  let paths := args.filter fun a => !a.startsWith "-"
  modify fun s => { s with files := s.files ++ paths.filter (isWritable s) }
  return if !paths.isEmpty && paths.all (isWritable s) then 0 else 1

/-- Take files away. -/
def removeFiles (args : List String) : Act Nat := do
  let s ← get
  let paths := args.filter fun a => !a.startsWith "-"
  modify fun s => { s with files := s.files.filter fun f => !paths.contains f }
  let forced := args.any fun a => a.startsWith "-" && a.contains 'f'
  return if forced || (!paths.isEmpty && paths.all s.files.contains) then 0 else 1

/-- Look programs up. -/
def lookUp (args : List String) (missing : Nat) : Act Nat := do
  let found := args.filter fun a => programs.contains a || isProgramPath a
  let path (a : String) := if a.startsWith "/" then a else "/usr/bin/" ++ a
  print (String.join (found.map fun a => path a ++ "\n"))
  return if !args.isEmpty && found.length = args.length then 0 else missing

/-- Is there a line with the text in what is read? -/
def findLine (args : List String) : Act Nat := do
  match args.filter fun a => !a.startsWith "-" with
  | [text] =>
    let lines := (← get).input.splitOn "\n"
    let found := lines.filter fun line => 1 < (line.splitOn text).length
    print (String.join (found.map (· ++ "\n")))
    return if found.isEmpty then 1 else 0
  | [] => return misuse
  | _ :: paths =>
    let s ← get
    return if paths.all fun a => kindOf s a = .file then 1 else misuse

/-- A program that runs no other. -/
def runPlainProgram (name : String) (args : List String) : Act Nat := do
  match name with
  | "true" => return 0
  | "false" => return 1
  | "echo" => echo args
  | "printf" => printFormatted args
  | "test" => test args
  | "[" => bracket args
  | "sleep" => return sleep args
  | "expr" => evaluateExpression args
  | "seq" => printNumbers args
  | "cat" => concatenate args
  | "touch" => makeFiles args
  | "rm" => removeFiles args
  | "which" => lookUp args 1
  | "ls" | "stat" =>
    let s ← get
    let paths := args.filter (!·.startsWith "-")
    return if paths.all fun a => kindOf s a ≠ .nothing then 0 else misuse
  | "grep" => findLine args
  | "tty" => return 1
  | _ => return 0

/-- Commands that belong to the shell, run no others, and may be replaced by functions. -/
def runOwnCommand (name : String) (args : List String) : Act (Option Nat) := do
  match name with
  | "true" | "false" | "echo" | "printf" | "test" | "[" => return some (← runPlainProgram name args)
  | "read" => return some (← readInto args)
  | "wait" => return some (← wait args)
  | "cd" =>
    let path := args.headD "/root"
    return some (if kindOf (← get) path = .directory then 0 else misuse)
  | "pwd" | "umask" | "ulimit" | "hash" | "jobs" | "alias" => return some 0
  | "local" =>
    unless (← get).inFunction do giveUp
    declare args fun _ => return
    return some 0
  | "type" => return some (← lookUp args 127)
  | _ => return none

end BroadcastLink.Bench.Shell
