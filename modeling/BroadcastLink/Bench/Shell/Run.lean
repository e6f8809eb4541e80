import BroadcastLink.Bench.Shell.Builtin
import BroadcastLink.Bench.Shell.Pattern
import BroadcastLink.Bench.Shell.Reader

/-!
# Running a script

Words come to fields, and fields to commands. A shell of its own, a pipe's side and a line run for
what it prints work on copies of what the shell remembers.
-/

namespace BroadcastLink.Bench.Shell

/-- The value of a parameter. -/
def parameter? (s : State) (name : String) : Option String :=
  match name with
  | "?" => some (Decimal.natText s.status)
  | "$" => some ownProcess
  | "!" => if s.jobs.isEmpty then none else some (jobProcess (s.jobs.length - 1))
  | "#" => some (Decimal.natText s.arguments.length)
  | "0" => some "sh"
  | "-" => some (if s.stopsOnFailure then "e" else "")
  | "@" | "*" => if s.arguments.isEmpty then none else some (" ".intercalate s.arguments)
  | name =>
    match name.toNat? with
    | some n => s.arguments[n - 1]?
    | none => s.values.get? name

/-- The characters of fragments, each with whether it is quoted. -/
def patternOf (fs : List Fragment) : List (Char × Bool) :=
  fs.flatMap fun
    | .solid text quoted => text.toList.map (·, quoted)
    | .loose text => text.toList.map (·, false)

/-- A value without the beginning or the end that a pattern stands for, the shortest or the longest
one. -/
def without (pattern : List (Char × Bool)) (atFront longest : Bool) (value : String) : String :=
  let cs := value.toList
  let cuts := List.range (cs.length + 1)
  let cuts := if atFront == longest then cuts.reverse else cuts
  let split := cuts.find? fun n =>
    matchesPattern pattern (if atFront then cs.take n else cs.drop n)
  match split with
  | some n => String.ofList (if atFront then cs.drop n else cs.take n)
  | none => value

/-- A fragment of a value. -/
def valueFragment (quoted : Bool) (text : String) : Fragment :=
  if quoted then .solid text true else .loose text

/-- The fragments of all arguments, each a field of its own. -/
def argumentFragments (args : List String) : List Fragment :=
  (args.map fun a => [Fragment.solid a true]).intersperse [.loose " "] |>.flatten

/-- Run on a copy of what the shell remembers: how that ended, and the copy after it. -/
def apart (copy : State) (act : Act Unit) : Act (ExitStatus × State) := do
  let (result, after) := (act.run).run copy
  let status := match result with
    | .error (.ended status) => status
    | _ => .code after.status
  return (status, after)

/-- The loops that a stop leaves, if the innermost one is not left for good. -/
def nextTurn : Stop → Option Stop
  | .left n again => if n ≤ 1 then none else some (.left (n - 1) again)
  | stop => some stop

/-- A count among the arguments; one that is none ends the shell. -/
def countOf (args : List String) (default : Nat) : Act Nat :=
  match args with
  | [] => return default
  | arg :: _ =>
    let cs := (arg.toList.dropWhile (·.isWhitespace)).reverse.dropWhile (·.isWhitespace) |>.reverse
    match ofDigits? 10 (if cs.head? = some '+' then cs.tail else cs) with
    | some n => if n < Nat.pow 2 31 then return n else giveUp
    | none => giveUp

/-- The commands that steer the shell itself. A fault in one ends the shell, and values given to
one stay. -/
def steeringCommands : List String :=
  [".", ":", "break", "continue", "eval", "exec", "exit", "export", "readonly", "return", "set",
    "shift", "times", "trap", "unset"]

mutual

/-- What a piece comes to. -/
def fragments : Nat → Piece → Act (List Fragment)
  | 0, _ => giveUp
  | _ + 1, .text text quoted => return [.solid text quoted]
  | _ + 1, .length name => do
    return [.loose (Decimal.natText ((parameter? (← get) name).getD "").length)]
  | fuel + 1, .sum expression => do
    let text ← textOf fuel ((Word.ofText expression).getD [])
    match (Sum.ofText text).bind (·.eval (← get).values) with
    | some (n, values) =>
      modify fun s => { s with values := values }
      return [.loose (toString n)]
    | none => giveUp
  | fuel + 1, .output line quoted => do
    let (status, after) ← apart { ← get with output := "", traps := {} } (runLine fuel line)
    modify fun s => { s with outputStatus := statusOf status, files := after.files }
    let text := (after.output.toList.reverse.dropWhile (· = '\n')).reverse
    return [valueFragment quoted (String.ofList text)]
  | fuel + 1, .parameter name change quoted => do
    let s ← get
    let value := parameter? s name
    let (nullToo, change) := match change.toList with
      | ':' :: rest => (true, rest)
      | cs => (false, cs)
    let isGiven := value.any fun v => !nullToo || !v.isEmpty
    let shown := valueFragment quoted (value.getD "")
    match change with
    | [] =>
      if s.stopsOnUnset && value.isNone && name ≠ "@" && name ≠ "*" then giveUp
      if name = "@" && quoted then return argumentFragments s.arguments
      return [shown]
    | sign :: rest =>
      let text ← textOf fuel ((Word.ofText (String.ofList rest)).getD [])
      match sign with
      | '-' => return [if isGiven then shown else valueFragment quoted text]
      | '+' => return [valueFragment quoted (if isGiven then text else "")]
      | '=' =>
        if isGiven then return [shown]
        assign name text
        return [valueFragment quoted text]
      | '?' => if isGiven then return [shown] else giveUp
      | _ =>
        let (longest, rest) := match rest with
          | c :: others => if c = sign then (true, others) else (false, rest)
          | [] => (false, [])
        if sign ≠ '#' && sign ≠ '%' then giveUp
        let pattern := rest.map (·, false)
        return [valueFragment quoted (without pattern (sign = '#') longest (value.getD ""))]

/-- What a word comes to, in one piece. -/
def textOf : Nat → Word → Act String
  | 0, _ => giveUp
  | fuel + 1, w => do
    let fs ← w.mapM (fragments fuel)
    return String.join (fs.flatten.map (·.text))

/-- The fields of words. -/
def fieldsOf : Nat → List Word → Act (List String)
  | 0, _ => giveUp
  | fuel + 1, ws => do
    let fields ← ws.mapM fun w => do
      return Fields.ofFragments (← w.mapM (fragments fuel)).flatten
    return fields.flatten

/-- Run with descriptors redirected, or fail if a file cannot be opened. -/
def redirected : Nat → Act Unit → List Redirect → Act Unit → Act Unit
  | 0, _, _, _ => giveUp
  | _ + 1, _, [], act => act
  | fuel + 1, fail, ⟨descriptor, way, target⟩ :: rest, act => do
    let path ← textOf fuel target
    let s ← get
    match way with
    | .into =>
      if !isWritable s path then fail
      else
        modify fun s => { s with files := path :: s.files }
        redirected fuel fail rest (if descriptor = 1 then silently act else act)
    | .outOf =>
      if kindOf s path ≠ .file then fail
      else
        modify fun s => { s with input := if descriptor = 0 then "" else s.input }
        redirected fuel fail rest act
        modify fun after => { after with input := s.input }
    | .duplicate =>
      let isElsewhere := descriptor = 1 && path ≠ "1"
      redirected fuel fail rest (if isElsewhere then silently act else act)
where
  /-- Run without printing. -/
  silently (act : Act Unit) : Act Unit := do
    let before := (← get).output
    try act
    finally modify fun s => { s with output := before }

/-- Run a script. In a `tested` place failing does not end the shell. -/
def run : Nat → Bool → Script → Act Unit
  | 0, _, _ => giveUp
  | _ + 1, _, .nothing => setStatus 0
  | fuel + 1, tested, .command assignments words redirects => do
    modify fun s => { s with outputStatus := 0 }
    let fields ← fieldsOf fuel words
    let before ← get
    let steers := fields.head?.any steeringCommands.contains
    redirected fuel (if steers then giveUp else setStatus misuse) redirects do
      assignments.forM fun (name, value) => do
        assign name (← textOf fuel value)
        if !fields.isEmpty && !steers then exportName name
      if fields.isEmpty then setStatus (← get).outputStatus
      else execute fuel fields
    if !fields.isEmpty && !steers && !assignments.isEmpty then
      modify fun s => { s with values := before.values, exported := before.exported }
    mind tested
  | fuel + 1, tested, .redirected body redirects =>
    redirected fuel (setStatus misuse) redirects (run fuel tested body)
  | fuel + 1, tested, .group body => do
    ownShell fuel tested body
    mind tested
  | fuel + 1, tested, .behind first second => do
    run fuel tested first
    run fuel tested second
  | fuel + 1, tested, .ifDone first second => do
    run fuel true first
    if (← get).status = 0 then run fuel tested second
  | fuel + 1, tested, .ifFailed first second => do
    run fuel true first
    if (← get).status ≠ 0 then run fuel tested second
  | fuel + 1, _, .inverted body => do
    run fuel true body
    setStatus (if (← get).status = 0 then 1 else 0)
  | fuel + 1, tested, .piped first second => do
    let s ← get
    let (status, after) ← apart { s with output := "", traps := {} } (run fuel tested first)
    notKilled status
    modify fun s => { s with input := after.output, files := after.files }
    ownShell fuel tested second
    modify fun after => { after with input := s.input }
    mind tested
  | fuel + 1, _, .aside body => do
    let (status, after) ← apart { ← get with traps := {} } (run fuel true body)
    modify fun s =>
      { s with jobs := s.jobs ++ [statusOf status], output := after.output, status := 0 }
  | fuel + 1, tested, .choice condition first second => do
    run fuel true condition
    if (← get).status = 0 then run fuel tested first else run fuel tested second
  | fuel + 1, tested, .loop wanted condition body => do
    modify fun s => { s with loops := s.loops + 1 }
    turns fuel tested wanted condition body 0
    modify fun s => { s with loops := s.loops - 1 }
  | fuel + 1, tested, .each name words body => do
    let fields ← match words with
      | some words => fieldsOf fuel words
      | none => pure (← get).arguments
    modify fun s => { s with loops := s.loops + 1, status := 0 }
    turnsOver fuel tested name fields body
    modify fun s => { s with loops := s.loops - 1 }
  | fuel + 1, tested, .matched subject patterns body rest => do
    let text ← textOf fuel subject
    let found ← patterns.anyM fun w => do
      return matchesPattern (patternOf (← w.mapM (fragments fuel)).flatten) text.toList
    if found then run fuel tested body else run fuel tested rest
  | _ + 1, _, .define name body =>
    modify fun s => { s with functions := s.functions.put name body, status := 0 }
where
  /-- A failure may end the shell. -/
  mind (tested : Bool) : Act Unit := do
    let s ← get
    if s.stopsOnFailure && !tested && s.status ≠ 0 then endWith s.status
  /-- What kills a shell of its own kills the shell, whose number it goes by. -/
  notKilled : ExitStatus → Act Unit
    | .signal n => throw (.ended (.signal n))
    | .code _ => return

/-- Run in a shell of its own. -/
def ownShell : Nat → Bool → Script → Act Unit
  | 0, _, _ => giveUp
  | fuel + 1, tested, body => do
    let (status, after) ← apart { ← get with traps := {}, loops := 0 } (run fuel tested body)
    match status with
    | .signal n => throw (.ended (.signal n))
    | .code n =>
      modify fun s => { s with output := after.output, input := after.input, files := after.files }
      setStatus n

/-- The turns of a loop with a condition, given how the last one ended. -/
def turns : Nat → Bool → Bool → Script → Script → Nat → Act Unit
  | 0, _, _, _, _, _ => giveUp
  | fuel + 1, tested, wanted, condition, body, status => do
    let goesOn ← try
        run fuel true condition
        if ((← get).status == 0) == wanted then
          run fuel tested body
          pure true
        else
          setStatus status
          pure false
      catch stop =>
        match nextTurn stop with
        | some stop => throw stop
        | none => pure (stop = .left 1 true || stop = .left 0 true)
    if goesOn then turns fuel tested wanted condition body (← get).status

/-- The turns of a loop over fields. -/
def turnsOver : Nat → Bool → String → List String → Script → Act Unit
  | 0, _, _, _, _ => giveUp
  | _ + 1, _, _, [], _ => return
  | fuel + 1, tested, name, field :: fields, body => do
    assign name field
    let goesOn ← try
        run fuel tested body
        pure true
      catch stop =>
        match nextTurn stop with
        | some stop => throw stop
        | none => pure (stop = .left 1 true || stop = .left 0 true)
    if goesOn then turnsOver fuel tested name fields body

/-- Run the lines of a script, each as soon as it is read. -/
def runTokens : Nat → List Token → Act Unit
  | 0, _ => giveUp
  | fuel + 1, ts =>
    match Script.ofTokens ts with
    | none => giveUp
    | some (none, _) => return
    | some (some script, rest) => do
      run fuel false script
      runTokens fuel rest

/-- Run a line as a shell of its own does, up to its end. -/
def runLine : Nat → String → Act Unit
  | 0, _ => giveUp
  | fuel + 1, line => do
    let status ← try
        runTokens fuel (Token.ofLine line)
        pure (ExitStatus.code (← get).status)
      catch
        | .ended status => pure status
        | _ => pure (.code (← get).status)
    match status, (← get).traps.get? 0 with
    | .code n, some action =>
      modify fun s => { s with status := n, traps := s.traps.erase 0 }
      runTokens fuel (Token.ofLine action)
      endWith n
    | status, _ => throw (.ended status)

/-- A signal comes. -/
def receive : Nat → Nat → Act Unit
  | 0, _ => giveUp
  | fuel + 1, n => do
    let s ← get
    match if isCompelling n then none else s.traps.get? n with
    | some action =>
      runTokens fuel (Token.ofLine action)
      setStatus 0
    | none =>
      if harmlessSignals.contains n then setStatus 0 else throw (.ended (.signal n))

/-- Send a signal to processes. -/
def send : Nat → Nat → List String → Nat → Act Unit
  | 0, _, _, _ => giveUp
  | _ + 1, _, [], status => setStatus status
  | fuel + 1, n, process :: rest, status => do
    let s ← get
    if process = ownProcess then
      receive fuel n
      send fuel n rest status
    else match jobOf? s process with
      | some job =>
        let killed := if harmlessSignals.contains n then s.jobs else s.jobs.set job (128 + n)
        modify fun s => { s with jobs := killed }
        send fuel n rest status
      | none => if process.toNat?.isSome then send fuel n rest 1 else setStatus misuse

/-- The command that sends signals. -/
def kill : Nat → List String → Act Unit
  | 0, _ => giveUp
  | fuel + 1, args => do
    let sendTo (n : Option Nat) (processes : List String) : Act Unit :=
      match n, processes with
      | some n, _ :: _ => send fuel n processes 0
      | _, _ => setStatus misuse
    match args with
    | "-l" :: _ => setStatus 0
    | "-s" :: name :: rest => sendTo (signal? name) rest
    | "--" :: rest => sendTo (some 15) rest
    | flag :: rest =>
      if flag.startsWith "-" then sendTo (signal? (flag.drop 1).toString) rest
      else sendTo (some 15) args
    | [] => setStatus misuse

/-- Run a program. -/
def runProgram : Nat → String → List String → Act ExitStatus
  | 0, _, _ => giveUp
  | fuel + 1, path, args => do
    let name := bareName path
    let s ← get
    if path.contains '/' && name = path then
      return .code (if kindOf s path = .nothing then 127 else 126)
    else if !programs.contains name then return .code 127
    else if name = "sh" || name = "dash" || name = "bash" then
      let options := args.takeWhile (·.startsWith "-")
      let flags := options.flatMap (·.toList)
      match args.drop options.length with
      | line :: arguments =>
        if !flags.contains 'c' then return .code misuse
        let told := s.values.filter fun name _ => s.exported.contains name
        let (status, after) ← apart
          { values := told, exported := s.exported, arguments := arguments.drop 1
            files := s.files, input := s.input, output := s.output
            stopsOnFailure := flags.contains 'e', stopsOnUnset := flags.contains 'u' }
          (runLine fuel line)
        modify fun s =>
          { s with input := after.input, output := after.output, files := after.files }
        return status
      | [] => return .code (if flags.contains 'c' then misuse else 0)
    else if name = "env" then
      let options := args.takeWhile (·.startsWith "-")
      if options.contains "-i" || options.contains "-" then
        modify fun s => { s with exported := [] }
      let args := args.drop options.length
      let assignments := args.takeWhile fun a => 1 < (a.splitOn "=").length
      declare assignments exportName
      match args.drop assignments.length with
      | name :: rest => runProgram fuel name rest
      | [] => return .code 0
    else if name = "nohup" then
      match args with
      | name :: rest => runProgram fuel name rest
      | [] => return .code 125
    else if name = "timeout" then
      match args with
      | limit :: name :: rest =>
        let isLate := bareName name = "sleep" &&
          ((rest.head?.bind millisOf?).any fun n => (millisOf? limit).any (· < n))
        if isLate then return .code 124 else runProgram fuel name rest
      | _ => return .code 125
    else return .code (← runPlainProgram name args)

/-- Run a command. Those that steer the shell come first, then functions, then the shell's own
commands, then programs. -/
def execute : Nat → List String → Act Unit
  | 0, _ | _ + 1, [] => setStatus 0
  | fuel + 1, name :: args => do
    let s ← get
    match name with
    | ":" => setStatus 0
    | "exit" => endWith (← countOf args s.status)
    | "return" =>
      setStatus ((← countOf args s.status) % 256)
      throw .returned
    | "break" | "continue" =>
      let n ← countOf args 1
      if n = 0 then giveUp
      setStatus 0
      if s.loops ≠ 0 then throw (.left (min n s.loops) (name = "continue"))
    | "eval" =>
      setStatus 0
      runTokens fuel (Token.ofLine (" ".intercalate args))
    | "exec" =>
      match args with
      | [] => setStatus 0
      | name :: rest =>
        modify fun s => { s with traps := s.traps.erase 0 }
        throw (.ended (← runProgram fuel name rest))
    | "set" =>
      changeHabits args
      setStatus 0
    | "unset" =>
      unset (args.filter fun a => !a.startsWith "-")
      setStatus 0
    | "export" | "readonly" =>
      declare (args.filter fun a => !a.startsWith "-")
        (if name = "export" then exportName else holdConstant)
      setStatus 0
    | "shift" =>
      let n ← countOf args 1
      if s.arguments.length < n then giveUp
      modify fun s => { s with arguments := s.arguments.drop n, status := 0 }
    | "trap" => setStatus (← setTraps args)
    | "times" => setStatus 0
    | "." => giveUp
    | name =>
      match s.functions.get? name with
      | some body =>
        modify fun s => { s with arguments := args, loops := 0, inFunction := true }
        try run fuel false body
        catch
          | .returned => pure ()
          | stop => throw stop
        modify fun after =>
          { after with
            arguments := s.arguments
            loops := s.loops
            inFunction := s.inFunction }
      | none =>
        if name = "kill" then kill fuel args
        else if name = "command" then
          match args with
          | "-v" :: rest => setStatus (← lookUp rest 127)
          | args => execute fuel args
        else match ← runOwnCommand name args with
          | some status => setStatus status
          | none => setStatus (statusOf (← runProgram fuel name args))

end

end BroadcastLink.Bench.Shell
