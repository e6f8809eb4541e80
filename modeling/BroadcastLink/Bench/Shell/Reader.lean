import BroadcastLink.Bench.Shell.Script

/-!
# Reading a script

Commands are joined by pipes first, then by conditions from left to right, then by order. A word
such as `if` or `done` is a keyword only where a command may stand, and only if it is not quoted.
-/

namespace BroadcastLink.Bench.Shell

/-- The keyword that a token may be. -/
def Token.keyword? : Token → Option String
  | .word w => w.plain?
  | _ => none

/-- Is the first token this keyword? -/
def opensWith (keyword : String) : List Token → Bool
  | t :: _ => t.keyword? = some keyword
  | [] => false

/-- The words that open a block and close it. -/
def blockStart : String := "\x7b"

@[inherit_doc blockStart]
def blockEnd : String := "\x7d"

/-- The keywords in front of which a list ends. -/
def closingKeywords : List String := ["then", "elif", "else", "fi", "do", "done", "esac", blockEnd]

/-- The tokens behind line breaks. -/
def skipBreaks : List Token → List Token
  | .newline :: rest => skipBreaks rest
  | ts => ts

/-- Does a list end here? -/
def atEnd : List Token → Bool
  | [] | .closing :: _ | .caseEnd :: _ => true
  | t :: _ => t.keyword?.any closingKeywords.contains

/-- The tokens behind a keyword, if it stands there. -/
def behindKeyword (keyword : String) (ts : List Token) : Option (List Token) :=
  if opensWith keyword ts then some ts.tail else none

/-- The leading words, and the rest. -/
def leadingWords : List Token → List Word × List Token
  | .word w :: rest => let (ws, rest) := leadingWords rest; (w :: ws, rest)
  | rest => ([], rest)

/-- The leading redirections, and the rest. -/
def leadingRedirects : List Token → List Redirect × List Token
  | .redirect d way :: .word w :: rest =>
    let (rs, rest) := leadingRedirects rest
    (⟨d, way, w⟩ :: rs, rest)
  | rest => ([], rest)

/-- The leading words and redirections, and the rest. -/
def leadingParts : List Token → List Word × List Redirect × List Token
  | .word w :: rest => let (ws, rs, rest) := leadingParts rest; (w :: ws, rs, rest)
  | .redirect d way :: .word w :: rest =>
    let (ws, rs, rest) := leadingParts rest
    (ws, ⟨d, way, w⟩ :: rs, rest)
  | rest => ([], [], rest)

/-- The assignment that a word is: a name, an equals sign, and a value. -/
def assignment? : Word → Option (String × Word)
  | .text text false :: rest =>
    match text.splitOn "=" with
    | name :: v :: vs =>
      if isName name then some (name, .text ("=".intercalate (v :: vs)) false :: rest) else none
    | _ => none
  | _ => none

/-- The leading assignments, and the other words. -/
def leadingAssignments : List Word → List (String × Word) × List Word
  | [] => ([], [])
  | w :: ws =>
    match assignment? w with
    | some a => let (as, ws) := leadingAssignments ws; (a :: as, ws)
    | none => ([], w :: ws)

/-- A simple command, and the rest. -/
def readSimple (ts : List Token) : Option (Script × List Token) :=
  match leadingParts ts with
  | ([], [], _) => none
  | (words, redirects, rest) =>
    let (assignments, words) := leadingAssignments words
    some (.command assignments words redirects, rest)

/-- A script with the redirections behind it, and the rest. -/
def withRedirects (body : Script) (ts : List Token) : Script × List Token :=
  match leadingRedirects ts with
  | ([], rest) => (body, rest)
  | (rs, rest) => (.redirected body rs, rest)

/-- The patterns of a case up to its closing bracket, and the rest. -/
def readPatterns : List Token → Option (List Word × List Token)
  | .word w :: .pipe :: rest => do
    let (ws, rest) ← readPatterns rest
    return (w :: ws, rest)
  | .word w :: .closing :: rest => some ([w], rest)
  | _ => none

mutual

/-- A list of commands in order. At the top of a script it ends in front of a line break. -/
def readList : Nat → Bool → List Token → Option (Script × List Token)
  | 0, _, _ => none
  | fuel + 1, top, ts => do
    let (first, rest) ← readJoined fuel (skipBreaks ts)
    match rest with
    | .semicolon :: rest => readRest fuel top first rest
    | .ampersand :: rest => readRest fuel top (.aside first) rest
    | .newline :: rest =>
      if top then return (first, .newline :: rest) else readRest fuel top first rest
    | rest => return (first, rest)

/-- The list behind a command that another may follow. -/
def readRest : Nat → Bool → Script → List Token → Option (Script × List Token)
  | 0, _, _, _ => none
  | fuel + 1, top, first, ts =>
    match top, ts with
    | true, .newline :: rest => some (first, .newline :: rest)
    | _, ts => do
      let ts := skipBreaks ts
      if atEnd ts then return (first, ts)
      let (second, rest) ← readList fuel top ts
      return (.behind first second, rest)

/-- Commands joined by conditions. -/
def readJoined : Nat → List Token → Option (Script × List Token)
  | 0, _ => none
  | fuel + 1, ts => do
    let (first, rest) ← readPipe fuel ts
    readConditions fuel first rest

/-- The conditions behind a command. -/
def readConditions : Nat → Script → List Token → Option (Script × List Token)
  | 0, _, _ => none
  | fuel + 1, first, ts =>
    match ts with
    | .andThen :: rest => do
      let (second, rest) ← readPipe fuel (skipBreaks rest)
      readConditions fuel (.ifDone first second) rest
    | .orElse :: rest => do
      let (second, rest) ← readPipe fuel (skipBreaks rest)
      readConditions fuel (.ifFailed first second) rest
    | rest => some (first, rest)

/-- Commands joined by pipes. -/
def readPipe : Nat → List Token → Option (Script × List Token)
  | 0, _ => none
  | fuel + 1, ts => do
    if opensWith "!" ts then
      let (body, rest) ← readPipe fuel ts.tail
      return (.inverted body, rest)
    let (first, rest) ← readOne fuel ts
    match rest with
    | .pipe :: rest =>
      let (second, rest) ← readPipe fuel (skipBreaks rest)
      return (.piped first second, rest)
    | rest => return (first, rest)

/-- One command. -/
def readOne : Nat → List Token → Option (Script × List Token)
  | 0, _ => none
  | fuel + 1, ts =>
    match ts with
    | .opening :: rest => do
      match ← readList fuel false rest with
      | (body, .closing :: rest) => return withRedirects (.group body) rest
      | _ => none
    | .word w :: .opening :: .closing :: rest => do
      let name ← w.plain?
      if !isName name then none
      let (body, rest) ← readOne fuel (skipBreaks rest)
      return (.define name body, rest)
    | t :: rest =>
      match t.keyword? with
      | some word =>
        if word = blockStart then do
          let (body, rest) ← readList fuel false rest
          return withRedirects body (← behindKeyword blockEnd rest)
        else if word = "if" then do
          let (body, rest) ← readChoice fuel rest
          return withRedirects body rest
        else if word = "while" || word = "until" then do
          let (condition, rest) ← readList fuel false rest
          let (body, rest) ← readBody fuel rest
          return withRedirects (.loop (word = "while") condition body) rest
        else if word = "for" then readEach fuel rest
        else if word = "case" then readCases fuel rest
        else if closingKeywords.contains word then none
        else readSimple ts
      | none => readSimple ts
    | [] => none

/-- A condition with what depends on it, up to the closing keyword. -/
def readChoice : Nat → List Token → Option (Script × List Token)
  | 0, _ => none
  | fuel + 1, ts => do
    let (condition, rest) ← readList fuel false ts
    let (first, rest) ← readList fuel false (← behindKeyword "then" rest)
    if opensWith "elif" rest then
      let (second, rest) ← readChoice fuel rest.tail
      return (.choice condition first second, rest)
    if opensWith "else" rest then
      let (second, rest) ← readList fuel false rest.tail
      return (.choice condition first second, ← behindKeyword "fi" rest)
    return (.choice condition first .nothing, ← behindKeyword "fi" rest)

/-- The body of a loop. -/
def readBody : Nat → List Token → Option (Script × List Token)
  | 0, _ => none
  | fuel + 1, ts => do
    let (body, rest) ← readList fuel false (← behindKeyword "do" ts)
    return (body, ← behindKeyword "done" rest)

/-- A loop over fields. -/
def readEach : Nat → List Token → Option (Script × List Token)
  | 0, _ => none
  | fuel + 1, ts =>
    match ts with
    | .word w :: rest => do
      let name ← w.plain?
      if !isName name then none
      let rest := skipBreaks rest
      let (words, rest) :=
        if opensWith "in" rest then
          let (ws, rest) := leadingWords rest.tail
          (some ws, rest)
        else (none, rest)
      let rest := match rest with
        | .semicolon :: rest | rest => skipBreaks rest
      let (body, rest) ← readBody fuel rest
      return withRedirects (.each name words body) rest
    | _ => none

/-- Cases of a subject. -/
def readCases : Nat → List Token → Option (Script × List Token)
  | 0, _ => none
  | fuel + 1, ts =>
    match ts with
    | .word subject :: rest => do
      let (cases, rest) ← readArms fuel subject (← behindKeyword "in" (skipBreaks rest))
      return withRedirects cases rest
    | _ => none

/-- The arms of the cases, up to the closing keyword. -/
def readArms : Nat → Word → List Token → Option (Script × List Token)
  | 0, _, _ => none
  | fuel + 1, subject, ts => do
    let ts := skipBreaks ts
    if opensWith "esac" ts then return (.nothing, ts.tail)
    let ts := match ts with
      | .opening :: rest | rest => rest
    let (patterns, rest) ← readPatterns ts
    let rest := skipBreaks rest
    let (body, rest) ← if atEnd rest then some (.nothing, rest) else readList fuel false rest
    let (others, rest) ← match rest with
      | .caseEnd :: rest => readArms fuel subject rest
      | rest => readArms fuel subject rest
    return (.matched subject patterns body others, rest)

end

/-- The script of the first line, if there is one, and the other lines. -/
def Script.ofTokens (ts : List Token) : Option (Option Script × List Token) :=
  match skipBreaks ts with
  | [] => some (none, [])
  | ts =>
    match readList (8 * ts.length + 8) true ts with
    | some (script, []) => some (some script, [])
    | some (script, .newline :: rest) => some (some script, rest)
    | _ => none

end BroadcastLink.Bench.Shell
