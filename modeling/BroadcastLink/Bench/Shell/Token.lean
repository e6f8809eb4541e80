import BroadcastLink.Bench.Shell.Word

/-!
# Pieces of a command line

A line is cut into words and the signs that join, redirect and end commands. Quotes keep blanks and
signs inside a word, and so do the brackets behind a dollar.
-/

namespace BroadcastLink.Bench.Shell

/-- What a redirection does. -/
inductive Way where
  | into
  | outOf
  | duplicate
  deriving DecidableEq, Repr

/-- A piece of a command line. -/
inductive Token where
  | word (word : Word)
  | redirect (descriptor : Nat) (way : Way)
  | newline
  | semicolon
  /-- The end of a case. -/
  | caseEnd
  | ampersand
  | pipe
  | orElse
  | andThen
  | opening
  | closing
  /-- From here on the line cannot be read. -/
  | broken
  deriving DecidableEq, Repr

/-- What quotes the character at hand. -/
inductive Quotes where
  | none
  | single
  | double
  deriving DecidableEq, Repr

/-- A word that is begun, its newest piece first. -/
abbrev Begun := Option Word

/-- A piece more of a word; text that is quoted alike grows together. -/
def withPiece (word : Begun) (p : Piece) : Begun :=
  match word.getD [], p with
  | .text old quoted :: ps, .text new quotedToo =>
    if quoted = quotedToo then some (.text (old ++ new) quoted :: ps)
    else some (p :: .text old quoted :: ps)
  | ps, p => some (p :: ps)

/-- A character more of a word. -/
def withChar (word : Begun) (c : Char) (quoted : Bool) : Begun :=
  withPiece word (.text (String.singleton c) quoted)

/-- Put the word that is begun in front of the pieces behind it. -/
def withWord (word : Begun) (rest : List Token) : List Token :=
  match word with
  | none => rest
  | some ps => .word ps.reverse :: rest

/-- What stands between brackets, up to the one that closes them, and what stands behind. -/
def enclosed (opening closing : Char) : Nat → Quotes → List Char → Option (List Char × List Char)
  | _, _, [] => none
  | depth, q, c :: rest =>
    let go (depth : Nat) (q : Quotes) : Option (List Char × List Char) :=
      (enclosed opening closing depth q rest).map fun (inside, behind) => (c :: inside, behind)
    match q with
    | .single => go depth (if c = '\x27' then .none else .single)
    | .double => go depth (if c = '\x22' then .none else .double)
    | .none =>
      if c = '\x27' then go depth .single
      else if c = '\x22' then go depth .double
      else if c = opening then go (depth + 1) .none
      else if c = closing then
        match depth with
        | 0 => some ([], rest)
        | depth + 1 => go depth .none
      else go depth .none

/-- A line between backquotes, up to the one that closes it, and what stands behind. -/
def backquoted : List Char → Option (List Char × List Char)
  | [] => none
  | '\\' :: c :: rest =>
    let kept := if c = '\x60' || c = '\\' || c = '$' then [c] else ['\\', c]
    (backquoted rest).map fun (inside, behind) => (kept ++ inside, behind)
  | c :: rest =>
    if c = '\x60' then some ([], rest)
    else (backquoted rest).map fun (inside, behind) => (c :: inside, behind)

/-- Parameters whose name is one sign or digit. -/
def isSpecial (c : Char) : Bool := c.isDigit || "?$!#@*-".toList.contains c

/-- What stands between braces behind a dollar. -/
def braced (inside : List Char) (quoted : Bool) : Option Piece :=
  match inside with
  | '#' :: c :: rest => some (.length (String.ofList (c :: rest)))
  | c :: rest =>
    if startsName c then
      some (.parameter (String.ofList (inside.takeWhile insideName))
        (String.ofList (inside.dropWhile insideName)) quoted)
    else if isSpecial c then some (.parameter (String.singleton c) (String.ofList rest) quoted)
    else none
  | [] => none

/-- What stands between round brackets behind a dollar. -/
def bracketed (inside : List Char) (quoted : Bool) : Piece :=
  match inside, inside.getLast? with
  | '(' :: rest, some ')' => .sum (String.ofList rest.dropLast)
  | _, _ => .output (String.ofList inside) quoted

/-- The piece that a dollar begins, and what stands behind it. -/
def dollar (quoted : Bool) : List Char → Option (Piece × List Char)
  | '(' :: rest => do
    let (inside, behind) ← enclosed '(' ')' 0 .none rest
    return (bracketed inside quoted, behind)
  | '\x7b' :: rest => do
    let (inside, behind) ← enclosed '\x7b' '\x7d' 0 .none rest
    return (← braced inside quoted, behind)
  | c :: rest =>
    if startsName c then
      let cs := c :: rest
      some (.parameter (String.ofList (cs.takeWhile insideName)) "" quoted, cs.dropWhile insideName)
    else if isSpecial c then some (.parameter (String.singleton c) "" quoted, rest)
    else some (.text "$" quoted, c :: rest)
  | [] => some (.text "$" quoted, [])

/-- Does a backslash between double quotes quote the character? -/
def isEscapable (c : Char) : Bool := c = '$' || c = '\x60' || c = '\x22' || c = '\\'

/-- The number of the descriptor that a word in front of a redirection names. -/
def descriptor? (word : Begun) : Option Nat := do
  let text ← (← word).plain?
  if text.toList.all Char.isDigit then text.toNat? else none

namespace Token

/-- A redirection begins; a number in front of it is its descriptor. -/
def redirecting (begun : Begun) (default : Nat) (way : Way) (rest : List Token) : List Token :=
  match descriptor? begun with
  | some n => .redirect n way :: rest
  | none => withWord begun (.redirect default way :: rest)

/-- The pieces of a line, given what quotes the next character and the word that is begun. -/
def scan : Nat → Quotes → Begun → List Char → List Token
  | 0, _, _, _ => [.broken]
  | _ + 1, .none, begun, [] => withWord begun []
  | _ + 1, _, _, [] => [.broken]
  | fuel + 1, .single, begun, c :: rest =>
    if c = '\x27' then scan fuel .none begun rest
    else scan fuel .single (withChar begun c true) rest
  | fuel + 1, q, begun, '$' :: rest =>
    match dollar (q = .double) rest with
    | some (p, rest) => scan fuel q (withPiece begun p) rest
    | none => [.broken]
  | fuel + 1, q, begun, '\x60' :: rest =>
    match backquoted rest with
    | some (line, rest) =>
      scan fuel q (withPiece begun (.output (String.ofList line) (q = .double))) rest
    | none => [.broken]
  | fuel + 1, q, begun, '\\' :: '\n' :: rest => scan fuel q begun rest
  | fuel + 1, .double, begun, '\\' :: c :: rest =>
    if isEscapable c then scan fuel .double (withChar begun c true) rest
    else scan fuel .double (withChar begun '\\' true) (c :: rest)
  | fuel + 1, .double, begun, c :: rest =>
    if c = '\x22' then scan fuel .none begun rest
    else scan fuel .double (withChar begun c true) rest
  | fuel + 1, .none, begun, '\\' :: c :: rest => scan fuel .none (withChar begun c true) rest
  | fuel + 1, .none, begun, c :: rest =>
    let sign (t : Token) (rest : List Char) : List Token :=
      withWord begun (t :: scan fuel .none none rest)
    let redirect (default : Nat) (way : Way) (rest : List Char) : List Token :=
      redirecting begun default way (scan fuel .none none rest)
    match c, rest with
    | ';', ';' :: rest => sign .caseEnd rest
    | '&', '&' :: rest => sign .andThen rest
    | '|', '|' :: rest => sign .orElse rest
    | '>', '&' :: rest => redirect 1 .duplicate rest
    | '>', '>' :: rest | '>', '|' :: rest => redirect 1 .into rest
    | '<', '&' :: rest => redirect 0 .duplicate rest
    | '<', '>' :: rest => redirect 0 .into rest
    | '<', '<' :: _ => withWord begun [.broken]
    | ';', rest => sign .semicolon rest
    | '&', rest => sign .ampersand rest
    | '|', rest => sign .pipe rest
    | '(', rest => sign .opening rest
    | ')', rest => sign .closing rest
    | '\n', rest => sign .newline rest
    | '>', rest => redirect 1 .into rest
    | '<', rest => redirect 0 .outOf rest
    | '\x27', rest => scan fuel .single (withPiece begun (.text "" true)) rest
    | '\x22', rest => scan fuel .double (withPiece begun (.text "" true)) rest
    | c, rest =>
      if isGap c then withWord begun (scan fuel .none none rest)
      else if c = '#' && begun.isNone then scan fuel .none none (rest.dropWhile (· ≠ '\n'))
      else scan fuel .none (withChar begun c false) rest

/-- The pieces of a line. -/
def ofLine (line : String) : List Token :=
  let cs := line.toList
  scan (cs.length + 1) .none none cs

end Token

/-- The pieces of a text in which blanks and signs stand for themselves. -/
def Word.ofText (text : String) : Option Word :=
  let cs := text.toList
  match Token.scan (cs.length + 2) .double (some []) (cs ++ ['\x22']) with
  | [.word w] => some w
  | _ => none

end BroadcastLink.Bench.Shell
