import BroadcastLink.Bench.Shell.Token

/-!
# Scripts

A command line as commands joined to one another.
-/

namespace BroadcastLink.Bench.Shell

/-- A redirection of a descriptor. -/
structure Redirect where
  descriptor : Nat
  way : Way
  target : Word
  deriving DecidableEq, Repr

/-- A script. -/
inductive Script where
  | nothing
  | command (assignments : List (String × Word)) (words : List Word) (redirects : List Redirect)
  | redirected (body : Script) (redirects : List Redirect)
  /-- A shell of its own, which may end without ending the script. -/
  | group (body : Script)
  /-- The second after the first, whatever that came to. -/
  | behind (first second : Script)
  /-- The second if the first went well. -/
  | ifDone (first second : Script)
  /-- The second if the first went badly. -/
  | ifFailed (first second : Script)
  /-- Went well if the other went badly. -/
  | inverted (body : Script)
  /-- What the first prints is what the second reads; the second one's status counts. -/
  | piped (first second : Script)
  /-- Not waited for. -/
  | aside (body : Script)
  | choice (condition first second : Script)
  /-- The body again and again, as long as the condition goes as it is wanted to. -/
  | loop (wanted : Bool) (condition body : Script)
  /-- The body once for each field; without words, for each argument. -/
  | each (name : String) (words : Option (List Word)) (body : Script)
  /-- The body if the subject matches one of the patterns, otherwise the rest. -/
  | matched (subject : Word) (patterns : List Word) (body rest : Script)
  | define (name : String) (body : Script)
  deriving Repr

end BroadcastLink.Bench.Shell
