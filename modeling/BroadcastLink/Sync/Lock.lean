/-!
# Locks

A lock has one holder and a line of those who want it next. It is handed on to the first in line,
also before that one has noticed.
-/

namespace BroadcastLink

/-- A lock: its holder, and who wants it next. -/
structure Lock (ω : Type) where
  holder : Option ω := none
  line : List ω := []
  deriving DecidableEq, Repr

namespace Lock

variable {ω : Type} [DecidableEq ω]

/-- Does this one hold the lock? -/
def heldBy (l : Lock ω) (w : ω) : Bool := l.holder == some w

/-- Ask for the lock. A free lock is held at once. -/
def request (l : Lock ω) (w : ω) : Lock ω :=
  match l.holder with
  | none => { l with holder := some w }
  | some _ => { l with line := l.line ++ [w] }

/-- Hand the lock on, and tell who has it now. -/
def handOn (l : Lock ω) : Lock ω × Option ω :=
  match l.line with
  | [] => (⟨none, []⟩, none)
  | w :: rest => (⟨some w, rest⟩, some w)

/-- Give the lock back, or no longer want it. -/
def giveUp (l : Lock ω) (w : ω) : Lock ω × Option ω :=
  if l.heldBy w then l.handOn else ({ l with line := l.line.filter (· ≠ w) }, none)

end Lock

end BroadcastLink
