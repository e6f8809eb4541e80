/-!
# Signals

A signal has a line of waiters, first come first told. Telling one waiter when none waits is
remembered, once, for the next to come. A waiter who was told as the one and leaves without having
heard passes it on; one who was told together with all others, or on arrival, does not.
-/

namespace BroadcastLink

/-- Where a waiter stands: in line, told as the one, or free to go on. -/
inductive Standing where
  | waiting
  | told
  | freed
  deriving DecidableEq, Repr

/-- A signal: whether the next to come is told at once, and its waiters in the order they came. -/
structure Signal (ω : Type) where
  stored : Bool := false
  line : List (ω × Standing) := []
  deriving DecidableEq, Repr

namespace Signal

variable {ω : Type} [DecidableEq ω]

/-- Tell the first who waits. -/
def tellFirst : List (ω × Standing) → Option (List (ω × Standing) × ω)
  | [] => none
  | (w, .waiting) :: rest => some ((w, .told) :: rest, w)
  | e :: rest => (tellFirst rest).map fun (rest, w) => (e :: rest, w)

/-- Tell one waiter, or remember it. -/
def tellOne (s : Signal ω) : Signal ω × Option ω :=
  match tellFirst s.line with
  | some (line, w) => ({ s with line := line }, some w)
  | none => ({ s with stored := true }, none)

/-- Is the waiter still in line? -/
def isWaiting (e : ω × Standing) : Bool := e.2 == .waiting

/-- Tell all who wait. -/
def tellAll (s : Signal ω) : Signal ω × List ω :=
  ({ s with line := s.line.map fun e => if isWaiting e then (e.1, .freed) else e },
    (s.line.filter isWaiting).map (·.1))

/-- Get in line, unless told on arrival. -/
def enter (s : Signal ω) (w : ω) : Signal ω :=
  if s.stored then ⟨false, s.line ++ [(w, .freed)]⟩
  else { s with line := s.line ++ [(w, .waiting)] }

/-- Where a waiter stands. -/
def standing? (s : Signal ω) (w : ω) : Option Standing := s.line.lookup w

/-- May the waiter go on? -/
def mayGo (s : Signal ω) (w : ω) : Bool :=
  match s.standing? w with
  | some .told | some .freed => true
  | _ => false

/-- Get out of line. -/
def without (s : Signal ω) (w : ω) : Signal ω := { s with line := s.line.filter fun e => e.1 ≠ w }

/-- Go on, having heard. -/
def hear (s : Signal ω) (w : ω) : Signal ω := s.without w

/-- Get out of line without having heard; what was told to this waiter alone is passed on. -/
def leave (s : Signal ω) (w : ω) : Signal ω × Option ω :=
  if s.standing? w = some .told then (s.without w).tellOne else (s.without w, none)

end Signal

end BroadcastLink
