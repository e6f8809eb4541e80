import BroadcastLink.Session

/-!
# The same session later on

Exchanges come and go, but a session stays on its connection and takes up the same capacity.
-/

namespace BroadcastLink.Session

/-- A session later on: its connection is the same, and so is the pool it takes up a place of. -/
structure Later (s s' : Session) : Prop where
  line : s'.line = s.line
  pool : s'.pool = s.pool

variable {s s' : Session}

theorem Later.refl (s : Session) : s.Later s := ⟨rfl, rfl⟩

theorem later_of_check {timeout : Duration} (h : s.check timeout = .inFlight s') : s.Later s' := by
  rw [check] at h
  split at h
  · rw [← Begun.inFlight.inj h]
    exact ⟨rfl, rfl⟩
  · contradiction

theorem later_of_send {commands : List String} (h : s.send commands = .inFlight s') :
    s.Later s' := by
  rw [send] at h
  split at h
  · contradiction
  · contradiction
  · split at h
    · contradiction
    · split at h
      · contradiction
      · rw [← Begun.inFlight.inj h]
        exact ⟨rfl, rfl⟩

/-- Taking responses ends with the exchange over, or still in flight on the same connection. -/
theorem later_settle (s : Session) (x : Exchange) (now : Instant) (left : Nat)
    (deadline : Instant) : s.Later (s.settle x now left deadline).1 := by
  induction left generalizing s deadline with
  | zero => exact ⟨rfl, rfl⟩
  | succ left ih =>
    rw [settle]
    split
    · exact ⟨rfl, rfl⟩
    · rename_i responses _ _
      dsimp only
      split
      · exact ⟨rfl, rfl⟩
      · have hrest := ih { s with responses := responses } (x.timeout.after now)
        exact ⟨hrest.line, hrest.pool⟩

theorem later_react (s : Session) (now : Instant) (stimulus : Stimulus) :
    s.Later (s.react now stimulus).1 := by
  unfold react
  split
  · exact .refl s
  · split
    · split <;> exact ⟨rfl, rfl⟩
    · exact ⟨rfl, rfl⟩
    · exact later_settle s _ now _ _
    · exact ⟨rfl, rfl⟩
    · rename_i x _ _ _ left deadline bytes _
      have hsettled := later_settle { s with responses := s.responses.extend bytes } x now left
        deadline
      exact ⟨hsettled.line, hsettled.pool⟩
    · exact ⟨rfl, rfl⟩
    · exact ⟨rfl, rfl⟩
    · split <;> exact ⟨rfl, rfl⟩
    · exact .refl s

/-! ## Exchanges that are over -/

/-- Once an exchange has an outcome, none is in flight. -/
def EndsAtRest (r : Session × Option (Except Fault String)) : Prop :=
  ∀ outcome, r.2 = some outcome → r.1.exchange = none

theorem endsAtRest_pending (s : Session) : EndsAtRest (s, none) := fun _ h => by contradiction

theorem endsAtRest_fail (s : Session) (purpose : Purpose) (fault : Fault) :
    EndsAtRest (s.fail purpose fault) := fun _ _ => rfl

theorem endsAtRest_settle (s : Session) (x : Exchange) (now : Instant) (left : Nat)
    (deadline : Instant) : EndsAtRest (s.settle x now left deadline) := by
  induction left generalizing s deadline with
  | zero => exact fun _ _ => rfl
  | succ left ih =>
    rw [settle]
    split
    · exact endsAtRest_pending _
    · dsimp only
      split
      · exact fun _ _ => rfl
      · exact ih _ _

theorem endsAtRest_react (s : Session) (now : Instant) (stimulus : Stimulus) :
    EndsAtRest (s.react now stimulus) := by
  unfold react
  split
  · exact endsAtRest_pending s
  · split
    · split
      · exact endsAtRest_fail s _ _
      · exact endsAtRest_pending _
    · exact endsAtRest_fail s _ _
    · exact endsAtRest_settle s _ now _ _
    · exact endsAtRest_fail s _ _
    · exact endsAtRest_settle _ _ now _ _
    · exact endsAtRest_fail s _ _
    · exact endsAtRest_fail s _ _
    · split
      · exact endsAtRest_fail s _ _
      · exact endsAtRest_pending s
    · exact endsAtRest_pending s

end BroadcastLink.Session
