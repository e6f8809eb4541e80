import BroadcastLink.Proofs.Session.InStep

/-!
# What an exchange writes

Whatever the connection does, an exchange writes the bytes it was begun with and no others. What it
has written and what it has still to write together stay the same, and a response comes only when
nothing is left to write.
-/

namespace BroadcastLink.Session

variable {s : Session}

/-- The bytes that the connection takes from the exchange in flight. -/
def taken (s : Session) (stimulus : Stimulus) : Bytes :=
  match s.exchange.map Exchange.stage, stimulus with
  | some (.writing rest), .accepted n => rest.take n
  | _, _ => []

/-- A move of an exchange that had so much to write: what is left to write follows what was taken,
and with a response nothing is left. -/
def GoesOnWriting (unwritten taken : Bytes) (r : Session × Option (Except Fault String)) : Prop :=
  (∀ y, r.1.exchange = some y → taken ++ y.unwritten = unwritten) ∧
    ∀ text, r.2 = some (.ok text) → taken = unwritten

theorem goesOnWriting_fail (s : Session) (unwritten taken : Bytes) (purpose : Purpose)
    (fault : Fault) : GoesOnWriting unwritten taken (s.fail purpose fault) := by
  refine ⟨fun y hy => by contradiction, fun text htext => ?_⟩
  have : Except.error _ = Except.ok text := Option.some.inj htext
  contradiction

theorem goesOnWriting_settle (s : Session) (x : Exchange) (now : Instant) (left : Nat)
    (deadline : Instant) : GoesOnWriting [] [] (s.settle x now left deadline) := by
  induction left generalizing s deadline with
  | zero => exact ⟨fun y hy => by contradiction, fun _ _ => rfl⟩
  | succ left ih =>
    rw [settle]
    split
    · refine ⟨fun y hy => ?_, fun text htext => by contradiction⟩
      obtain rfl : { x with stage := .reading (left + 1) deadline } = y := Option.some.inj hy
      rfl
    · dsimp only
      split
      · exact ⟨fun y hy => by contradiction, fun _ _ => rfl⟩
      · exact ih _ _

/-- Nothing was taken, and the exchange stays as it is. -/
theorem goesOnWriting_same {x : Exchange} (h : s.exchange = some x) :
    GoesOnWriting x.unwritten [] (s, none) := by
  refine ⟨fun y hy => ?_, fun text htext => by contradiction⟩
  obtain rfl : x = y := Option.some.inj (h.symm.trans hy)
  rfl

theorem goesOnWriting_react {x : Exchange} (h : s.exchange = some x) (now : Instant)
    (stimulus : Stimulus) :
    GoesOnWriting x.unwritten (s.taken stimulus) (s.react now stimulus) := by
  have hsame := goesOnWriting_same h
  unfold react taken
  rw [h]
  obtain ⟨purpose, responses, timeout, stage⟩ := x
  -- Only a writing exchange has bytes taken, and only then is less left to write.
  cases stage <;> cases stimulus
  case writing.accepted rest n =>
    show GoesOnWriting rest (rest.take n) (if n = 0 then _ else _)
    split
    · exact goesOnWriting_fail s _ _ purpose _
    · cases hdrop : rest.drop n with
      | nil =>
        refine ⟨fun y hy => ?_, fun text htext => by contradiction⟩
        obtain rfl : Exchange.mk purpose responses timeout .flushing = y := Option.some.inj hy
        show rest.take n ++ [] = rest
        rw [← hdrop, List.take_append_drop]
      | cons b more =>
        refine ⟨fun y hy => ?_, fun text htext => by contradiction⟩
        obtain rfl : Exchange.mk purpose responses timeout (.writing (b :: more)) = y :=
          Option.some.inj hy
        show rest.take n ++ b :: more = rest
        rw [← hdrop, List.take_append_drop]
  case flushing.flushed => exact goesOnWriting_settle s _ now _ _
  case reading.received left deadline data => exact goesOnWriting_settle _ _ now _ _
  case reading.expired left deadline =>
    show GoesOnWriting [] [] (if deadline ≤ now then _ else _)
    split
    · exact goesOnWriting_fail s _ _ purpose _
    · exact hsame
  case writing.writeFailed | flushing.flushFailed | reading.ended | reading.readFailed =>
    exact goesOnWriting_fail s _ _ purpose _
  all_goals exact hsame

/-- Where no exchange is in flight none comes out of a move. -/
theorem react_of_at_rest (h : s.exchange = none) (now : Instant) (stimulus : Stimulus) :
    s.react now stimulus = (s, none) := by
  rw [react, h]

end BroadcastLink.Session
