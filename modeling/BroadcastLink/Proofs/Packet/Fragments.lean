import BroadcastLink.Proofs.Packet.Framing

/-!
# A stream in fragments

Between two reads a framer has lifted everything that was complete, so looking again finds nothing
and changes nothing. From there on it does not matter into how many reads a stream is cut, nor that
some of them are empty.
-/

namespace BroadcastLink.Framer

/-! ## Between two reads -/

/-- Nothing that is complete is left, and no noise. -/
def Settled (f : Framer) : Prop := f.next = (f, none)

theorem settled_new : ({} : Framer).Settled := rfl

theorem settled_reset (f : Framer) : f.reset.Settled := rfl

/-- Who looked in vain looks in vain again. -/
theorem settled_of_next {f g : Framer} (h : f.next = (g, none)) : g.Settled := by
  have hagain := next_hold_of_none h []
  rw [hold_nil, hold_nil, h] at hagain
  exact hagain.symm

/-- Lifting goes on until nothing complete is left. -/
theorem settled_drain (f : Framer) : f.drain.1.Settled := by
  -- By the recursion of `drain`: it ends where a look was in vain.
  fun_induction drain f with
  | case1 f g hnext => exact settled_of_next hnext
  | case2 f g p hnext r ih => exact ih

theorem settled_feed (f : Framer) (data : Bytes) : (f.feed data).1.Settled :=
  settled_drain (f.hold data)

/-- An empty read brings nothing. -/
theorem Settled.feed_nil {f : Framer} (h : f.Settled) : f.feed [] = (f, []) := by
  rw [feed_eq, hold_nil]
  exact drain_of_none h

/-! ## What can become of a framer -/

/-- A use of a framer. -/
inductive Use where
  | feed (data : Bytes)
  | reset
  deriving DecidableEq, Repr

/-- The framer behind a use; what it lifted was taken away. -/
def used (f : Framer) : Use → Framer
  | .feed data => (f.feed data).1
  | .reset => f.reset

/-- A new framer after any uses. -/
def after (uses : List Use) : Framer := uses.foldl used {}

theorem settled_used (f : Framer) (use : Use) : (f.used use).Settled := by
  cases use with
  | feed data => exact settled_feed f data
  | reset => exact settled_reset f

theorem Settled.foldl {f : Framer} (h : f.Settled) (uses : List Use) :
    (uses.foldl Framer.used f).Settled := by
  induction uses generalizing f with
  | nil => exact h
  | cons use rest ih => exact ih (settled_used f use)

theorem settled_after (uses : List Use) : (after uses).Settled := settled_new.foldl uses

/-! ## Any number of reads -/

/-- Feed one read after another, and collect what each completes. -/
def feedAll (f : Framer) : List Bytes → Framer × List Packet
  | [] => (f, [])
  | read :: rest =>
    let (f, packets) := f.feed read
    let (f, later) := f.feedAll rest
    (f, packets ++ later)

theorem feedAll_cons (f : Framer) (read : Bytes) (rest : List Bytes) :
    f.feedAll (read :: rest) =
      (((f.feed read).1.feedAll rest).1, (f.feed read).2 ++ ((f.feed read).1.feedAll rest).2) :=
  rfl

/-- The reads together are fed like one. -/
theorem Settled.feedAll {f : Framer} (h : f.Settled) (reads : List Bytes) :
    f.feedAll reads = f.feed reads.flatten := by
  induction reads generalizing f with
  | nil => exact h.feed_nil.symm
  | cons read rest ih =>
    rw [feedAll_cons, List.flatten_cons, feed_append, ih (settled_feed f read)]

/-- Framing does not depend on fragmentation. Whatever a framer was used for before, two reads are
fed like the one that they make up, and so are any number of reads, empty ones included: the
packets, the position, the bytes held back and the count of those thrown away are the same. -/
theorem after_feeds_whole (uses : List Use) :
    (∀ front back : Bytes,
      let first := (after uses).feed front
      let second := first.1.feed back
      let whole := (after uses).feed (front ++ back)
      first.2 ++ second.2 = whole.2 ∧ second.1.state = whole.1.state ∧
        second.1.buffer = whole.1.buffer ∧ second.1.discarded = whole.1.discarded) ∧
    ∀ reads : List Bytes,
      let pieces := (after uses).feedAll reads
      let whole := (after uses).feed reads.flatten
      pieces.2 = whole.2 ∧ pieces.1.state = whole.1.state ∧
        pieces.1.buffered = whole.1.buffered ∧ pieces.1.discarded = whole.1.discarded := by
  constructor
  · intro front back first second whole
    have hwhole : whole = (second.1, first.2 ++ second.2) := feed_append (after uses) front back
    rw [hwhole]
    exact ⟨rfl, rfl, rfl, rfl⟩
  · intro reads pieces whole
    have hpieces : pieces = whole := (settled_after uses).feedAll reads
    rw [hpieces]
    exact ⟨rfl, rfl, rfl, rfl⟩

/-- A delimiter, the length and a payload full of delimiters, each cut in two, with noise before. -/
example :
    ({} : Framer).feedAll [[7, 0], [], [5, 0], [2, 0], [0, 9]] =
      ({ discarded := 2 }, [⟨5, [0, 0]⟩]) := by
  cbv

end BroadcastLink.Framer
