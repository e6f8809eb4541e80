import BroadcastLink.Packet

/-!
# Lifting packets off a fragmented stream

A framer keeps the bytes it cannot use yet. Outside a packet it throws bytes away up to the next
NUL; behind a header it waits until the whole payload is there. Feeding is repeated lifting, so what
comes out does not depend on where the stream was cut.
-/

namespace BroadcastLink

/-- Where the framer stands: looking for a header, or behind one with a payload outstanding. -/
inductive FramerState where
  | awaitingHeader
  | awaitingPayload (kind : UInt8) (remaining : Nat)
  deriving DecidableEq, Repr

/-- A framer: the bytes held back, the position, and how many bytes were thrown away. -/
structure Framer where
  buffer : Bytes := []
  state : FramerState := .awaitingHeader
  discarded : Nat := 0
  deriving DecidableEq, Repr

namespace Framer

/-- Bytes held waiting for more. -/
def buffered (f : Framer) : Nat := f.buffer.length

/-- Forget any packet begun. -/
def reset (f : Framer) : Framer := { f with buffer := [], state := .awaitingHeader }

/-- The bytes before the next delimiter, and the rest from the delimiter on. -/
def skipNoise (bytes : Bytes) : Bytes × Bytes :=
  (bytes.takeWhile (· != packetDelimiter), bytes.dropWhile (· != packetDelimiter))

/-- Read a header, if one is there: the noise before it is thrown away in any case. -/
def readHeader (f : Framer) : Framer :=
  let (noise, rest) := skipNoise f.buffer
  let discarded := f.discarded + noise.length
  match rest with
  | _ :: kind :: high :: low :: rest =>
    ⟨rest, .awaitingPayload kind (wordOf high low), discarded⟩
  | rest => ⟨rest, .awaitingHeader, discarded⟩

/-- Lift a packet whose header was read, if its payload is complete. -/
def readPayload (f : Framer) : Framer × Option Packet :=
  match f.state with
  | .awaitingHeader => (f, none)
  | .awaitingPayload kind remaining =>
    if f.buffer.length < remaining then (f, none)
    else (⟨f.buffer.drop remaining, .awaitingHeader, f.discarded⟩,
      some ⟨kind, f.buffer.take remaining⟩)

/-- Lift the next packet, if it is complete. -/
def next (f : Framer) : Framer × Option Packet :=
  match f.state with
  | .awaitingHeader => f.readHeader.readPayload
  | .awaitingPayload _ _ => f.readPayload

/-- What lifting can still use: every packet lifted makes it smaller. -/
def weight (f : Framer) : Nat :=
  match f.state with
  | .awaitingHeader => 2 * f.buffer.length
  | .awaitingPayload _ _ => 2 * f.buffer.length + 1

theorem skipNoise_length (bytes : Bytes) : (skipNoise bytes).2.length ≤ bytes.length := by
  exact (List.dropWhile_sublist _).length_le

theorem readPayload_weight {f g : Framer} {p : Packet} (h : f.readPayload = (g, some p)) :
    g.weight < f.weight := by
  unfold readPayload at h
  split at h
  · simp at h
  · rename_i kind remaining hs
    split at h
    · simp at h
    · simp only [Prod.mk.injEq] at h
      obtain ⟨rfl, -⟩ := h
      simp only [weight, hs, List.length_drop]
      omega

theorem readHeader_weight (f : Framer) (hs : f.state = .awaitingHeader) :
    f.readHeader.weight ≤ f.weight := by
  have hn := skipNoise_length f.buffer
  simp only [readHeader]
  split
  · rename_i rest hrest
    simp only [hrest, List.length_cons] at hn
    simp only [weight, hs]
    omega
  · simp only [weight, hs]
    omega

theorem next_weight {f g : Framer} {p : Packet} (h : f.next = (g, some p)) :
    g.weight < f.weight := by
  unfold next at h
  split at h
  · rename_i hs
    exact Nat.lt_of_lt_of_le (readPayload_weight h) (readHeader_weight f hs)
  · exact readPayload_weight h

/-- Lift packets as long as there are complete ones. -/
def drain (f : Framer) : Framer × List Packet :=
  match _lifted : f.next with
  | (g, none) => (g, [])
  | (g, some p) =>
    let r := g.drain
    (r.1, p :: r.2)
termination_by f.weight
decreasing_by exact next_weight (by assumption)

/-- Take in received bytes and lift every packet they complete. -/
def feed (f : Framer) (data : Bytes) : Framer × List Packet :=
  drain { f with buffer := f.buffer ++ data }

end Framer

end BroadcastLink
