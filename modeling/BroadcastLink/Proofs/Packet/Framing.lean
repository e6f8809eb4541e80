import BroadcastLink.Packet.Framer

/-!
# Cutting a stream does not show

What a framer lifts depends on the bytes it was given and not on how they were cut: feeding two
parts is feeding the whole. What was thrown away is only counted, so two framers that hold the same
bytes at the same position lift the same packets.
-/

namespace BroadcastLink.Framer

/-- The framer with more bytes behind those it holds. -/
def hold (f : Framer) (more : Bytes) : Framer := { f with buffer := f.buffer ++ more }

theorem feed_eq (f : Framer) (data : Bytes) : f.feed data = (f.hold data).drain := rfl

@[simp] theorem hold_nil (f : Framer) : f.hold [] = f := by
  simp only [hold, List.append_nil]

theorem hold_append (f : Framer) (front back : Bytes) :
    f.hold (front ++ back) = (f.hold front).hold back := by
  simp only [hold, List.append_assoc]

/-! ## Headers -/

/-- A delimiter in front is no noise. -/
theorem skipNoise_of_delimiter (rest : Bytes) :
    skipNoise (packetDelimiter :: rest) = ([], packetDelimiter :: rest) := by
  simp [skipNoise]

theorem head_of_skipNoise {bytes tail : Bytes} {b : UInt8} (h : (skipNoise bytes).2 = b :: tail) :
    b = packetDelimiter := by
  have hdrop : bytes.dropWhile (· != packetDelimiter) = b :: tail := h
  have hhead := List.head?_dropWhile_not (· != packetDelimiter) bytes
  rw [hdrop, List.head?_cons] at hhead
  simpa using hhead

/-- Bytes that are all noise. -/
theorem skipNoise_append_of_nil {bytes : Bytes} (h : (skipNoise bytes).2 = []) (more : Bytes) :
    skipNoise (bytes ++ more) =
      ((skipNoise bytes).1 ++ (skipNoise more).1, (skipNoise more).2) := by
  have hall : bytes.takeWhile (· != packetDelimiter) = bytes := by
    have := List.takeWhile_append_dropWhile (p := (· != packetDelimiter)) (l := bytes)
    rwa [show bytes.dropWhile (· != packetDelimiter) = [] from h, List.append_nil] at this
  have hdrop : bytes.dropWhile (· != packetDelimiter) = [] := h
  simp [skipNoise, List.takeWhile_append, List.dropWhile_append, hall, hdrop]

/-- Bytes with a delimiter among them. -/
theorem skipNoise_append_of_cons {bytes tail : Bytes} {b : UInt8}
    (h : (skipNoise bytes).2 = b :: tail) (more : Bytes) :
    skipNoise (bytes ++ more) = ((skipNoise bytes).1, b :: (tail ++ more)) := by
  have hdrop : bytes.dropWhile (· != packetDelimiter) = b :: tail := h
  have hlen : (bytes.takeWhile (· != packetDelimiter)).length ≠ bytes.length := by
    have := congrArg List.length
      (List.takeWhile_append_dropWhile (p := (· != packetDelimiter)) (l := bytes))
    rw [hdrop, List.length_append, List.length_cons] at this
    omega
  simp [skipNoise, List.takeWhile_append, List.dropWhile_append, hlen, hdrop]

/-- The framer behind a header, or before one that is not complete. -/
def headed (discarded : Nat) : Bytes → Framer
  | _ :: kind :: high :: low :: rest => ⟨rest, .awaitingPayload kind (wordOf high low), discarded⟩
  | rest => ⟨rest, .awaitingHeader, discarded⟩

theorem readHeader_eq (f : Framer) :
    f.readHeader = headed (f.discarded + (skipNoise f.buffer).1.length) (skipNoise f.buffer).2 := by
  unfold readHeader headed
  rfl

/-- A complete header is read the same when more has arrived. -/
theorem readHeader_hold_of_payload {f : Framer} {kind : UInt8} {remaining : Nat}
    (h : f.readHeader.state = .awaitingPayload kind remaining) (more : Bytes) :
    (f.hold more).readHeader = f.readHeader.hold more := by
  rw [readHeader_eq] at h ⊢
  cases hrest : (skipNoise f.buffer).2 with
  | nil =>
    rw [hrest] at h
    contradiction
  | cons b tail =>
    rw [hrest] at h
    rw [readHeader_eq, hrest, show (f.hold more).buffer = f.buffer ++ more from rfl,
      skipNoise_append_of_cons hrest]
    match tail, h with
    | _ :: _ :: _ :: _, _ => rfl

/-- Reading a header that is not complete throws noise away, and may be done before more arrives. -/
theorem readHeader_hold_of_header {f : Framer} (h : f.readHeader.state = .awaitingHeader)
    (more : Bytes) : (f.hold more).readHeader = (f.readHeader.hold more).readHeader := by
  have hshape : f.readHeader = ⟨(skipNoise f.buffer).2, .awaitingHeader,
      f.discarded + (skipNoise f.buffer).1.length⟩ := by
    rw [readHeader_eq] at h ⊢
    match (skipNoise f.buffer).2, h with
    | [], _ | [_], _ | [_, _], _ | [_, _, _], _ => rfl
  rw [readHeader_eq (f.hold more), readHeader_eq (f.readHeader.hold more), hshape]
  simp only [hold]
  cases hrest : (skipNoise f.buffer).2 with
  | nil =>
    rw [skipNoise_append_of_nil hrest, List.nil_append, List.length_append, Nat.add_assoc]
  | cons b tail =>
    -- The delimiter is kept, so what stands before it is thrown away only once.
    obtain rfl := head_of_skipNoise hrest
    rw [skipNoise_append_of_cons hrest, List.cons_append, skipNoise_of_delimiter]
    rfl

/-! ## Packets -/

theorem readPayload_of_full {f : Framer} {kind : UInt8} {remaining : Nat}
    (hstate : f.state = .awaitingPayload kind remaining) (hfull : remaining ≤ f.buffer.length) :
    f.readPayload = (⟨f.buffer.drop remaining, .awaitingHeader, f.discarded⟩,
      some ⟨kind, f.buffer.take remaining⟩) := by
  rw [readPayload, hstate]
  exact if_neg (by omega)

/-- A complete payload is lifted the same when more has arrived. -/
theorem readPayload_hold_of_some {f g : Framer} {p : Packet} (h : f.readPayload = (g, some p))
    (more : Bytes) : (f.hold more).readPayload = (g.hold more, some p) := by
  rw [readPayload] at h
  split at h
  · simp at h
  · rename_i kind remaining hstate
    split at h
    · simp at h
    · rename_i hfull
      obtain ⟨rfl, hp⟩ := Prod.mk.inj h
      have hlen : remaining ≤ (f.buffer ++ more).length := by
        rw [List.length_append]
        omega
      rw [readPayload_of_full (f := f.hold more) hstate hlen, ← hp]
      simp only [hold]
      rw [List.drop_append_of_le_length (by omega), List.take_append_of_le_length (by omega)]

theorem readPayload_of_none {f g : Framer} (h : f.readPayload = (g, none)) : g = f := by
  unfold readPayload at h
  split at h
  · exact (Prod.mk.inj h).1.symm
  · split at h
    · exact (Prod.mk.inj h).1.symm
    · simp at h

theorem next_of_payload {f : Framer} {kind : UInt8} {remaining : Nat}
    (h : f.state = .awaitingPayload kind remaining) : f.next = f.readPayload := by
  rw [next, h]

theorem next_of_header {f : Framer} (h : f.state = .awaitingHeader) :
    f.next = f.readHeader.readPayload := by
  rw [next, h]

/-- A complete packet is lifted the same when more has arrived. -/
theorem next_hold_of_some {f g : Framer} {p : Packet} (h : f.next = (g, some p)) (more : Bytes) :
    (f.hold more).next = (g.hold more, some p) := by
  cases hstate : f.state with
  | awaitingPayload kind remaining =>
    rw [next_of_payload hstate] at h
    rw [next_of_payload (f := f.hold more) hstate]
    exact readPayload_hold_of_some h more
  | awaitingHeader =>
    rw [next_of_header hstate] at h
    rw [next_of_header (f := f.hold more) hstate]
    cases hheaded : f.readHeader.state with
    | awaitingPayload kind remaining =>
      rw [readHeader_hold_of_payload hheaded]
      exact readPayload_hold_of_some h more
    | awaitingHeader =>
      rw [readPayload, hheaded] at h
      simp at h

/-- Looking for a packet that is not complete may be done before more arrives. -/
theorem next_hold_of_none {f g : Framer} (h : f.next = (g, none)) (more : Bytes) :
    (f.hold more).next = (g.hold more).next := by
  cases hstate : f.state with
  | awaitingPayload kind remaining =>
    rw [next_of_payload hstate] at h
    rw [readPayload_of_none h]
  | awaitingHeader =>
    rw [next_of_header hstate] at h
    obtain rfl := readPayload_of_none h
    rw [next_of_header (f := f.hold more) hstate]
    cases hheaded : f.readHeader.state with
    | awaitingPayload kind remaining =>
      rw [readHeader_hold_of_payload hheaded, next_of_payload (f := f.readHeader.hold more) hheaded]
    | awaitingHeader =>
      rw [readHeader_hold_of_header hheaded, next_of_header (f := f.readHeader.hold more) hheaded]

theorem drain_of_none {f g : Framer} (h : f.next = (g, none)) : f.drain = (g, []) := by
  rw [drain]
  split
  · rename_i hnext
    rw [h] at hnext
    rw [(Prod.mk.inj hnext).1]
  · rename_i hnext
    rw [h] at hnext
    simp at hnext

theorem drain_of_some {f g : Framer} {p : Packet} (h : f.next = (g, some p)) :
    f.drain = (g.drain.1, p :: g.drain.2) := by
  rw [drain]
  split
  · rename_i hnext
    rw [h] at hnext
    simp at hnext
  · rename_i hnext
    rw [h] at hnext
    obtain ⟨rfl, hp⟩ := Prod.mk.inj hnext
    rw [Option.some.inj hp]

theorem drain_eq_of_next_eq {f g : Framer} (h : f.next = g.next) : f.drain = g.drain := by
  rw [drain, drain, h]

/-- Lifting what is complete may be done before more arrives. -/
theorem drain_hold (f : Framer) (more : Bytes) :
    (f.hold more).drain =
      ((f.drain.1.hold more).drain.1, f.drain.2 ++ (f.drain.1.hold more).drain.2) := by
  -- By the recursion of `drain`: what it has lifted it lifts again, and then goes on with more.
  fun_induction drain f with
  | case1 f g hnext => rw [drain_eq_of_next_eq (next_hold_of_none hnext more), List.nil_append]
  | case2 f g p hnext r ih =>
    rw [drain_of_some (next_hold_of_some hnext more), ih, List.cons_append]

/-- Feeding two parts of a stream is feeding the whole. -/
theorem feed_append (f : Framer) (front back : Bytes) :
    f.feed (front ++ back) =
      (((f.feed front).1.feed back).1, (f.feed front).2 ++ ((f.feed front).1.feed back).2) := by
  rw [feed_eq f, hold_append, drain_hold]
  rfl

/-! ## What was thrown away -/

/-- Two framers hold the same bytes at the same position. -/
def Alike (f g : Framer) : Prop := f.buffer = g.buffer ∧ f.state = g.state

theorem alike_reset (f : Framer) : f.reset.Alike {} := ⟨rfl, rfl⟩

theorem alike_headed (c d : Nat) (bytes : Bytes) : (headed c bytes).Alike (headed d bytes) := by
  match bytes with
  | _ :: _ :: _ :: _ :: _ => exact ⟨rfl, rfl⟩
  | [] | [_] | [_, _] | [_, _, _] => exact ⟨rfl, rfl⟩

variable {f g : Framer}

theorem Alike.hold (h : f.Alike g) (more : Bytes) : (f.hold more).Alike (g.hold more) :=
  ⟨congrArg (· ++ more) h.1, h.2⟩

theorem Alike.readHeader (h : f.Alike g) : f.readHeader.Alike g.readHeader := by
  rw [readHeader_eq, readHeader_eq, h.1]
  exact alike_headed _ _ _

theorem Alike.readPayload (h : f.Alike g) :
    f.readPayload.1.Alike g.readPayload.1 ∧ f.readPayload.2 = g.readPayload.2 := by
  unfold Framer.readPayload
  rw [h.1, h.2]
  split
  · exact ⟨h, rfl⟩
  · split
    · exact ⟨h, rfl⟩
    · exact ⟨⟨rfl, rfl⟩, rfl⟩

theorem Alike.next (h : f.Alike g) : f.next.1.Alike g.next.1 ∧ f.next.2 = g.next.2 := by
  cases hstate : g.state with
  | awaitingHeader =>
    rw [next_of_header hstate, next_of_header (h.2.trans hstate)]
    exact h.readHeader.readPayload
  | awaitingPayload kind remaining =>
    rw [next_of_payload hstate, next_of_payload (h.2.trans hstate)]
    exact h.readPayload

theorem Alike.drain (h : f.Alike g) : f.drain.1.Alike g.drain.1 ∧ f.drain.2 = g.drain.2 := by
  fun_induction Framer.drain f generalizing g with
  | case1 f f' hnext =>
    obtain ⟨halike, hpacket⟩ := h.next
    rw [hnext] at halike hpacket
    rw [drain_of_none (Prod.ext rfl hpacket.symm : g.next = (g.next.1, none))]
    exact ⟨halike, rfl⟩
  | case2 f f' p hnext r =>
    rename_i ih
    obtain ⟨halike, hpacket⟩ := h.next
    rw [hnext] at halike hpacket
    rw [drain_of_some (Prod.ext rfl hpacket.symm : g.next = (g.next.1, some p))]
    obtain ⟨hrest, hpackets⟩ := ih halike
    exact ⟨hrest, congrArg (p :: ·) hpackets⟩

/-- What a framer lifts does not depend on what was thrown away before. -/
theorem Alike.feed (h : f.Alike g) (data : Bytes) :
    (f.feed data).1.Alike (g.feed data).1 ∧ (f.feed data).2 = (g.feed data).2 :=
  (h.hold data).drain

end BroadcastLink.Framer
