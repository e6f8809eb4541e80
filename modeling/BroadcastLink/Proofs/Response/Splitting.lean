import BroadcastLink.Proofs.Response.Segments

/-!
# Taking responses is cutting the stream

However bytes arrive at a response buffer, and whenever responses are taken meanwhile, the responses
are the first segments of all that arrived, and the buffer holds what stands behind them. The offset
where a search resumes only ever passes positions at which no mark can begin, so a mark that arrives
in pieces is found like any other.
-/

namespace BroadcastLink

/-! ## The first mark -/

/-- A stream can be cut unless the mark is nowhere in it. -/
theorem cutAtMark_eq_none_iff {stream : Bytes} :
    cutAtMark stream = none ↔ ¬ responseMark <:+: stream := by
  constructor
  · rintro huncut ⟨before, behind, rfl⟩
    apply not_prefix_of_uncut huncut before.length
    rw [List.append_assoc, List.drop_left, List.isPrefixOf_iff_prefix]
    exact List.prefix_append responseMark behind
  · intro hnone
    rcases hcut : cutAtMark stream with _ | ⟨segment, behind⟩
    · rfl
    · exact absurd ⟨segment, behind, (eq_append_of_cutAtMark hcut).symm⟩ hnone

/-- No mark begins before the one where a stream is cut. -/
theorem not_prefix_of_cut {stream segment behind : Bytes}
    (h : cutAtMark stream = some (segment, behind)) {k : Nat} (hk : k < segment.length) :
    ¬ responseMark <+: stream.drop k := by
  induction stream generalizing segment k with
  | nil => simp [cutAtMark] at h
  | cons b rest ih =>
    rw [cutAtMark] at h
    split at h
    · obtain ⟨rfl, -⟩ := Prod.mk.inj (Option.some.inj h)
      exact absurd hk (Nat.not_lt_zero k)
    · rename_i notHere
      obtain ⟨⟨before, after⟩, hcut, heq⟩ := Option.map_eq_some_iff.mp h
      obtain ⟨rfl, rfl⟩ := Prod.mk.inj heq
      cases k with
      | zero => rwa [List.drop_zero, ← List.isPrefixOf_iff_prefix]
      | succ k => exact ih hcut (Nat.lt_of_succ_lt_succ hk)

/-- A stream is cut at the leftmost mark. -/
theorem cutAtMark_eq_some_iff {stream segment behind : Bytes} :
    cutAtMark stream = some (segment, behind) ↔
      stream = segment ++ responseMark ++ behind ∧
        ∀ k < segment.length, ¬ responseMark <+: stream.drop k := by
  constructor
  · exact fun h => ⟨eq_append_of_cutAtMark h, fun k hk => not_prefix_of_cut h hk⟩
  · rintro ⟨hstream, hfirst⟩
    have hbegins : responseMark <+: stream.drop segment.length := by
      rw [hstream, List.append_assoc, List.drop_left]
      exact List.prefix_append responseMark behind
    rcases hcut : cutAtMark stream with _ | ⟨segment', behind'⟩
    · exact absurd (List.isPrefixOf_iff_prefix.mpr hbegins) (not_prefix_of_uncut hcut _)
    -- Neither mark begins before the other.
    have hwhole := eq_append_of_cutAtMark hcut
    have hbegins' : responseMark <+: stream.drop segment'.length := by
      rw [hwhole, List.append_assoc, List.drop_left]
      exact List.prefix_append responseMark behind'
    have hle : segment'.length ≤ segment.length :=
      Nat.le_of_not_lt fun hlt => not_prefix_of_cut hcut hlt hbegins
    have hge : segment.length ≤ segment'.length :=
      Nat.le_of_not_lt fun hlt => hfirst _ hlt hbegins'
    have hsame : segment' ++ (responseMark ++ behind') = segment ++ (responseMark ++ behind) := by
      rw [← List.append_assoc, ← hwhole, hstream, List.append_assoc]
    obtain ⟨rfl, hrest⟩ := List.append_inj hsame (Nat.le_antisymm hle hge)
    rw [List.append_cancel_left hrest]

/-- The first segments, each with the mark behind it, and what stands behind them are the whole. -/
theorem eq_joinSegments_append {n : Nat} {stream held : Bytes}
    (h : afterSegments n stream = some held) :
    stream = joinSegments ((segments stream).take n) ++ held := by
  induction n generalizing stream with
  | zero =>
    obtain rfl : stream = held := by simpa [afterSegments] using h
    rfl
  | succ n ih =>
    obtain ⟨⟨segment, behind⟩, hcut, hrest⟩ := Option.bind_eq_some_iff.mp h
    rw [segments_of_cut hcut, List.take_succ_cons, joinSegments_cons, List.append_assoc, ← ih hrest,
      ← eq_append_of_cutAtMark hcut]

/-- Whoever has come behind `n` segments has `n` segments to show. -/
theorem length_segments_of_afterSegments {n : Nat} {stream held : Bytes}
    (h : afterSegments n stream = some held) : n ≤ (segments stream).length := by
  induction n generalizing stream with
  | zero => exact Nat.zero_le _
  | succ n ih =>
    obtain ⟨⟨segment, behind⟩, hcut, hrest⟩ := Option.bind_eq_some_iff.mp h
    rw [segments_of_cut hcut, List.length_cons]
    exact Nat.succ_le_succ (ih hrest)

/-! ## The uses of a buffer -/

namespace ResponseBuffer

/-- A use of a response buffer. Bytes are appended the same way whether they are handed over or read
straight into the buffer. -/
inductive Use where
  | append (data : Bytes)
  | take
  | clear
  deriving DecidableEq, Repr

/-- What has become of a buffer: what arrived since it was last cleared, and the responses taken
since. -/
structure Course where
  buffer : ResponseBuffer := {}
  arrived : Bytes := []
  taken : List String := []
  deriving DecidableEq, Repr

namespace Course

def step (c : Course) : Use → Course
  | .append data => { c with buffer := c.buffer.extend data, arrived := c.arrived ++ data }
  | .take =>
    let (buffer, response) := c.buffer.take
    { c with buffer, taken := c.taken ++ response.toList }
  | .clear => { buffer := c.buffer.clear }

/-- A new buffer after any uses. -/
def after (uses : List Use) : Course := uses.foldl step {}

/-- The buffer holds what stands behind the segments taken, and has searched it only where no mark
begins. -/
structure Splits (c : Course) : Prop where
  searched : c.buffer.Searched
  held : afterSegments c.taken.length c.arrived = some c.buffer.bytes
  taken : c.taken = ((segments c.arrived).take c.taken.length).map Text.decodeLossy

theorem splits_new : ({} : Course).Splits :=
  ⟨searched_of_scanned_zero rfl, rfl, rfl⟩

variable {c : Course}

theorem Splits.append (h : c.Splits) (data : Bytes) : (c.step (.append data)).Splits := by
  refine ⟨h.searched.extend data, afterSegments_append h.held data, ?_⟩
  -- What was cut off stays cut off: the segments of what had arrived are the first of all.
  obtain ⟨more, hmore⟩ := segments_prefix (List.prefix_append c.arrived data)
  show c.taken = ((segments (c.arrived ++ data)).take c.taken.length).map Text.decodeLossy
  rw [← hmore, List.take_append_of_le_length (length_segments_of_afterSegments h.held)]
  exact h.taken

theorem Splits.take (h : c.Splits) : (c.step .take).Splits := by
  rcases hcut : cutAtMark c.buffer.bytes with _ | ⟨segment, behind⟩
  · have hstep : c.step .take =
        { c with
          buffer := ⟨c.buffer.bytes, c.buffer.bytes.length - (responseMark.length - 1)⟩ } := by
      rw [step, take_of_uncut h.searched hcut]
      simp only [Option.toList_none, List.append_nil]
    rw [hstep]
    exact ⟨searched_of_uncut hcut, h.held, h.taken⟩
  · have hstep : c.step .take =
        { c with buffer := ⟨behind, 0⟩, taken := c.taken ++ [Text.decodeLossy segment] } := by
      rw [step, take_of_cut h.searched hcut]
      rfl
    obtain ⟨hafter, hindex⟩ := afterSegments_cut h.held hcut
    rw [hstep]
    refine ⟨searched_of_scanned_zero rfl, ?_, ?_⟩
    · rw [List.length_append, List.length_singleton]
      exact hafter
    · rw [List.length_append, List.length_singleton, List.take_add_one, hindex, List.map_append,
        ← h.taken]
      rfl

theorem Splits.step (h : c.Splits) (use : Use) : (c.step use).Splits := by
  cases use with
  | append data => exact h.append data
  | take => exact h.take
  | clear => exact splits_new

theorem Splits.foldl (h : c.Splits) (uses : List Use) : (uses.foldl Course.step c).Splits := by
  induction uses generalizing c with
  | nil => exact h
  | cons use rest ih => exact ih (h.step use)

theorem splits_after (uses : List Use) : (after uses).Splits := splits_new.foldl uses

end Course

variable {r r' : ResponseBuffer}

/-- A response that is taken stood before a mark, the first one unless the search had passed over
another, and what stands behind the mark is held. -/
theorem eq_append_of_take {text : String} (h : r.take = (r', some text)) :
    ∃ response, r.bytes = response ++ responseMark ++ r'.bytes ∧
      (r.Searched → ∀ k < response.length, ¬ responseMark <+: r.bytes.drop k) := by
  rw [ResponseBuffer.take, findMark_eq] at h
  rcases hcut : cutAtMark (r.bytes.drop r.scanned) with _ | ⟨near, behind⟩
  · rw [hcut] at h
    simp at h
  · rw [hcut] at h
    obtain ⟨rfl, -⟩ := Prod.mk.inj h
    refine ⟨r.bytes.take (r.scanned + near.length), ?_, fun hsearched k hk => ?_⟩
    · have hrest : r.bytes.drop (r.scanned + near.length) = responseMark ++ behind := by
        rw [← List.drop_drop, eq_append_of_cutAtMark hcut, List.append_assoc, List.drop_left]
      have hbehind : r.bytes.drop (r.scanned + near.length + responseMark.length) = behind := by
        rw [← List.drop_drop, hrest, List.drop_left]
      dsimp only
      rw [hbehind, List.append_assoc, ← hrest, List.take_append_drop]
    · rw [List.length_take] at hk
      by_cases hpassed : k < r.scanned
      · rw [← List.isPrefixOf_iff_prefix]
        exact (hsearched k hpassed).2
      · have hnear := not_prefix_of_cut hcut (k := k - r.scanned) (by omega)
        rwa [List.drop_drop, Nat.add_sub_cancel' (Nat.le_of_not_lt hpassed)] at hnear

theorem Searched.take (h : r.Searched) : r.take.1.Searched := by
  rcases hcut : cutAtMark r.bytes with _ | ⟨segment, behind⟩
  · rw [take_of_uncut h hcut]
    exact searched_of_uncut hcut
  · rw [take_of_cut h hcut]
    exact searched_of_scanned_zero rfl

/-- What is held stays as it is when nothing is returned. -/
theorem bytes_of_take_none (h : r.take = (r', none)) : r'.bytes = r.bytes := by
  rw [ResponseBuffer.take] at h
  split at h
  · simp at h
  · rw [← (Prod.mk.inj h).1]

/-- Nothing is returned exactly when no mark is held. -/
theorem Searched.take_eq_none_iff (h : r.Searched) :
    r.take.2 = none ↔ ¬ responseMark <:+: r.bytes := by
  rw [← cutAtMark_eq_none_iff]
  rcases hcut : cutAtMark r.bytes with _ | ⟨segment, behind⟩
  · simp only [take_of_uncut h hcut]
  · simp only [take_of_cut h hcut, reduceCtorEq]

/-- At a position that was passed no mark begins, whatever arrives yet. -/
theorem Searched.not_prefix (h : r.Searched) {k : Nat} (hk : k < r.scanned) (more : Bytes) :
    ¬ responseMark <+: (r.bytes ++ more).drop k := by
  rw [← List.isPrefixOf_iff_prefix]
  exact (h.extend more k hk).2

/-- Splitting piece by piece is splitting the whole. Whatever a buffer was used for: the responses
taken since it was last cleared are the first segments of what arrived since then, decoded; what
arrived is those segments, each with its mark, and the bytes held; nothing is returned exactly when
no mark is held; and the bytes that a search skips never hide a mark, whatever arrives later. -/
theorem uses_split_stream (uses : List Use) :
    let c := Course.after uses
    let cut := (segments c.arrived).take c.taken.length
    c.taken = cut.map Text.decodeLossy ∧
      c.arrived = joinSegments cut ++ c.buffer.bytes ∧
      (c.buffer.take.2 = none ↔ ¬ responseMark <:+: c.buffer.bytes) ∧
      ∀ k < c.buffer.scanned, ∀ more : Bytes,
        ¬ responseMark <+: (c.buffer.bytes ++ more).drop k := by
  intro c cut
  have hsplits : c.Splits := Course.splits_after uses
  exact ⟨hsplits.taken, eq_joinSegments_append hsplits.held, hsplits.searched.take_eq_none_iff,
    fun k hk more => hsplits.searched.not_prefix hk more⟩

/-- A mark that arrives in three parts, with searches in vain between them. -/
example :
    let c := Course.after [.append [0x61, 0x0A], .take, .append [0x61, 0x72], .take,
      .append [0x73, 0x3E, 0x62], .take, .take]
    c.taken = ["a"] ∧ c.buffer = ⟨[0x62], 0⟩ := by
  decide +kernel

end ResponseBuffer

end BroadcastLink
