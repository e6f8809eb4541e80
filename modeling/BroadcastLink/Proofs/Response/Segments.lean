import BroadcastLink.Response

/-!
# A byte stream and its segments

The whole stream of a command connection, cut at every end mark from left to right, is a list of
segments and a rest without a mark. A response buffer sees that stream piece by piece. It searches
only where a mark could still begin, and yet finds each cut exactly where cutting the whole stream
would have put it, wherever the reads fell. The mark does not overlap itself, so a text without a
mark is a segment of its own once the mark stands behind it.
-/

namespace BroadcastLink

/-! ## Cutting a stream -/

/-- The bytes before the first end mark, and those behind it. -/
def cutAtMark : Bytes → Option (Bytes × Bytes)
  | [] => none
  | b :: rest =>
    if responseMark.isPrefixOf (b :: rest) then
      some ([], (b :: rest).drop responseMark.length)
    else (cutAtMark rest).map fun cut => (b :: cut.1, cut.2)

theorem eq_append_of_cutAtMark {stream segment behind : Bytes}
    (h : cutAtMark stream = some (segment, behind)) :
    stream = segment ++ responseMark ++ behind := by
  induction stream generalizing segment with
  | nil => simp [cutAtMark] at h
  | cons b rest ih =>
    rw [cutAtMark] at h
    split at h
    · rename_i here
      obtain ⟨rfl, rfl⟩ := Prod.mk.inj (Option.some.inj h)
      obtain ⟨tail, htail⟩ := List.isPrefixOf_iff_prefix.mp here
      rw [← htail]
      simp
    · obtain ⟨⟨before, after⟩, hcut, heq⟩ := Option.map_eq_some_iff.mp h
      obtain ⟨rfl, rfl⟩ := Prod.mk.inj heq
      rw [ih hcut]
      simp

theorem length_lt_of_cutAtMark {stream segment behind : Bytes}
    (h : cutAtMark stream = some (segment, behind)) : behind.length < stream.length := by
  rw [eq_append_of_cutAtMark h]
  simp only [responseMark, List.length_append, List.length_cons, List.length_nil]
  omega

/-- Later bytes do not move a cut. -/
theorem cutAtMark_append {stream segment behind : Bytes}
    (h : cutAtMark stream = some (segment, behind)) (more : Bytes) :
    cutAtMark (stream ++ more) = some (segment, behind ++ more) := by
  induction stream generalizing segment with
  | nil => simp [cutAtMark] at h
  | cons b rest ih =>
    rw [cutAtMark] at h
    rw [List.cons_append, cutAtMark]
    split at h
    · rename_i here
      obtain ⟨rfl, rfl⟩ := Prod.mk.inj (Option.some.inj h)
      have hpre : responseMark <+: b :: rest := List.isPrefixOf_iff_prefix.mp here
      have hlen : responseMark.length ≤ (b :: rest).length := hpre.length_le
      have hmore : responseMark.isPrefixOf (b :: (rest ++ more)) = true :=
        List.isPrefixOf_iff_prefix.mpr (hpre.trans (List.prefix_append (b :: rest) more))
      rw [if_pos hmore, ← List.cons_append, List.drop_append_of_le_length hlen]
    · rename_i notHere
      obtain ⟨⟨before, after⟩, hcut, heq⟩ := Option.map_eq_some_iff.mp h
      obtain ⟨rfl, rfl⟩ := Prod.mk.inj heq
      -- A mark needs five bytes, and a cut further on shows that they are all there already.
      have hlen : responseMark.length ≤ (b :: rest).length := by
        rw [eq_append_of_cutAtMark hcut]
        simp
        omega
      have hnot : ¬ responseMark.isPrefixOf (b :: (rest ++ more)) = true := by
        intro hpre
        apply notHere
        rw [List.isPrefixOf_iff_prefix] at hpre ⊢
        exact List.prefix_of_prefix_length_le hpre (List.prefix_append (b :: rest) more) hlen
      rw [if_neg hnot, ih hcut]
      rfl

/-- The segments of a stream: what stands before each of its end marks. -/
def segments (stream : Bytes) : List Bytes :=
  match _cut : cutAtMark stream with
  | none => []
  | some (segment, behind) => segment :: segments behind
termination_by stream.length
decreasing_by exact length_lt_of_cutAtMark (by assumption)

theorem segments_of_uncut {stream : Bytes} (h : cutAtMark stream = none) :
    segments stream = [] := by
  rw [segments]
  split
  · rfl
  · rename_i hcut
    rw [h] at hcut
    contradiction

theorem segments_of_cut {stream segment behind : Bytes}
    (h : cutAtMark stream = some (segment, behind)) :
    segments stream = segment :: segments behind := by
  rw [segments]
  split
  · rename_i hcut
    rw [h] at hcut
    contradiction
  · rename_i hcut
    rw [h] at hcut
    obtain ⟨rfl, rfl⟩ := Prod.mk.inj (Option.some.inj hcut)
    rfl

/-- What stands behind the first `n` segments of a stream, if it has so many. -/
def afterSegments : Nat → Bytes → Option Bytes
  | 0, stream => some stream
  | n + 1, stream => (cutAtMark stream).bind fun cut => afterSegments n cut.2

theorem afterSegments_append {n : Nat} {stream held : Bytes}
    (h : afterSegments n stream = some held) (more : Bytes) :
    afterSegments n (stream ++ more) = some (held ++ more) := by
  induction n generalizing stream with
  | zero =>
    obtain rfl : stream = held := by simpa [afterSegments] using h
    rfl
  | succ n ih =>
    obtain ⟨⟨segment, behind⟩, hcut, hrest⟩ := Option.bind_eq_some_iff.mp h
    simp only [afterSegments, cutAtMark_append hcut, Option.bind_some]
    exact ih hrest

/-- The segment cut off what stands behind the first `n` is the one at index `n` of the whole
stream. -/
theorem afterSegments_cut {n : Nat} {stream held segment behind : Bytes}
    (h : afterSegments n stream = some held) (hcut : cutAtMark held = some (segment, behind)) :
    afterSegments (n + 1) stream = some behind ∧ (segments stream)[n]? = some segment := by
  induction n generalizing stream with
  | zero =>
    obtain rfl : stream = held := by simpa [afterSegments] using h
    simp [afterSegments, hcut, segments_of_cut hcut]
  | succ n ih =>
    obtain ⟨⟨first, rest⟩, hfirst, hrest⟩ := Option.bind_eq_some_iff.mp h
    obtain ⟨hafter, hindex⟩ := ih hrest
    constructor
    · rw [afterSegments, hfirst]
      exact hafter
    · rw [segments_of_cut hfirst, List.getElem?_cons_succ]
      exact hindex

theorem length_le_of_afterSegments {n : Nat} {stream held : Bytes}
    (h : afterSegments n stream = some held) : held.length + n ≤ stream.length := by
  induction n generalizing stream with
  | zero =>
    obtain rfl : stream = held := by simpa [afterSegments] using h
    simp
  | succ n ih =>
    obtain ⟨⟨first, rest⟩, hfirst, hrest⟩ := Option.bind_eq_some_iff.mp h
    have hlt := length_lt_of_cutAtMark hfirst
    have hle : held.length + n ≤ rest.length := ih hrest
    omega

/-- What is held tells how many segments were cut off: no two counts leave the same bytes. -/
theorem afterSegments_count_unique {m n : Nat} {stream held : Bytes}
    (hm : afterSegments m stream = some held) (hn : afterSegments n stream = some held) :
    m = n := by
  -- By induction on the one count, since each cut leaves fewer bytes.
  induction m generalizing n stream with
  | zero =>
    obtain rfl : stream = held := by simpa [afterSegments] using hm
    have := length_le_of_afterSegments hn
    omega
  | succ m ih =>
    cases n with
    | zero =>
      obtain rfl : stream = held := by simpa [afterSegments] using hn
      have := length_le_of_afterSegments hm
      omega
    | succ n =>
      obtain ⟨⟨first, rest⟩, hfirst, hrest⟩ := Option.bind_eq_some_iff.mp hm
      rw [afterSegments, hfirst, Option.bind_some] at hn
      exact congrArg (· + 1) (ih hrest hn)

/-! ## Texts without a mark -/

/-- The stream of texts sent one after another, each with the mark behind it. -/
def joinSegments (texts : List Bytes) : Bytes := texts.flatMap fun text => text ++ responseMark

@[simp] theorem joinSegments_nil : joinSegments [] = [] := rfl

@[simp] theorem joinSegments_cons (text : Bytes) (texts : List Bytes) :
    joinSegments (text :: texts) = text ++ responseMark ++ joinSegments texts := rfl

theorem joinSegments_append (texts more : List Bytes) :
    joinSegments (texts ++ more) = joinSegments texts ++ joinSegments more :=
  List.flatMap_append

/-- No mark begins inside a text without a mark, not even where the mark behind it begins: the line
break at its front occurs nowhere else in it. -/
theorem not_prefix_of_markless {b : UInt8} {rest more : Bytes}
    (h : ¬ responseMark.isPrefixOf (b :: rest)) :
    ¬ responseMark.isPrefixOf (b :: (rest ++ responseMark ++ more)) := by
  rw [responseMark] at h ⊢
  rcases rest with _ | ⟨c, _ | ⟨d, _ | ⟨e, _ | ⟨f, rest⟩⟩⟩⟩ <;>
    simp [List.isPrefixOf] at h ⊢
  exact h

/-- A text without a mark is cut off whole once the mark stands behind it. -/
theorem cutAtMark_markless {text : Bytes} (h : cutAtMark text = none) (more : Bytes) :
    cutAtMark (text ++ responseMark ++ more) = some (text, more) := by
  induction text with
  | nil => simp [cutAtMark, responseMark, List.isPrefixOf]
  | cons b rest ih =>
    rw [cutAtMark] at h
    split at h
    · contradiction
    · rename_i notHere
      have hrest : cutAtMark rest = none := by simpa using h
      rw [List.append_assoc, List.cons_append, ← List.append_assoc, cutAtMark,
        if_neg (not_prefix_of_markless notHere), ih hrest]
      rfl

/-- What was sent in front of a stream is cut off text by text. -/
theorem segments_joinSegments_append {texts : List Bytes}
    (h : ∀ text ∈ texts, cutAtMark text = none) (more : Bytes) :
    segments (joinSegments texts ++ more) = texts ++ segments more := by
  induction texts with
  | nil => rfl
  | cons text texts ih =>
    have hcut := cutAtMark_markless (h text (by simp)) (joinSegments texts ++ more)
    rw [joinSegments_cons, List.append_assoc, segments_of_cut hcut,
      ih fun t ht => h t (List.mem_cons_of_mem text ht)]
    rfl

theorem segments_joinSegments {texts : List Bytes} (h : ∀ text ∈ texts, cutAtMark text = none) :
    segments (joinSegments texts) = texts := by
  have := segments_joinSegments_append h []
  simpa [segments_of_uncut (show cutAtMark [] = none from rfl)] using this

/-- A stream that has arrived in part shows the first segments of the whole. -/
theorem segments_prefix {arrived stream : Bytes} (h : arrived <+: stream) :
    segments arrived <+: segments stream := by
  obtain ⟨more, rfl⟩ := h
  fun_induction segments arrived with
  | case1 arrived hcut => exact List.nil_prefix
  | case2 arrived segment behind hcut ih =>
    rw [segments_of_cut (cutAtMark_append hcut more)]
    exact (List.prefix_cons_inj segment).mpr ih

/-! ## What a response buffer cuts -/

/-- The search finds the cut, and tells how far it is from where the search began. -/
theorem findMark_go (seen : Nat) (bytes : Bytes) :
    findMark.go seen bytes = (cutAtMark bytes).map fun cut => seen + cut.1.length := by
  induction bytes generalizing seen with
  | nil => rfl
  | cons b rest ih =>
    rw [findMark.go, cutAtMark]
    split
    · rfl
    · rw [ih, Option.map_map]
      congr 1
      funext cut
      simp only [Function.comp_apply, List.length_cons]
      omega

theorem findMark_eq (bytes : Bytes) :
    findMark bytes = (cutAtMark bytes).map fun cut => cut.1.length := by
  rw [show findMark bytes = findMark.go 0 bytes from rfl, findMark_go]
  simp only [Nat.zero_add]

namespace ResponseBuffer

/-- The bytes before the offset have been searched in vain: a whole mark would fit wherever one
could have begun there, and none did. -/
def Searched (r : ResponseBuffer) : Prop :=
  ∀ k < r.scanned, k + responseMark.length ≤ r.bytes.length ∧
    ¬ responseMark.isPrefixOf (r.bytes.drop k)

theorem searched_of_scanned_zero {r : ResponseBuffer} (h : r.scanned = 0) : r.Searched := by
  intro k hk
  omega

theorem Searched.extend {r : ResponseBuffer} (h : r.Searched) (data : Bytes) :
    (r.extend data).Searched := by
  intro k hk
  obtain ⟨hfits, hnot⟩ := h k hk
  refine ⟨by simp only [ResponseBuffer.extend, List.length_append]; omega, ?_⟩
  intro hpre
  apply hnot
  rw [List.isPrefixOf_iff_prefix] at hpre ⊢
  simp only [ResponseBuffer.extend] at hpre
  rw [List.drop_append_of_le_length (by omega)] at hpre
  exact List.prefix_of_prefix_length_le hpre (List.prefix_append _ data)
    (by rw [List.length_drop]; omega)

end ResponseBuffer

/-- Bytes at whose positions no mark begins can be skipped before cutting. -/
theorem cutAtMark_drop {bytes : Bytes} {n : Nat} (hn : n ≤ bytes.length)
    (h : ∀ k < n, ¬ responseMark.isPrefixOf (bytes.drop k)) :
    cutAtMark bytes = (cutAtMark (bytes.drop n)).map fun cut => (bytes.take n ++ cut.1, cut.2) := by
  induction n generalizing bytes with
  | zero => simp
  | succ n ih =>
    cases bytes with
    | nil => simp at hn
    | cons b rest =>
      have hfirst : ¬ responseMark.isPrefixOf (b :: rest) := h 0 (by omega)
      have hlater : ∀ k < n, ¬ responseMark.isPrefixOf (rest.drop k) := fun k hk =>
        h (k + 1) (by omega)
      rw [cutAtMark, if_neg hfirst, ih (by simpa using hn) hlater, Option.map_map]
      rfl

/-- No mark begins at any position of bytes that cannot be cut. -/
theorem not_prefix_of_uncut {bytes : Bytes} (h : cutAtMark bytes = none) (k : Nat) :
    ¬ responseMark.isPrefixOf (bytes.drop k) := by
  induction k generalizing bytes with
  | zero =>
    intro here
    cases bytes with
    | nil => simp [responseMark] at here
    | cons b rest =>
      rw [List.drop_zero] at here
      rw [cutAtMark, if_pos here] at h
      contradiction
  | succ k ih =>
    cases bytes with
    | nil => simp [responseMark]
    | cons b rest =>
      rw [cutAtMark] at h
      split at h
      · contradiction
      · exact ih (by simpa using h)

namespace ResponseBuffer

variable {r : ResponseBuffer}

theorem Searched.cut_eq (h : r.Searched) :
    cutAtMark r.bytes = (cutAtMark (r.bytes.drop r.scanned)).map fun cut =>
      (r.bytes.take r.scanned ++ cut.1, cut.2) := by
  by_cases hzero : r.scanned = 0
  · rw [hzero]
    simp
  · have hlast := (h (r.scanned - 1) (by omega)).1
    refine cutAtMark_drop ?_ fun k hk => (h k hk).2
    simp only [responseMark, List.length_cons, List.length_nil] at hlast
    omega

/-- With a mark in what is held, the response is what stands before the first one. -/
theorem take_of_cut (h : r.Searched) {segment behind : Bytes}
    (hcut : cutAtMark r.bytes = some (segment, behind)) :
    r.take = (⟨behind, 0⟩, some (Text.decodeLossy segment)) := by
  have hwhole := eq_append_of_cutAtMark hcut
  rw [h.cut_eq] at hcut
  obtain ⟨⟨near, after⟩, hnear, heq⟩ := Option.map_eq_some_iff.mp hcut
  obtain ⟨hsegment, rfl⟩ := Prod.mk.inj heq
  have hfits : r.scanned ≤ r.bytes.length := by
    have hlt := length_lt_of_cutAtMark hnear
    rw [List.length_drop] at hlt
    omega
  have hpos : r.scanned + near.length = segment.length := by
    rw [← hsegment, List.length_append, List.length_take, Nat.min_eq_left hfits]
  have hbehind : r.bytes.drop (segment.length + responseMark.length) = after := by
    rw [hwhole, ← List.length_append, List.drop_left]
  have hbefore : r.bytes.take segment.length = segment := by
    rw [hwhole, List.append_assoc, List.take_left]
  rw [ResponseBuffer.take, findMark_eq, hnear]
  simp only [Option.map_some, hpos, hbehind, hbefore]

/-- Without a mark nothing is returned, and nothing held is lost. -/
theorem take_of_uncut (h : r.Searched) (hcut : cutAtMark r.bytes = none) :
    r.take = (⟨r.bytes, r.bytes.length - (responseMark.length - 1)⟩, none) := by
  have hnear : cutAtMark (r.bytes.drop r.scanned) = none := by
    rw [h.cut_eq] at hcut
    simpa using hcut
  rw [ResponseBuffer.take, findMark_eq, hnear]
  rfl

theorem searched_of_uncut (hcut : cutAtMark r.bytes = none) :
    (⟨r.bytes, r.bytes.length - (responseMark.length - 1)⟩ : ResponseBuffer).Searched := by
  intro k hk
  refine ⟨?_, not_prefix_of_uncut hcut k⟩
  simp only [responseMark, List.length_cons, List.length_nil] at hk ⊢
  omega

end ResponseBuffer

end BroadcastLink
