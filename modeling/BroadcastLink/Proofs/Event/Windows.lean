import BroadcastLink.Proofs.Event.Topics

/-!
# What a packet's event keeps of it

The type of a packet fixes which of its bytes are read, its window. An event depends on nothing else
of the packet, and nothing of the window is lost in it: type and window can be read back from the
event. The index of an output lacks the high byte that marks outputs, but the kind of the event
tells that it is to be put back.
-/

namespace BroadcastLink

/-! ## Windows -/

/-- Which bytes of a payload are read. -/
inductive Extent where
  | span (offset length : Nat)
  | all
  deriving DecidableEq, Repr

namespace Extent

/-- The shortest payload that has all these bytes. -/
def needed : Extent → Nat
  | .span offset length => offset + length
  | .all => 0

/-- The bytes of a payload that are read. -/
def window : Extent → Bytes → Bytes
  | .span offset length, payload => (payload.drop offset).take length
  | .all, payload => payload

end Extent

/-- Which bytes are read of the payload of a packet of a type, if it is a type of the notify stream.
-/
def extent? (kind : UInt8) : Option Extent :=
  match kind with
  | 0x01 | 0x02 | 0x03 | 0x04 | 0x09 | 0x0a | 0x0c => some (.span 0 8)
  | 0x06 | 0x0b => some (.span 0 4)
  | 0x10 => some (.span 8 1)
  | 0x05 | 0x07 => some (.span 0 0)
  | 0x08 => some .all
  | _ => none

/-! ## Words and digits read back -/

/-- The four bytes of a number, high byte first. -/
def longBytes (n : UInt32) : Bytes :=
  [UInt8.ofNat (n.toNat / 16777216), UInt8.ofNat (n.toNat / 65536), UInt8.ofNat (n.toNat / 256),
    UInt8.ofNat n.toNat]

theorem toNat_longOf (a b c d : UInt8) :
    (longOf a b c d).toNat = 256 * (256 * (256 * a.toNat + b.toNat) + c.toNat) + d.toNat := by
  have ha := a.toNat_lt
  have hb := b.toNat_lt
  have hc := c.toNat_lt
  have hd := d.toNat_lt
  rw [longOf, UInt32.toNat_ofNat']
  omega

/-- Four bytes are the bytes of the number that they spell. -/
theorem longBytes_longOf (a b c d : UInt8) : longBytes (longOf a b c d) = [a, b, c, d] := by
  have ha := a.toNat_lt
  have hb := b.toNat_lt
  have hc := c.toNat_lt
  have hd := d.toNat_lt
  have hbyte : ∀ (n : Nat) (x : UInt8), n % 256 = x.toNat → UInt8.ofNat n = x := by
    intro n x h
    rw [← UInt8.toNat_inj, UInt8.toNat_ofNat']
    exact h
  rw [longBytes, toNat_longOf]
  congr 1
  · exact hbyte _ a (by omega)
  congr 1
  · exact hbyte _ b (by omega)
  congr 1
  · exact hbyte _ c (by omega)
  congr 1
  exact hbyte _ d (by omega)

/-- The reference with an index; that of an output carries the mark of outputs. -/
def joinReference (output : Bool) (index : UInt32) : UInt32 :=
  if output then 0xC0000000 + index else index

/-- Splitting a reference loses nothing. -/
theorem joinReference_splitReference (reference : UInt32) :
    joinReference (splitReference reference).1 (splitReference reference).2 = reference := by
  unfold splitReference
  split
  · rename_i hmark
    have hhigh : reference.toNat / 16777216 = 192 := by
      simpa [UInt32.toNat_shiftRight, Nat.shiftRight_eq_div_pow] using congrArg UInt32.toNat hmark
    have hlow : (reference &&& 0x00FFFFFF).toNat = reference.toNat % 16777216 := by
      rw [UInt32.toNat_and]
      exact Nat.and_two_pow_sub_one_eq_mod reference.toNat 24
    have hlt := reference.toNat_lt
    show 0xC0000000 + (reference &&& 0x00FFFFFF) = reference
    rw [← UInt32.toNat_inj, UInt32.toNat_add, hlow]
    show (3221225472 + reference.toNat % 16777216) % 2 ^ 32 = reference.toNat
    omega
  · rfl

/-- A reference addresses an output if its high byte is the mark of outputs. -/
theorem splitReference_longOf (a b c d : UInt8) :
    (splitReference (longOf a b c d)).1 = decide (a = 0xC0) := by
  have ha := a.toNat_lt
  have hb := b.toNat_lt
  have hc := c.toNat_lt
  have hd := d.toNat_lt
  have hhigh : (longOf a b c d >>> 24).toNat = a.toNat := by
    rw [UInt32.toNat_shiftRight, toNat_longOf]
    show (256 * (256 * (256 * a.toNat + b.toNat) + c.toNat) + d.toNat) >>> 24 = a.toNat
    rw [Nat.shiftRight_eq_div_pow]
    omega
  have hmark : longOf a b c d >>> 24 = 0xC0 ↔ a = 0xC0 := by
    rw [← UInt32.toNat_inj, hhigh, ← UInt8.toNat_inj]
    rfl
  simp only [splitReference, hmark]
  split <;> simp [*]

namespace Text.Hex

theorem value?_digit : ∀ n < 16, value? (digit n) = some n := by decide

theorem gather_encodeChars (seen bytes : Bytes) :
    gather seen (encodeChars bytes) = some (seen.reverse ++ bytes) := by
  induction bytes generalizing seen with
  | nil => simp [encodeChars, gather]
  | cons b rest ih =>
    have hb := b.toNat_lt
    have hhigh := value?_digit (b.toNat / 16) (by omega)
    have hlow := value?_digit (b.toNat % 16) (by omega)
    have hsplit : encodeChars (b :: rest) =
        digit (b.toNat / 16) :: digit (b.toNat % 16) :: encodeChars rest := rfl
    rw [hsplit]
    simp only [gather, hhigh, hlow, Nat.div_add_mod, UInt8.ofNat_toNat]
    rw [ih, List.reverse_cons, List.append_assoc, List.singleton_append]

/-- Digits can be read back. -/
theorem decode?_encode (bytes : Bytes) : decode? (encode bytes).toList = some bytes := by
  rw [encode, String.toList_ofList, decode?, gather_encodeChars, List.reverse_nil, List.nil_append]

end Text.Hex

/-! ## Type and window of an event -/

namespace EventKind

/-- The type of the packets that tell an event of a kind. -/
def packetType : EventKind → UInt8
  | .inputVolume | .outputVolume => 0x01
  | .balance => 0x02
  | .inputBus | .outputBus => 0x03
  | .playerStatus => 0x04
  | .statusResync => 0x05
  | .metadataChanged => 0x06
  | .recorderResync => 0x07
  | .meters => 0x08
  | .recorderGain => 0x09
  | .position => 0x0a
  | .itemDeleted => 0x0b
  | .outputDelay => 0x0c
  | .processorLoad => 0x10

/-- Is the index that of an output? -/
def isOfOutput : EventKind → Bool
  | .outputVolume | .outputBus | .outputDelay => true
  | _ => false

/-- The bytes of the reference with an index. -/
def indexBytes (kind : EventKind) (index : UInt32) : Bytes :=
  longBytes (joinReference kind.isOfOutput index)

/-- The bytes of a value: one for the processor load, and four for any other number. -/
def valueBytes (kind : EventKind) : EventValue → Bytes
  | .float bits => longBytes bits
  | .uint n => if kind = .processorLoad then [UInt8.ofNat n.toNat] else longBytes n
  | .hex digits => (Text.Hex.decode? digits.toList).getD []

end EventKind

/-- The type and the window of the packet that an event was decoded from. -/
def Event.origin (e : Event) : UInt8 × Bytes :=
  (e.kind.packetType,
    (e.index.elim [] e.kind.indexBytes) ++ (e.value.elim [] e.kind.valueBytes))

/-! ## Reading -/

section Reading

variable {kind : UInt8} {payload other : Bytes}

theorem readReference_of_short (h : payload.length < 4) :
    readReference kind payload = .error (.truncated kind 4 payload.length) := by
  unfold readReference
  split
  · simp only [List.length_cons] at h
    omega
  · rfl

theorem readReference_of_take {a b c d : UInt8} (h : payload.take 4 = [a, b, c, d]) :
    readReference kind payload = .ok (longOf a b c d) := by
  rw [← List.take_append_drop 4 payload, h]
  rfl

theorem readReferenceAndWord_of_short (h : payload.length < 8) :
    readReferenceAndWord kind payload = .error (.truncated kind 8 payload.length) := by
  unfold readReferenceAndWord
  split
  · simp only [List.length_cons] at h
    omega
  · rfl

theorem readReferenceAndWord_of_take {a b c d e f g i : UInt8}
    (h : payload.take 8 = [a, b, c, d, e, f, g, i]) :
    readReferenceAndWord kind payload = .ok (longOf a b c d, longOf e f g i) := by
  rw [← List.take_append_drop 8 payload, h]
  rfl

theorem readLoad_of_short (h : payload.length < 9) :
    readLoad kind payload = .error (.truncated kind 9 payload.length) := by
  unfold readLoad
  split
  · simp only [List.length_cons] at h
    omega
  · rfl

theorem readLoad_of_take {load : UInt8} (h : (payload.drop 8).take 1 = [load]) :
    readLoad kind payload = .ok load := by
  match payload with
  | _ :: _ :: _ :: _ :: _ :: _ :: _ :: _ :: b :: _ =>
    obtain rfl : b = load := by simpa using h
    rfl
  | [] | [_] | [_, _] | [_, _, _] | [_, _, _, _] | [_, _, _, _, _] | [_, _, _, _, _, _]
  | [_, _, _, _, _, _, _] | [_, _, _, _, _, _, _, _] => simp at h

theorem take_four (h : 4 ≤ payload.length) : ∃ a b c d, payload.take 4 = [a, b, c, d] := by
  match payload with
  | a :: b :: c :: d :: rest => exact ⟨a, b, c, d, rfl⟩
  | [] | [_] | [_, _] | [_, _, _] => simp at h

theorem take_eight (h : 8 ≤ payload.length) :
    ∃ a b c d e f g i, payload.take 8 = [a, b, c, d, e, f, g, i] := by
  obtain ⟨a, b, c, d, hfront⟩ := take_four (show 4 ≤ payload.length by omega)
  obtain ⟨e, f, g, i, hback⟩ := take_four
    (show 4 ≤ (payload.drop 4).length by rw [List.length_drop]; omega)
  refine ⟨a, b, c, d, e, f, g, i, ?_⟩
  rw [show 8 = 4 + 4 from rfl, List.take_add, hfront, hback]
  rfl

end Reading

/-! ## Decoding -/

section Decoding

variable {kind : UInt8} {payload : Bytes} {x : Extent}

/-- Packets of this type that agree with this payload in its window tell one event, in each studio
as its own, and type and window can be read back from it. -/
structure Extent.Keeps (x : Extent) (kind : UInt8) (payload : Bytes) (k : EventKind)
    (index : Option UInt32) (value : Option EventValue) : Prop where
  decodes : ∀ (studio : String) (other : Bytes), x.window other = x.window payload →
    decodeEvent studio kind other = .ok (some (Event.of studio k index value))
  origin : ∀ studio : String, (Event.of studio k index value).origin = (kind, x.window payload)

/-- A packet addresses an input where only outputs have an event. -/
def AimsAstray (kind : UInt8) (payload : Bytes) : Prop :=
  kind = 0x0c ∧ payload.head? ≠ some 0xC0

theorem decodeEvent_of_unknown (studio : String) (payload : Bytes) (h : extent? kind = none) :
    decodeEvent studio kind payload = .error (.unknownType kind) := by
  unfold extent? at h
  split at h <;> try contradiction
  unfold decodeEvent
  split <;> first | contradiction | rfl

theorem decodeEvent_of_short (studio : String) (h : extent? kind = some x)
    (hshort : payload.length < x.needed) :
    decodeEvent studio kind payload = .error (.truncated kind x.needed payload.length) := by
  unfold extent? at h
  split at h <;> cases h
  case h_8 | h_9 =>
    simp only [decodeEvent, readReference_of_short hshort]
    rfl
  case h_10 =>
    simp only [decodeEvent, readLoad_of_short hshort]
    rfl
  case h_11 | h_12 | h_13 => exact absurd hshort (Nat.not_lt_zero _)
  all_goals
    simp only [decodeEvent, readReferenceAndWord_of_short hshort]
    rfl

/-- The layout of a reference alone. -/
theorem keeps_reference {k : EventKind} (hlong : 4 ≤ payload.length) (hkind : k.packetType = kind)
    (hinput : k.isOfOutput = false)
    (hdecode : ∀ studio other, decodeEvent studio kind other = do
      let reference ← readReference kind other
      return some (Event.of studio k (some reference) none)) :
    ∃ k index value, (Extent.span 0 4).Keeps kind payload k index value := by
  obtain ⟨a, b, c, d, htake⟩ := take_four hlong
  refine ⟨k, some (longOf a b c d), none, fun studio other hsame => ?_, fun studio => ?_⟩
  · have hother : other.take 4 = [a, b, c, d] := Eq.trans hsame htake
    rw [hdecode, readReference_of_take hother]
    rfl
  · show (k.packetType, k.indexBytes (longOf a b c d) ++ []) = (kind, payload.take 4)
    rw [hkind, EventKind.indexBytes, hinput, List.append_nil, htake]
    exact congrArg (Prod.mk kind) (longBytes_longOf a b c d)

/-- The layout of a reference with a number behind it, where kind and index of the event are made of
the reference and lose nothing of it. -/
theorem keeps_word (k : UInt32 → EventKind) (index : UInt32 → UInt32) {value : UInt32 → EventValue}
    (hlong : 8 ≤ payload.length) (hkind : ∀ reference, (k reference).packetType = kind)
    (hindex : ∀ reference,
      joinReference (k reference).isOfOutput (index reference) = reference)
    (hvalue : ∀ reference n, (k reference).valueBytes (value n) = longBytes n)
    (hdecode : ∀ studio other, decodeEvent studio kind other = do
      let (reference, n) ← readReferenceAndWord kind other
      return some (Event.of studio (k reference) (some (index reference)) (some (value n)))) :
    ∃ k index value, (Extent.span 0 8).Keeps kind payload k index value := by
  obtain ⟨a, b, c, d, e, f, g, i, htake⟩ := take_eight hlong
  refine ⟨k (longOf a b c d), some (index (longOf a b c d)), some (value (longOf e f g i)),
    fun studio other hsame => ?_, fun studio => ?_⟩
  · have hother : other.take 8 = [a, b, c, d, e, f, g, i] := Eq.trans hsame htake
    rw [hdecode, readReferenceAndWord_of_take hother]
    rfl
  · show ((k _).packetType, (k _).indexBytes (index _) ++ (k _).valueBytes (value _)) =
      (kind, payload.take 8)
    rw [hkind, EventKind.indexBytes, hindex, hvalue, longBytes_longOf, longBytes_longOf, htake]
    rfl

/-- Kinds of which one is of outputs and one of inputs share a packet type. -/
theorem keeps_split (output input : EventKind) (value : UInt32 → EventValue)
    (hlong : 8 ≤ payload.length)
    (hkind : output.packetType = kind ∧ input.packetType = kind)
    (hsplit : output.isOfOutput = true ∧ input.isOfOutput = false)
    (hvalue : ∀ n, output.valueBytes (value n) = longBytes n ∧
      input.valueBytes (value n) = longBytes n)
    (hdecode : ∀ studio other, decodeEvent studio kind other = do
      let (reference, n) ← readReferenceAndWord kind other
      let (isOutput, index) := splitReference reference
      return some (Event.of studio (if isOutput then output else input) (some index)
        (some (value n)))) :
    ∃ k index value, (Extent.span 0 8).Keeps kind payload k index value := by
  refine keeps_word (fun r => if (splitReference r).1 then output else input)
    (fun r => (splitReference r).2) hlong (fun r => ?_) (fun r => ?_) (fun r n => ?_) hdecode
  · split
    exacts [hkind.1, hkind.2]
  · have hmark : (if (splitReference r).1 then output else input).isOfOutput =
        (splitReference r).1 := by
      cases (splitReference r).1
      exacts [hsplit.2, hsplit.1]
    rw [hmark, joinReference_splitReference]
  · split
    exacts [(hvalue n).1, (hvalue n).2]

/-- Kinds that do not tell outputs from inputs have the reference for an index. -/
theorem keeps_undivided (k : EventKind) (value : UInt32 → EventValue) (hlong : 8 ≤ payload.length)
    (hkind : k.packetType = kind) (hinput : k.isOfOutput = false)
    (hvalue : ∀ n, k.valueBytes (value n) = longBytes n)
    (hdecode : ∀ studio other, decodeEvent studio kind other = do
      let (reference, n) ← readReferenceAndWord kind other
      return some (Event.of studio k (some reference) (some (value n)))) :
    ∃ k index value, (Extent.span 0 8).Keeps kind payload k index value := by
  refine keeps_word (fun _ => k) (fun r => r) hlong (fun _ => hkind) (fun r => ?_)
    (fun _ => hvalue) hdecode
  rw [hinput]
  rfl

/-- An output delay is an event if it addresses an output, and nothing else. -/
theorem decodeEvent_delay (studio : String) {a b c d e f g i : UInt8}
    (h : payload.take 8 = [a, b, c, d, e, f, g, i]) :
    decodeEvent studio 0x0c payload = .ok (if a = 0xC0 then
      some (Event.of studio .outputDelay (some (splitReference (longOf a b c d)).2)
        (some (.float (longOf e f g i)))) else none) := by
  simp only [decodeEvent, readReferenceAndWord_of_take h]
  show Except.ok (if (splitReference (longOf a b c d)).1 then _ else _) = _
  rw [splitReference_longOf]
  simp only [decide_eq_true_eq]

theorem head?_of_take {a b c d e f g i : UInt8} (h : payload.take 8 = [a, b, c, d, e, f, g, i]) :
    payload.head? = some a := by
  rw [← List.take_append_drop 8 payload, h]
  rfl

theorem decodeEvent_of_astray (studio : String) (h : AimsAstray kind payload)
    (hlong : 8 ≤ payload.length) : decodeEvent studio kind payload = .ok none := by
  obtain ⟨rfl, hhead⟩ := h
  obtain ⟨a, b, c, d, e, f, g, i, htake⟩ := take_eight hlong
  rw [decodeEvent_delay studio htake, if_neg]
  rintro rfl
  exact hhead (head?_of_take htake)

theorem keeps_delay (hlong : 8 ≤ payload.length) (hstraight : ¬ AimsAstray 0x0c payload) :
    ∃ k index value, (Extent.span 0 8).Keeps 0x0c payload k index value := by
  obtain ⟨a, b, c, d, e, f, g, i, htake⟩ := take_eight hlong
  have hmark : a = 0xC0 := by
    by_contra hne
    refine hstraight ⟨rfl, fun hhead => hne ?_⟩
    exact Option.some.inj ((head?_of_take htake).symm.trans hhead)
  refine ⟨.outputDelay, some (splitReference (longOf a b c d)).2, some (.float (longOf e f g i)),
    fun studio other hsame => ?_, fun studio => ?_⟩
  · have hother : other.take 8 = [a, b, c, d, e, f, g, i] := Eq.trans hsame htake
    rw [decodeEvent_delay studio hother, if_pos hmark]
  · have houtput : EventKind.isOfOutput .outputDelay = (splitReference (longOf a b c d)).1 := by
      rw [splitReference_longOf, decide_eq_true hmark]
      rfl
    show ((0x0c : UInt8), longBytes (joinReference (EventKind.isOfOutput .outputDelay) _) ++
      longBytes _) = (0x0c, payload.take 8)
    rw [houtput, joinReference_splitReference, longBytes_longOf, longBytes_longOf, htake]
    rfl

theorem keeps_load (hlong : 9 ≤ payload.length) :
    ∃ k index value, (Extent.span 8 1).Keeps 0x10 payload k index value := by
  obtain ⟨load, htake⟩ : ∃ load, (payload.drop 8).take 1 = [load] :=
    List.length_eq_one_iff.mp (by rw [List.length_take, List.length_drop]; omega)
  refine ⟨.processorLoad, none, some (.uint (UInt32.ofNat load.toNat)),
    fun studio other hsame => ?_,
    fun studio => ?_⟩
  · have hother : (other.drop 8).take 1 = [load] := Eq.trans hsame htake
    simp only [decodeEvent, readLoad_of_take hother]
    rfl
  · have hload := load.toNat_lt
    have hbyte : (UInt32.ofNat load.toNat).toNat = load.toNat := by
      rw [UInt32.toNat_ofNat']
      omega
    show ((0x10 : UInt8), [UInt8.ofNat (UInt32.ofNat load.toNat).toNat]) =
      (0x10, (payload.drop 8).take 1)
    rw [hbyte, UInt8.ofNat_toNat, htake]

theorem keeps_meters : ∃ k index value, Extent.all.Keeps 0x08 payload k index value := by
  refine ⟨.meters, none, some (.hex (Text.Hex.encode payload)), fun studio other hsame => ?_,
    fun studio => ?_⟩
  · obtain rfl : other = payload := hsame
    rfl
  · show ((0x08 : UInt8), (Text.Hex.decode? (Text.Hex.encode payload).toList).getD []) =
      (0x08, payload)
    rw [Text.Hex.decode?_encode]
    rfl

/-- A packet that is long enough and does not go astray is told. -/
theorem keeps_of_long (h : extent? kind = some x) (hlong : x.needed ≤ payload.length)
    (hstraight : ¬ AimsAstray kind payload) :
    ∃ k index value, x.Keeps kind payload k index value := by
  unfold extent? at h
  split at h <;> cases h
  case h_1 =>
    exact keeps_split .outputVolume .inputVolume .float hlong
      ⟨rfl, rfl⟩ ⟨rfl, rfl⟩ (fun _ => ⟨rfl, rfl⟩) (fun _ _ => rfl)
  case h_2 =>
    exact keeps_undivided .balance .float hlong rfl rfl (fun _ => rfl)
      (fun _ _ => rfl)
  case h_3 =>
    exact keeps_split .outputBus .inputBus .uint hlong
      ⟨rfl, rfl⟩ ⟨rfl, rfl⟩ (fun _ => ⟨rfl, rfl⟩) (fun _ _ => rfl)
  case h_4 =>
    exact keeps_undivided .playerStatus .uint hlong rfl rfl (fun _ => rfl)
      (fun _ _ => rfl)
  case h_5 =>
    exact keeps_undivided .recorderGain .float hlong rfl rfl (fun _ => rfl)
      (fun _ _ => rfl)
  case h_6 =>
    exact keeps_undivided .position .float hlong rfl rfl (fun _ => rfl)
      (fun _ _ => rfl)
  case h_7 => exact keeps_delay hlong hstraight
  case h_8 => exact keeps_reference (k := .metadataChanged) hlong rfl rfl (fun _ _ => rfl)
  case h_9 => exact keeps_reference (k := .itemDeleted) hlong rfl rfl (fun _ _ => rfl)
  case h_10 => exact keeps_load hlong
  case h_11 => exact ⟨.statusResync, none, none, fun _ _ _ => rfl, fun _ => rfl⟩
  case h_12 => exact ⟨.recorderResync, none, none, fun _ _ _ => rfl, fun _ => rfl⟩
  case h_13 => exact keeps_meters

/-- What decoding a packet comes to. -/
inductive Decoding (studio : String) (kind : UInt8) (payload : Bytes) :
    Except DecodeFault (Option Event) → Prop where
  | unknown (hkind : extent? kind = none) :
    Decoding studio kind payload (.error (.unknownType kind))
  | truncated {x : Extent} (hkind : extent? kind = some x) (hshort : payload.length < x.needed) :
    Decoding studio kind payload (.error (.truncated kind x.needed payload.length))
  | astray (h : AimsAstray kind payload) (hlong : 8 ≤ payload.length) :
    Decoding studio kind payload (.ok none)
  | told {x : Extent} {k : EventKind} {index : Option UInt32} {value : Option EventValue}
    (hkind : extent? kind = some x) (hlong : x.needed ≤ payload.length)
    (hstraight : ¬ AimsAstray kind payload) (hkeeps : x.Keeps kind payload k index value) :
    Decoding studio kind payload (.ok (some (Event.of studio k index value)))

theorem decoding_decodeEvent (studio : String) (kind : UInt8) (payload : Bytes) :
    Decoding studio kind payload (decodeEvent studio kind payload) := by
  cases hkind : extent? kind with
  | none =>
    rw [decodeEvent_of_unknown studio payload hkind]
    exact .unknown hkind
  | some x =>
    by_cases hlong : x.needed ≤ payload.length
    · by_cases hstraight : AimsAstray kind payload
      · obtain rfl : x = .span 0 8 := by
          rw [hstraight.1] at hkind
          exact (Option.some.inj hkind).symm
        rw [decodeEvent_of_astray studio hstraight hlong]
        exact .astray hstraight hlong
      · obtain ⟨k, index, value, hkeeps⟩ := keeps_of_long hkind hlong hstraight
        rw [hkeeps.decodes studio payload rfl]
        exact .told hkind hlong hstraight hkeeps
    · rw [decodeEvent_of_short studio hkind (Nat.lt_of_not_le hlong)]
      exact .truncated hkind (Nat.lt_of_not_le hlong)

variable {studio : String}

theorem decodeEvent_eq_unknown_iff {k : UInt8} :
    decodeEvent studio kind payload = .error (.unknownType k) ↔ k = kind ∧ extent? kind = none := by
  constructor
  · intro h
    have hdecoding := decoding_decodeEvent studio kind payload
    rw [h] at hdecoding
    cases hdecoding with
    | unknown hkind => exact ⟨rfl, hkind⟩
  · rintro ⟨rfl, hkind⟩
    exact decodeEvent_of_unknown studio payload hkind

theorem decodeEvent_eq_truncated_iff {k : UInt8} {needed actual : Nat} :
    decodeEvent studio kind payload = .error (.truncated k needed actual) ↔
      k = kind ∧ actual = payload.length ∧ actual < needed ∧
        ∃ x, extent? kind = some x ∧ needed = x.needed := by
  constructor
  · intro h
    have hdecoding := decoding_decodeEvent studio kind payload
    rw [h] at hdecoding
    cases hdecoding with
    | truncated hkind hshort => exact ⟨rfl, rfl, hshort, _, hkind, rfl⟩
  · rintro ⟨rfl, rfl, hshort, x, hkind, rfl⟩
    exact decodeEvent_of_short studio hkind hshort

theorem decodeEvent_eq_none_iff :
    decodeEvent studio kind payload = .ok none ↔ AimsAstray kind payload ∧ 8 ≤ payload.length := by
  constructor
  · intro h
    have hdecoding := decoding_decodeEvent studio kind payload
    rw [h] at hdecoding
    cases hdecoding with
    | astray h hlong => exact ⟨h, hlong⟩
  · rintro ⟨h, hlong⟩
    exact decodeEvent_of_astray studio h hlong

theorem decodeEvent_eq_some_iff :
    (∃ e, decodeEvent studio kind payload = .ok (some e)) ↔
      ¬ AimsAstray kind payload ∧ ∃ x, extent? kind = some x ∧ x.needed ≤ payload.length := by
  constructor
  · rintro ⟨e, h⟩
    have hdecoding := decoding_decodeEvent studio kind payload
    rw [h] at hdecoding
    cases hdecoding with
    | told hkind hlong hstraight hkeeps => exact ⟨hstraight, _, hkind, hlong⟩
  · rintro ⟨hstraight, x, hkind, hlong⟩
    obtain ⟨k, index, value, hkeeps⟩ := keeps_of_long hkind hlong hstraight
    exact ⟨_, hkeeps.decodes studio payload rfl⟩

/-- Any event decoded tells type and window, and any packet with these tells that event. -/
theorem keeps_of_decodeEvent {e : Event} (h : decodeEvent studio kind payload = .ok (some e)) :
    ∃ x, extent? kind = some x ∧ e = Event.of studio e.kind e.index e.value ∧
      x.Keeps kind payload e.kind e.index e.value := by
  have hdecoding := decoding_decodeEvent studio kind payload
  rw [h] at hdecoding
  cases hdecoding with
  | told hkind hlong hstraight hkeeps => exact ⟨_, hkind, rfl, hkeeps⟩

theorem origin_of_decodeEvent {e : Event} (h : decodeEvent studio kind payload = .ok (some e)) :
    ∃ x, extent? kind = some x ∧ e.origin = (kind, x.window payload) := by
  obtain ⟨x, hkind, hown, hkeeps⟩ := keeps_of_decodeEvent h
  refine ⟨x, hkind, ?_⟩
  rw [hown]
  exact hkeeps.origin studio

end Decoding

/-- A packet is of an unknown type, or too short for its window, or an output delay that addresses
an input, or else tells an event. The event depends on type and window alone, apart from the studio
whose it is, and type and window can be read back from it: packets that differ in type or window
never tell the same. -/
theorem decodeEvent_keeps_window (studio : String) (kind : UInt8) (payload : Bytes) :
    (∀ k, decodeEvent studio kind payload = .error (.unknownType k) ↔
      k = kind ∧ extent? kind = none) ∧
    (∀ k needed actual, decodeEvent studio kind payload = .error (.truncated k needed actual) ↔
      k = kind ∧ actual = payload.length ∧ actual < needed ∧
        ∃ x, extent? kind = some x ∧ needed = x.needed) ∧
    (decodeEvent studio kind payload = .ok none ↔
      (kind = 0x0c ∧ payload.head? ≠ some 0xC0) ∧ 8 ≤ payload.length) ∧
    ((∃ e, decodeEvent studio kind payload = .ok (some e)) ↔
      ¬ (kind = 0x0c ∧ payload.head? ≠ some 0xC0) ∧
        ∃ x, extent? kind = some x ∧ x.needed ≤ payload.length) ∧
    (∀ e, decodeEvent studio kind payload = .ok (some e) →
      ∃ x, extent? kind = some x ∧ e.origin = (kind, x.window payload) ∧
        ∀ (name : String) (other : Bytes), x.window other = x.window payload →
          decodeEvent name kind other = .ok (some (Event.of name e.kind e.index e.value))) ∧
    (∀ e (name : String) (l : UInt8) (other : Bytes),
      decodeEvent studio kind payload = .ok (some e) → decodeEvent name l other = .ok (some e) →
        l = kind ∧ ∃ x, extent? kind = some x ∧ x.window other = x.window payload) := by
  refine ⟨fun k => decodeEvent_eq_unknown_iff, fun k needed actual => decodeEvent_eq_truncated_iff,
    decodeEvent_eq_none_iff, decodeEvent_eq_some_iff, fun e h => ?_,
    fun e name l other h hother => ?_⟩
  · obtain ⟨x, hkind, -, hkeeps⟩ := keeps_of_decodeEvent h
    obtain ⟨y, hsame, horigin⟩ := origin_of_decodeEvent h
    obtain rfl : y = x := Option.some.inj (hsame.symm.trans hkind)
    exact ⟨y, hkind, horigin, hkeeps.decodes⟩
  · obtain ⟨x, hkind, horigin⟩ := origin_of_decodeEvent h
    obtain ⟨y, hl, hagain⟩ := origin_of_decodeEvent hother
    obtain ⟨rfl, hwindow⟩ : l = kind ∧ y.window other = x.window payload :=
      Prod.mk.inj (hagain.symm.trans horigin)
    obtain rfl : y = x := Option.some.inj (hl.symm.trans hkind)
    exact ⟨rfl, y, hkind, hwindow⟩

/-- An output volume and the volume of an input with the same index are told apart. -/
theorem decodeEvent_keeps_window_volume :
    decodeEvent "desk" 0x01 [0xC0, 0, 0, 7, 0x7f, 0xc0, 0, 1, 9] =
        .ok (some (.of "desk" .outputVolume (some 7) (some (.float 0x7fc00001)))) ∧
      decodeEvent "desk" 0x01 [0, 0, 0, 7, 0x7f, 0xc0, 0, 1] =
        .ok (some (.of "desk" .inputVolume (some 7) (some (.float 0x7fc00001)))) ∧
      (Event.of "desk" .outputVolume (some 7) (some (.float 0x7fc00001))).origin =
        (0x01, [0xC0, 0, 0, 7, 0x7f, 0xc0, 0, 1]) := by
  refine ⟨by decide, by decide, ?_⟩
  obtain ⟨x, hkind, horigin, -⟩ :=
    (decodeEvent_keeps_window "desk" 0x01 [0xC0, 0, 0, 7, 0x7f, 0xc0, 0, 1, 9]).2.2.2.2.1
      (.of "desk" .outputVolume (some 7) (some (.float 0x7fc00001))) (by decide)
  obtain rfl : Extent.span 0 8 = x := Option.some.inj hkind
  exact horigin

end BroadcastLink
