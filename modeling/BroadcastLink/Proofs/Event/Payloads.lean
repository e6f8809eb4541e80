import BroadcastLink.Event.Payload
import BroadcastLink.Proofs.Decimal.Numerals
import BroadcastLink.Proofs.Event.Windows

/-!
# What a payload tells

A payload is either the digits of a meter packet or one object, and no text is both. The members of
the object give back the kind of an event, its index, and its value as far as the text of a value
tells it.
-/

namespace BroadcastLink

/-! ## Values of a kind -/

/-- The values that events of a kind have. Meters have no index. -/
def EventKind.Admits (kind : EventKind) (index : Option UInt32) (value : Option EventValue) :
    Prop :=
  match kind with
  | .inputVolume | .outputVolume | .balance | .recorderGain | .position | .outputDelay =>
    ∃ bits, value = some (.float bits)
  | .inputBus | .outputBus | .playerStatus | .processorLoad => ∃ n, value = some (.uint n)
  | .statusResync | .recorderResync | .metadataChanged | .itemDeleted => value = none
  | .meters => index = none ∧ ∃ digits, value = some (.hex digits)

section Decoded

variable {studio : String} {kind : UInt8} {payload : Bytes} {e : Event}

theorem admits_of_ok {k : EventKind} {index : Option UInt32} {value : Option EventValue}
    (h : (.ok (some (Event.of studio k index value)) : Except DecodeFault (Option Event)) =
      .ok (some e)) (hadmits : k.Admits index value) : e.kind.Admits e.index e.value := by
  cases h
  exact hadmits

theorem admits_of_decodeEvent (h : decodeEvent studio kind payload = .ok (some e)) :
    e.kind.Admits e.index e.value := by
  unfold decodeEvent at h
  split at h
  case h_5 | h_7 => exact admits_of_ok h rfl
  case h_8 => exact admits_of_ok h ⟨rfl, _, rfl⟩
  case h_14 => contradiction
  case h_6 | h_11 =>
    obtain ⟨reference, -, h⟩ := ok_of_bind h
    exact admits_of_ok h rfl
  case h_12 =>
    -- An output delay that addresses an input is no event.
    obtain ⟨read, -, h⟩ := ok_of_bind h
    dsimp only at h
    split at h
    · exact admits_of_ok h ⟨_, rfl⟩
    · simp [pure, Except.pure] at h
  case h_1 | h_3 =>
    obtain ⟨read, -, h⟩ := ok_of_bind h
    refine admits_of_ok h ?_
    split <;> exact ⟨_, rfl⟩
  all_goals
    obtain ⟨read, -, h⟩ := ok_of_bind h
    exact admits_of_ok h ⟨_, rfl⟩

end Decoded

/-! ## Names of kinds -/

namespace EventKind

/-- All kinds. -/
def all : List EventKind :=
  [.inputVolume, .outputVolume, .balance, .inputBus, .outputBus, .playerStatus, .statusResync,
    .metadataChanged, .recorderResync, .recorderGain, .position, .itemDeleted, .outputDelay,
    .processorLoad, .meters]

theorem find?_tag (k : EventKind) : all.find? (fun j => j.tag == k.tag) = some k := by
  cases k <;> rfl

theorem tag_inj {j k : EventKind} : j.tag = k.tag ↔ j = k := by
  refine ⟨fun h => ?_, fun h => h ▸ rfl⟩
  have hfound := find?_tag j
  rw [h, find?_tag k] at hfound
  exact (Option.some.inj hfound).symm

end EventKind

/-! ## Digits -/

namespace Text.Hex

theorem digit_lower : ∀ n < 16,
    ('0' ≤ digit n ∧ digit n ≤ '9') ∨ ('a' ≤ digit n ∧ digit n ≤ 'f') := by decide

/-- Bytes are written with lower-case digits only. -/
theorem lower_of_mem_encodeChars {bytes : Bytes} {c : Char} (h : c ∈ encodeChars bytes) :
    ('0' ≤ c ∧ c ≤ '9') ∨ ('a' ≤ c ∧ c ≤ 'f') := by
  obtain ⟨b, -, hc⟩ := List.mem_flatMap.mp h
  have hb := b.toNat_lt
  rcases List.mem_pair.mp hc with rfl | rfl
  · exact digit_lower (b.toNat / 16) (by omega)
  · exact digit_lower (b.toNat % 16) (by omega)

end Text.Hex

/-! ## Objects -/

namespace Event

variable {d e : Event}

theorem skips_text (v : EventValue) : Json.Skips v.text := by
  cases v with
  | float bits => exact Decimal.skips_singleText bits.toNat
  | uint n => exact Decimal.skips_natText n.toNat
  | hex digits => exact Json.skips_quote digits

/-- Every field of an event's object has one value. -/
theorem skips_fields (e : Event) : ∀ f ∈ e.fields, Json.Skips f.2 := by
  intro f hf
  rcases List.mem_cons.mp hf with rfl | hf
  · exact Json.skips_quote _
  rcases List.mem_append.mp hf with hf | hf
  · split at hf
    · obtain rfl := List.mem_singleton.mp hf
      exact Decimal.skips_natText _
    · contradiction
  · split at hf
    · obtain rfl := List.mem_singleton.mp hf
      exact skips_text _
    · contradiction

/-- The object of an event is seen as it was written. -/
theorem membersOf_object (e : Event) : Json.membersOf (Json.object e.fields) = .ok e.fields :=
  Json.membersOf_object e.skips_fields

theorem lookup_type (e : Event) : e.fields.lookup "type" = some (Json.quote e.kind.tag) := rfl

/-- The key of an index. -/
def indexKey (kind : EventKind) : String := if kind.isRecordEvent then "uid" else "num"

theorem lookup_index (e : Event) :
    e.fields.lookup (indexKey e.kind) = e.index.map fun n => Decimal.natText n.toNat := by
  obtain ⟨studio, topic, kind, index, value⟩ := e
  cases hrecord : kind.isRecordEvent <;> cases index <;> cases value <;>
    simp [fields, indexKey, hrecord, List.lookup_cons]

theorem lookup_value (e : Event) : e.fields.lookup "val" = e.value.map EventValue.text := by
  obtain ⟨studio, topic, kind, index, value⟩ := e
  cases hrecord : kind.isRecordEvent <;> cases index <;> cases value <;>
    simp [fields, hrecord, List.lookup_cons]

/-- An object has each field at most once, and exactly those that the event has. -/
theorem keys_fields (e : Event) :
    (e.fields.map (·.1)).Nodup ∧
    ("uid" ∈ e.fields.map (·.1) ↔ e.kind.isRecordEvent = true ∧ e.index.isSome = true) ∧
    ("num" ∈ e.fields.map (·.1) ↔ e.kind.isRecordEvent = false ∧ e.index.isSome = true) ∧
    ("val" ∈ e.fields.map (·.1) ↔ e.value.isSome = true) := by
  obtain ⟨studio, topic, kind, index, value⟩ := e
  cases hrecord : kind.isRecordEvent <;> cases index <;> cases value <;> simp [fields, hrecord]

/-- Equal objects are of events of one kind with the same index and with values of the same text. -/
theorem eq_of_fields (h : d.fields = e.fields) :
    d.kind = e.kind ∧ d.index = e.index ∧
      d.value.map EventValue.text = e.value.map EventValue.text := by
  have hkind : d.kind = e.kind := by
    have htype := lookup_type d
    rw [h, lookup_type e] at htype
    exact (EventKind.tag_inj.mp (Json.quote_inj.mp (Option.some.inj htype))).symm
  refine ⟨hkind, ?_, ?_⟩
  · have hindex := lookup_index d
    rw [h, hkind, lookup_index e] at hindex
    refine (Option.map_injective (fun m n hmn => ?_) hindex).symm
    exact UInt32.toNat_inj.mp (Decimal.natText_inj.mp hmn)
  · have hvalue := lookup_value d
    rw [h, lookup_value e] at hvalue
    exact hvalue.symm

/-- Texts tell values of one kind apart, unless both are single-precision numbers. -/
theorem value_eq_of_text {kind : EventKind} {i j : Option UInt32} {v w : Option EventValue}
    (hv : kind.Admits i v) (hw : kind.Admits j w)
    (htext : v.map EventValue.text = w.map EventValue.text) :
    v = w ∨ ∃ a b, v = some (.float a) ∧ w = some (.float b) := by
  cases kind
  case inputVolume | outputVolume | balance | recorderGain | position | outputDelay =>
    obtain ⟨a, rfl⟩ := hv
    obtain ⟨b, rfl⟩ := hw
    exact .inr ⟨a, b, rfl, rfl⟩
  case inputBus | outputBus | playerStatus | processorLoad =>
    obtain ⟨m, rfl⟩ := hv
    obtain ⟨n, rfl⟩ := hw
    have hmn := UInt32.toNat_inj.mp (Decimal.natText_inj.mp (Option.some.inj htext))
    exact .inl (congrArg (fun k => some (EventValue.uint k)) hmn)
  case statusResync | recorderResync | metadataChanged | itemDeleted =>
    exact .inl (Eq.trans hv hw.symm)
  case meters =>
    obtain ⟨-, a, rfl⟩ := hv
    obtain ⟨-, b, rfl⟩ := hw
    exact .inl (congrArg (fun s => some (EventValue.hex s)) (Json.quote_inj.mp
      (Option.some.inj htext)))

/-! ## Payloads -/

/-- An object is no text of digits. -/
theorem encode_ne_object (bytes : Bytes) (e : Event) :
    Text.Hex.encode bytes ≠ Json.object e.fields := by
  intro h
  have hbrace : '\x7b' ∈ Text.Hex.encodeChars bytes := by
    have hobject := Json.toList_object_cons ("type", Json.quote e.kind.tag) e.fields.tail
    have hlist : Text.Hex.encodeChars bytes = (Json.object e.fields).toList := by
      rw [← h, Text.Hex.encode, String.toList_ofList]
    rw [hlist]
    exact hobject ▸ List.mem_cons_self
  exact absurd (Text.Hex.lower_of_mem_encodeChars hbrace) (by decide)

section Decoded

variable {studio : String} {kind : UInt8} {bytes : Bytes}

/-- The payload of a decoded event: the digits of its packet, or an object. -/
theorem payload_of_decodeEvent (h : decodeEvent studio kind bytes = .ok (some e)) :
    e.payload = if e.kind = .meters then Text.Hex.encode bytes else Json.object e.fields :=
  (Packet.tells_of_event (p := ⟨kind, bytes⟩) h).payload

end Decoded

/-- The fields of meters: they have no index. -/
theorem fields_of_meters {s : String} {k : UInt8} {a : Bytes}
    (h : decodeEvent s k a = .ok (some e)) (hmeters : e.kind = .meters) :
    e.fields = [("type", Json.quote EventKind.meters.tag),
      ("val", Json.quote (Text.Hex.encode a))] := by
  have hindex : e.index = none := by
    have hadmits := admits_of_decodeEvent h
    rw [hmeters] at hadmits
    exact hadmits.1
  have hvalue := (Packet.tells_of_event (p := ⟨k, a⟩) h).hex hmeters
  simp only [fields, hmeters, hindex, hvalue]
  rfl

/-- Decoded events with equal payloads have equal fields, also meters, whose fields are not
published. -/
theorem fields_eq_of_payload {s t : String} {k l : UInt8} {a b : Bytes}
    (hd : decodeEvent s k a = .ok (some d)) (he : decodeEvent t l b = .ok (some e))
    (h : d.payload = e.payload) : d.fields = e.fields := by
  rw [payload_of_decodeEvent hd, payload_of_decodeEvent he] at h
  by_cases hdm : d.kind = .meters <;> by_cases hem : e.kind = .meters
  · rw [if_pos hdm, if_pos hem] at h
    rw [fields_of_meters hd hdm, fields_of_meters he hem, h]
  · rw [if_pos hdm, if_neg hem] at h
    exact absurd h (encode_ne_object a e)
  · rw [if_neg hdm, if_pos hem] at h
    exact absurd h.symm (encode_ne_object b d)
  · rw [if_neg hdm, if_neg hem] at h
    have hmembers := membersOf_object d
    rw [h, membersOf_object e] at hmembers
    exact (Except.ok.inj hmembers).symm

end Event

/-- Payloads are unambiguous, whichever studios they are of. Equal payloads are of one kind and have
one index, and the values are the same unless they are single-precision numbers. The payload of
meters is the lower-case digits of the packet's bytes. Any other payload is one object, read by its
grammar alone, with the index under `uid` if the event names a record and under `num` otherwise, and
with `val` if there is a value. -/
theorem payload_unambiguous :
    (∀ (s t : String) (k l : UInt8) (a b : Bytes) (d e : Event),
      decodeEvent s k a = .ok (some d) → decodeEvent t l b = .ok (some e) →
      d.payload = e.payload → d.kind = e.kind ∧ d.index = e.index ∧
        (d.value = e.value ∨
          ∃ x y, d.value = some (.float x) ∧ e.value = some (.float y))) ∧
    ∀ (s : String) (k : UInt8) (a : Bytes) (e : Event), decodeEvent s k a = .ok (some e) →
      (e.kind = .meters →
        (∀ c ∈ e.payload.toList, ('0' ≤ c ∧ c ≤ '9') ∨ ('a' ≤ c ∧ c ≤ 'f')) ∧
          Text.Hex.decode? e.payload.toList = some a) ∧
      (e.kind ≠ .meters →
        Json.membersOf e.payload = .ok e.fields ∧ (e.fields.map (·.1)).Nodup ∧
          ("uid" ∈ e.fields.map (·.1) ↔ e.kind.isRecordEvent = true ∧ e.index.isSome = true) ∧
          ("num" ∈ e.fields.map (·.1) ↔ e.kind.isRecordEvent = false ∧ e.index.isSome = true) ∧
          ("val" ∈ e.fields.map (·.1) ↔ e.value.isSome = true)) := by
  refine ⟨fun s t k l a b d e hd he h => ?_,
    fun s k a e he => ⟨fun hmeters => ?_, fun hother => ?_⟩⟩
  · obtain ⟨hkind, hindex, htext⟩ := Event.eq_of_fields (Event.fields_eq_of_payload hd he h)
    have hadmits := admits_of_decodeEvent hd
    rw [hkind] at hadmits
    exact ⟨hkind, hindex, Event.value_eq_of_text hadmits (admits_of_decodeEvent he) htext⟩
  · rw [Event.payload_of_decodeEvent he, if_pos hmeters]
    refine ⟨fun c hc => ?_, Text.Hex.decode?_encode a⟩
    rw [Text.Hex.encode, String.toList_ofList] at hc
    exact Text.Hex.lower_of_mem_encodeChars hc
  · rw [Event.payload_of_decodeEvent he, if_neg hother]
    exact ⟨e.membersOf_object, e.keys_fields⟩

/-- The gain of a recorder and the deletion of a record with the same number, and meters. -/
theorem payload_unambiguous_deleted :
    decodeEvent "desk" 0x0b [0, 0, 0, 7] = .ok (some (.of "desk" .itemDeleted (some 7) none)) ∧
      Json.membersOf (Event.of "desk" .itemDeleted (some 7) none).payload =
        .ok [("type", "\x22delete\x22"), ("uid", "7")] ∧
      (Event.of "desk" .itemDeleted (some 7) none).payload ≠
        (Event.of "desk" .recorderGain (some 7) (some (.float 0x40490fdb))).payload ∧
      Text.Hex.decode? (Event.of "desk" .meters none (some (.hex "00ff"))).payload.toList =
        some [0, 0xff] := by
  have hdeleted : decodeEvent "desk" 0x0b [0, 0, 0, 7] =
      .ok (some (.of "desk" .itemDeleted (some 7) none)) := by decide
  have hgain : decodeEvent "hall" 0x09 [0, 0, 0, 7, 0x40, 0x49, 0x0f, 0xdb] =
      .ok (some (.of "hall" .recorderGain (some 7) (some (.float 0x40490fdb)))) := by decide
  have hmeters : decodeEvent "desk" 0x08 [0, 0xff] =
      .ok (some (.of "desk" .meters none (some (.hex "00ff")))) := by decide
  refine ⟨hdeleted, ?_, fun h => ?_, ?_⟩
  · exact ((payload_unambiguous.2 _ _ _ _ hdeleted).2 (by decide)).1
  · exact absurd (payload_unambiguous.1 _ _ _ _ _ _ _ _ hdeleted hgain h).1 (by decide)
  · exact ((payload_unambiguous.2 _ _ _ _ hmeters).1 rfl).2

end BroadcastLink
