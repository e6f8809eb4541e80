import BroadcastLink.Event.Decode
import BroadcastLink.Event.Stream
import BroadcastLink.Proofs.Studio.Fleets

/-!
# Topics of several studios

A studio's meters go to its own name behind a mark, its other events to the bare name. Both kinds of
topic are names of one space, and a studio may be called what another one's meter topic is called.
That is the only way two studios come to share a topic.
-/

namespace BroadcastLink

/-! ## Decoded events -/

section Decoding

variable {studio : String} {p : Packet} {e : Event}

/-- A computation that succeeds went through its first part. -/
theorem ok_of_bind {ε α β : Type} {x : Except ε α} {next : α → Except ε β} {b : β}
    (h : x >>= next = .ok b) : ∃ a, x = .ok a ∧ next a = .ok b := by
  cases x with
  | error fault => contradiction
  | ok a => exact ⟨a, rfl, h⟩

/-- What a packet of a studio tells: an event of that studio on the topic of its kind, with the
packet's own bytes if it is of meters. -/
structure Packet.Tells (p : Packet) (name : String) (e : Event) : Prop where
  studio : e.studio = name
  topic : e.topic = e.kind.topic name
  hex : e.kind = .meters → e.value = some (.hex (Text.Hex.encode p.payload))

theorem Packet.tells_of_ok {kind : EventKind} {index : Option UInt32} {value : Option EventValue}
    (h : (.ok (some (Event.of studio kind index value)) : Except DecodeFault (Option Event)) =
      .ok (some e)) (meters : kind = .meters → value = some (.hex (Text.Hex.encode p.payload))) :
    p.Tells studio e := by
  obtain rfl : Event.of studio kind index value = e := by simpa using h
  exact ⟨rfl, rfl, meters⟩

theorem Packet.tells_of_event (h : p.event studio = .ok (some e)) : p.Tells studio e := by
  unfold event decodeEvent at h
  split at h
  case h_5 | h_7 => exact tells_of_ok h (by simp)
  case h_8 => exact tells_of_ok h (fun _ => rfl)
  case h_1 | h_3 =>
    -- The kind depends on whether an output is addressed; neither is of meters.
    obtain ⟨read, -, h⟩ := ok_of_bind h
    refine tells_of_ok h fun meters => ?_
    split at meters <;> contradiction
  case h_12 =>
    -- An output delay that addresses an input is no event.
    obtain ⟨read, -, h⟩ := ok_of_bind h
    dsimp only at h
    split at h
    · exact tells_of_ok h (by simp)
    · simp [pure, Except.pure] at h
  case h_14 => contradiction
  all_goals
    obtain ⟨read, -, h⟩ := ok_of_bind h
    exact tells_of_ok h (by simp)

/-- Meters are published as digits, everything else as an object. -/
theorem Packet.Tells.payload (h : p.Tells studio e) :
    e.payload = if e.kind = .meters then Text.Hex.encode p.payload else Json.object e.fields := by
  obtain ⟨name, topic, kind, index, value⟩ := e
  by_cases hkind : kind = .meters
  · subst hkind
    obtain rfl : value = _ := h.hex rfl
    rfl
  · simp only [Event.payload, if_neg hkind]
    split
    · exact absurd rfl hkind
    · rfl

end Decoding

/-! ## Equal topics -/

theorem meterTopic_ne (name : String) : meterTopic name ≠ name := by
  intro h
  have := congrArg String.length h
  simp [meterTopic, meterTopicMark] at this

theorem meterTopic_inj {a b : String} : meterTopic a = meterTopic b ↔ a = b := by
  simp [meterTopic]

/-- Two topics are one for the same studio and sort of event, or because one studio is called what
the other one's meter topic is called. -/
theorem EventKind.topic_eq_iff {j k : EventKind} {a b : String} :
    j.topic a = k.topic b ↔
      (a = b ∧ (j = .meters ↔ k = .meters)) ∨
        (j = .meters ∧ k ≠ .meters ∧ b = meterTopic a) ∨
        (j ≠ .meters ∧ k = .meters ∧ a = meterTopic b) := by
  by_cases hj : j = .meters <;> by_cases hk : k = .meters <;>
    simp [topic, eventTopic, hj, hk, meterTopic_inj, eq_comm]

/-! ## The topics of a configuration -/

namespace Fleet

/-- Whatever the studios' packets tell, events on one topic are of one studio and of one sort. -/
def TopicsApart (f : Fleet) : Prop :=
  ∀ {k l : String} {s t : Studio} {p q : Packet} {d e : Event},
    f.get? k = some s → f.get? l = some t →
    p.event s.name = .ok (some d) → q.event t.name = .ok (some e) →
    d.topic = e.topic → s = t ∧ (d.kind = .meters ↔ e.kind = .meters)

/-- Who subscribes to a studio's events is given objects with that studio's events, and who
subscribes to its meters is given digits of its packets. -/
def TopicsPrivate (f : Fleet) : Prop :=
  ∀ {k l : String} {s t : Studio} {q : Packet} {e : Event},
    f.get? k = some s → f.get? l = some t → q.event t.name = .ok (some e) →
    (e.publication.topic = eventTopic s.name →
      t = s ∧ e.publication.payload = Json.object e.fields) ∧
    (e.publication.topic = meterTopic s.name →
      t = s ∧ e.publication.payload = Text.Hex.encode q.payload)

variable {f : Fleet}

/-- A packet that every studio can send, and what it tells. -/
theorem event_resync (name : String) :
    (⟨0x05, []⟩ : Packet).event name = .ok (some (.of name .statusResync none none)) := rfl

theorem event_meters (name : String) :
    (⟨0x08, []⟩ : Packet).event name = .ok (some (.of name .meters none (some (.hex "")))) := rfl

/-- A key of a sound configuration is the name of the studio under it. -/
theorem named_of_mem_keys (sound : f.validate = .ok ()) {name : String} (h : name ∈ f.keys) :
    ∃ s, f.get? name = some s ∧ s.name = name := by
  obtain ⟨s, hs⟩ := Option.ne_none_iff_exists'.mp (mem_keys_iff.mp h)
  exact ⟨s, hs, (sound_of_validate sound hs).1⟩

/-- A studio called like another one's meter topic has that topic for its events. -/
theorem TopicsApart.not_shadowed (apart : f.TopicsApart) (sound : f.validate = .ok ()) :
    ∀ name ∈ f.keys, meterTopic name ∉ f.keys := by
  intro name hname hshadow
  obtain ⟨s, hs, rfl⟩ := named_of_mem_keys sound hname
  obtain ⟨t, ht, htname⟩ := named_of_mem_keys sound hshadow
  have hsame := apart hs ht (event_meters s.name) (event_resync t.name)
    (by simp [Event.of, EventKind.topic, eventTopic, htname])
  simpa [Event.of] using hsame.2

/-- Who subscribes to the meters would be given those events. -/
theorem TopicsPrivate.not_shadowed (own : f.TopicsPrivate) (sound : f.validate = .ok ()) :
    ∀ name ∈ f.keys, meterTopic name ∉ f.keys := by
  intro name hname hshadow
  obtain ⟨s, hs, rfl⟩ := named_of_mem_keys sound hname
  obtain ⟨t, ht, htname⟩ := named_of_mem_keys sound hshadow
  obtain ⟨rfl, -⟩ := (own hs ht (event_resync t.name)).2
    (by simp [Event.publication, Event.of, EventKind.topic, eventTopic, htname])
  exact meterTopic_ne t.name htname.symm

variable {k l : String} {s t : Studio} {p q : Packet} {d e : Event}

/-- Where no studio is called like another one's meter topic, a topic tells studio and sort. -/
theorem same_of_topic_eq (sound : f.validate = .ok ())
    (free : ∀ name ∈ f.keys, meterTopic name ∉ f.keys) (hs : f.get? k = some s)
    (ht : f.get? l = some t) {j i : EventKind} (h : j.topic s.name = i.topic t.name) :
    s = t ∧ (j = .meters ↔ i = .meters) := by
  have hs' := (sound_of_validate sound hs).1
  have ht' := (sound_of_validate sound ht).1
  have hk : k ∈ f.keys := mem_keys_iff.mpr (by simp [hs])
  have hl : l ∈ f.keys := mem_keys_iff.mpr (by simp [ht])
  rcases EventKind.topic_eq_iff.mp h with ⟨hname, hsort⟩ | ⟨-, -, hname⟩ | ⟨-, -, hname⟩
  · obtain rfl : k = l := by rw [← hs', ← ht', hname]
    exact ⟨Option.some.inj (hs.symm.trans ht), hsort⟩
  · rw [hs', ht'] at hname
    exact absurd (hname ▸ hl) (free k hk)
  · rw [hs', ht'] at hname
    exact absurd (hname ▸ hk) (free l hl)

/-- In a configuration that is not rejected, the studios' topics are apart just if none is called
like another one's meter topic; and just then each subscriber has its studio's payloads alone. -/
theorem topics_apart_iff (sound : f.validate = .ok ()) :
    (f.TopicsApart ↔ ∀ name ∈ f.keys, meterTopic name ∉ f.keys) ∧
      (f.TopicsPrivate ↔ ∀ name ∈ f.keys, meterTopic name ∉ f.keys) := by
  refine ⟨⟨fun apart => apart.not_shadowed sound, fun free => ?_⟩,
    ⟨fun own => own.not_shadowed sound, fun free => ?_⟩⟩
  · intro k l s t p q d e hs ht hd he htopic
    rw [(Packet.tells_of_event hd).topic, (Packet.tells_of_event he).topic] at htopic
    exact same_of_topic_eq sound free hs ht htopic
  · intro k l s t q e hs ht he
    have told := Packet.tells_of_event he
    constructor <;> intro htopic <;> replace htopic : e.topic = _ := htopic <;>
      rw [told.topic] at htopic
    · obtain ⟨hsame, hsort⟩ := same_of_topic_eq (i := .statusResync) sound free ht hs htopic
      have hkind : e.kind ≠ .meters := by simpa using hsort
      exact ⟨hsame, by simpa [Event.publication, hkind] using told.payload⟩
    · obtain ⟨hsame, hsort⟩ := same_of_topic_eq (i := .meters) sound free ht hs htopic
      have hkind : e.kind = .meters := by simpa using hsort
      exact ⟨hsame, by simpa [Event.publication, hkind] using told.payload⟩

/-- Two studios whose topics are apart. -/
def sideBySide : Fleet :=
  (∅ : Fleet).add { name := "desk", host := "127.0.0.1", port := 9000 }
    |>.add { name := "mixer", host := "127.0.0.1", port := 9001 }

theorem topicsApart_sideBySide :
    sideBySide.validate = .ok () ∧ sideBySide.TopicsApart ∧ sideBySide.TopicsPrivate := by
  have sound : sideBySide.validate = .ok () := by decide
  have free : ∀ name ∈ sideBySide.keys, meterTopic name ∉ sideBySide.keys := by decide
  have h := topics_apart_iff sound
  exact ⟨sound, h.1.mpr free, h.2.mpr free⟩

/-- Two studios, one of them called what the other one's meter topic is called. -/
def shadowing : Fleet :=
  (∅ : Fleet).add { name := "main", host := "127.0.0.1", port := 9000 }
    |>.add { name := "vu_main", host := "127.0.0.1", port := 9001 }

/-- The configuration is not rejected, and yet the meters of one studio and the events of the other
go to one topic. -/
theorem shadowing_not_topicsApart :
    shadowing.validate = .ok () ∧ ¬ shadowing.TopicsApart ∧ ¬ shadowing.TopicsPrivate := by
  have sound : shadowing.validate = .ok () := by decide
  have shadowed : "main" ∈ shadowing.keys ∧ meterTopic "main" ∈ shadowing.keys := by decide
  refine ⟨sound, fun apart => ?_, fun own => ?_⟩
  · exact apart.not_shadowed sound "main" shadowed.1 shadowed.2
  · exact own.not_shadowed sound "main" shadowed.1 shadowed.2

end Fleet

end BroadcastLink
