import BroadcastLink.Proofs.Hub.Mailroom
import BroadcastLink.Proofs.Roster.Values

/-!
# A hub is a room of mailboxes

A hub keeps the latest messages of a topic once for all its subscribers, and each subscription is a
number into them. The messages from that number on are the subscriber's mailbox. Every step of the
hub is the same step on these mailboxes, which do not depend on when topics were swept away.
-/

namespace BroadcastLink

/-! ## The room of a topic -/

/-- Doubling reaches the least power of two that is large enough. -/
theorem powerOfTwoFrom_go (n fuel k : Nat) (h : Nat.clog 2 n ≤ k + fuel) :
    powerOfTwoFrom.go n fuel (2 ^ k) = 2 ^ max k (Nat.clog 2 n) := by
  induction fuel generalizing k with
  | zero =>
    have hdone : max k (Nat.clog 2 n) = k := Nat.max_eq_left h
    rw [powerOfTwoFrom.go, hdone]
  | succ fuel ih =>
    have hreached : n ≤ 2 ^ k ↔ Nat.clog 2 n ≤ k := (Nat.clog_le_iff_le_pow Nat.one_lt_two).symm
    rw [powerOfTwoFrom.go]
    split
    · rename_i hle
      rw [Nat.max_eq_left (hreached.mp hle)]
    · rename_i hlt
      rw [← Nat.pow_succ', ih (k + 1) (by omega)]
      congr 1
      omega

theorem powerOfTwoFrom_eq (n : Nat) : powerOfTwoFrom n = 2 ^ Nat.clog 2 n := by
  have henough : Nat.clog 2 n ≤ 0 + n := by
    rw [Nat.zero_add, Nat.clog_le_iff_le_pow Nat.one_lt_two]
    exact Nat.lt_two_pow_self.le
  simpa [powerOfTwoFrom] using powerOfTwoFrom_go n n 0 henough

/-! ## What a topic keeps for a reader -/

namespace Topic

variable {t : Topic} {next : Nat}

/-- A topic keeps as much as it has room for. -/
def Full (t : Topic) : Prop := 0 < t.room ∧ t.kept.length = min t.sent t.room

theorem full_ofCapacity (capacity : Nat) : (ofCapacity capacity).Full := by
  refine ⟨?_, by simp [ofCapacity]⟩
  have hroom : (ofCapacity capacity).room = 2 ^ Nat.clog 2 capacity := powerOfTwoFrom_eq capacity
  rw [hroom]
  exact Nat.two_pow_pos _

theorem Full.send (h : t.Full) (payload : String) : (t.send payload).Full := by
  obtain ⟨some_room, hkept⟩ := h
  refine ⟨some_room, ?_⟩
  simp only [Topic.send, List.length_take, List.length_cons, hkept]
  omega

/-- The messages kept from a number on, oldest first. -/
def pending (t : Topic) (next : Nat) : List String := (t.kept.take (t.sent - next)).reverse

theorem length_pending (h : t.Full) (next : Nat) :
    (t.pending next).length = min (t.sent - next) t.room := by
  simp only [pending, List.length_reverse, List.length_take, h.2]
  omega

@[simp] theorem pending_sent (t : Topic) : t.pending t.sent = [] := by simp [pending]

/-- The mailbox of a subscription to this topic. -/
def mailbox (t : Topic) (s : Subscription) : Mailbox :=
  { topic := s.topic, waiting := t.pending s.next, missed := t.oldest - s.next }

/-- A message sent is a message delivered. -/
theorem mailbox_send (h : t.Full) {s : Subscription} (behind : s.next ≤ t.sent)
    (payload : String) :
    (t.send payload).mailbox s = (t.mailbox s).deliver t.room payload := by
  have hlength := length_pending h s.next
  obtain ⟨some_room, hkept⟩ := h
  unfold mailbox Mailbox.deliver
  dsimp only
  split
  · have hnext : t.sent + 1 - s.next = (t.sent - s.next) + 1 := by omega
    have hmissed : t.sent + 1 - t.room - s.next = t.sent - t.room - s.next := by omega
    simp only [Topic.send, pending, oldest, hmissed]
    rw [List.take_take, Nat.min_eq_left (by omega), hnext, List.take_succ_cons, List.reverse_cons]
  · -- The oldest message kept makes place for the new one.
    have hmissed : t.sent + 1 - t.room - s.next = t.sent - t.room - s.next + 1 := by omega
    have hroom : t.room = (t.room - 1) + 1 := by omega
    have hall : t.kept.take (t.sent - s.next) = t.kept := List.take_of_length_le (by omega)
    have hfull : t.kept.length - 1 = t.room - 1 := by omega
    simp only [Topic.send, pending, oldest, hmissed, hall]
    rw [List.take_take, Nat.min_eq_right (by omega), hroom, List.take_succ_cons, List.reverse_cons,
      List.tail_reverse, List.dropLast_eq_take, hfull]

/-- What a topic lets a subscription read is what its mailbox holds next. -/
theorem mailbox_read (h : t.Full) {s : Subscription} (behind : s.next ≤ t.sent) (isOpen : Bool) :
    (t.mailbox s).collect isOpen =
      (t.mailbox { s with next := (t.read s.next).2 },
        match (t.read s.next).1 with
        | .message payload => .message ⟨s.topic, payload⟩
        | .missed n => .lagged n
        | .nothing => if isOpen then .empty else .closed) := by
  obtain ⟨some_room, hkept⟩ := h
  unfold read Mailbox.collect mailbox
  dsimp only
  by_cases hlate : s.next < t.oldest
  · rw [if_pos hlate, if_neg (by omega)]
    have hall : t.pending s.next = t.pending t.oldest := by
      unfold oldest at hlate
      unfold pending oldest
      rw [List.take_of_length_le (by omega), List.take_of_length_le (by omega)]
    simp [hall]
  · have hmissed : t.oldest - s.next = 0 := by omega
    have hmissed' : t.oldest - (s.next + 1) = 0 := by omega
    rw [if_neg hlate, if_pos hmissed]
    unfold oldest at hlate
    by_cases hcurrent : s.next < t.sent
    · have hindex : t.sent - 1 - s.next < t.kept.length := by omega
      have hmessage : t.message? s.next = some t.kept[t.sent - 1 - s.next] := by
        rw [message?, if_pos hcurrent, List.getElem?_eq_getElem hindex]
      have hcount : t.sent - s.next = (t.sent - 1 - s.next) + 1 := by omega
      have hcount' : t.sent - (s.next + 1) = t.sent - 1 - s.next := by omega
      have hpending : t.pending s.next =
          t.kept[t.sent - 1 - s.next] :: t.pending (s.next + 1) := by
        rw [pending, pending, hcount, hcount', List.take_succ_eq_append_getElem hindex]
        simp
      simp [hpending, hmessage, hmissed, hmissed']
    · have hmessage : t.message? s.next = none := by rw [message?, if_neg hcurrent]
      have hpending : t.pending s.next = [] := by simp [pending, Nat.le_of_not_lt hcurrent]
      simp [hpending, hmessage]

/-- A reader does not overtake the messages sent. -/
theorem read_le (behind : next ≤ t.sent) : (t.read next).2 ≤ t.sent := by
  unfold read
  split
  · exact Nat.sub_le _ _
  · by_cases hcurrent : next < t.sent
    · split
      · exact hcurrent
      · exact behind
    · simpa [message?, hcurrent] using behind

end Topic

/-! ## The mailboxes of a hub -/

namespace Hub

variable {h : Hub}

/-- The mailbox of a subscription. -/
def mailbox (h : Hub) (s : Subscription) : Mailbox := (h.topicNamed s.topic).mailbox s

/-- The mailboxes of all subscriptions. -/
def mailroom (h : Hub) : Mailroom where
  room := 2 ^ Nat.clog 2 h.settings.channelCapacity
  boxes := h.subscriptions.mapEntries fun _ s => h.mailbox s
  isOpen := h.isOpen

/-- Topics keep what they have room for, and every subscription has its topic. -/
structure Sound (h : Hub) : Prop where
  full : ∀ topic, (h.topicNamed topic).Full
  room : ∀ topic, (h.topicNamed topic).room = 2 ^ Nat.clog 2 h.settings.channelCapacity
  known : ∀ name s, h.subscriptions.get? name = some s → h.topics.get? s.topic ≠ none
  behind : ∀ name s, h.subscriptions.get? name = some s → s.next ≤ (h.topicNamed s.topic).sent

theorem sound_new (settings : HubSettings) : ({ settings := settings } : Hub).Sound where
  full _ := Topic.full_ofCapacity _
  room _ := powerOfTwoFrom_eq _
  known name s found := by simp at found
  behind name s found := by simp at found

/-- The subscribers of a topic are the mailboxes for it. -/
theorem subscriberCount_eq (h : Hub) (topic : String) :
    h.subscriberCount topic = h.mailroom.receivers topic := by
  rw [Mailroom.receivers, mailroom, Roster.countP_mapEntries]
  simp [subscriberCount, Roster.values, List.countP_map, Function.comp_def, mailbox, Topic.mailbox]

theorem subscriberCount_pos_iff {topic : String} :
    0 < h.subscriberCount topic ↔
      ∃ name s, h.subscriptions.get? name = some s ∧ s.topic = topic := by
  simp only [subscriberCount, List.countP_pos_iff, Roster.mem_values_iff, beq_iff_eq]
  constructor
  · rintro ⟨s, ⟨name, hs⟩, htopic⟩
    exact ⟨name, s, hs, htopic⟩
  · rintro ⟨name, s, hs, htopic⟩
    exact ⟨s, ⟨name, hs⟩, htopic⟩

/-! ### Subscribing -/

@[simp] theorem topicNamed_subscribe (h : Hub) (name topic other : String) :
    (h.subscribe name topic).topicNamed other = h.topicNamed other := by
  by_cases hother : other = topic <;> simp [subscribe, topicNamed, hother]

theorem mailroom_subscribe (h : Hub) (name topic : String) :
    (h.subscribe name topic).mailroom = (h.mailroom.perform (.subscribe name topic)).1 := by
  have hbox (s : Subscription) : (h.subscribe name topic).mailbox s = h.mailbox s := by
    rw [mailbox, mailbox, topicNamed_subscribe]
  have hnew : h.mailbox ⟨topic, (h.topicNamed topic).sent⟩ = { topic := topic } := by
    simp [mailbox, Topic.mailbox, Topic.oldest]
  simp only [mailroom, Mailroom.perform, hbox]
  simp only [subscribe, Roster.mapEntries_put, hnew]

theorem Sound.subscribe (sound : h.Sound) (name topic : String) :
    (h.subscribe name topic).Sound where
  full other := by simpa using sound.full other
  room other := by rw [topicNamed_subscribe]; exact sound.room other
  known other s hs := by
    by_cases hother : other = name
    · obtain rfl : ⟨topic, (h.topicNamed topic).sent⟩ = s := by
        simpa [Hub.subscribe, hother] using hs
      simp [Hub.subscribe]
    · have hbefore : h.subscriptions.get? other = some s := by
        simpa [Hub.subscribe, hother] using hs
      by_cases htopic : s.topic = topic
      · simp [Hub.subscribe, htopic]
      · simpa [Hub.subscribe, htopic] using sound.known other s hbefore
  behind other s hs := by
    rw [topicNamed_subscribe]
    by_cases hother : other = name
    · obtain rfl : ⟨topic, (h.topicNamed topic).sent⟩ = s := by
        simpa [Hub.subscribe, hother] using hs
      exact le_rfl
    · exact sound.behind other s (by simpa [Hub.subscribe, hother] using hs)

/-! ### Sending -/

theorem send_of_nobody {topic : String} (nobody : h.subscriberCount topic = 0) (payload : String) :
    h.send topic payload = (h, 0) := by
  unfold send
  rw [nobody]
  cases h.topics.get? topic <;> rfl

/-- A message that has a subscriber goes to the topic, which is there. -/
theorem Sound.send_of_some (sound : h.Sound) {topic : String}
    (someone : 0 < h.subscriberCount topic) (payload : String) :
    h.send topic payload =
      ({ h with topics := h.topics.put topic ((h.topicNamed topic).send payload) },
        h.subscriberCount topic) := by
  obtain ⟨name, s, hs, rfl⟩ := subscriberCount_pos_iff.mp someone
  obtain ⟨t, ht⟩ := Option.ne_none_iff_exists'.mp (sound.known name s hs)
  obtain ⟨n, hn⟩ := Nat.exists_eq_add_of_lt someone
  unfold send
  rw [topicNamed, ht, hn]
  rfl

theorem topicNamed_put (h : Hub) (topic other : String) (t : Topic) :
    ({ h with topics := h.topics.put topic t } : Hub).topicNamed other =
      if other = topic then t else h.topicNamed other := by
  by_cases hother : other = topic <;> simp [topicNamed, hother]

theorem Sound.send_receivers (sound : h.Sound) (topic payload : String) :
    (h.send topic payload).2 = h.mailroom.receivers topic := by
  rw [← subscriberCount_eq]
  rcases Nat.eq_zero_or_pos (h.subscriberCount topic) with nobody | someone
  · rw [send_of_nobody nobody, nobody]
  · rw [sound.send_of_some someone]

theorem Sound.mailroom_send (sound : h.Sound) (topic payload : String) :
    (h.send topic payload).1.mailroom = h.mailroom.send topic payload := by
  rcases Nat.eq_zero_or_pos (h.subscriberCount topic) with nobody | someone
  · rw [send_of_nobody nobody]
    simp only [mailroom, Mailroom.send, Roster.mapEntries_mapEntries]
    congr 1
    refine Roster.mapEntries_congr fun name s hs => ?_
    have hne : s.topic ≠ topic := by
      intro htopic
      have := subscriberCount_pos_iff.mpr ⟨name, s, hs, htopic⟩
      omega
    simp [mailbox, Topic.mailbox, hne]
  · rw [sound.send_of_some someone]
    simp only [mailroom, Mailroom.send, Roster.mapEntries_mapEntries]
    congr 1
    refine Roster.mapEntries_congr fun name s hs => ?_
    rw [mailbox, mailbox, topicNamed_put]
    by_cases htopic : s.topic = topic
    · subst htopic
      rw [if_pos rfl, Topic.mailbox_send (sound.full _) (sound.behind name s hs), sound.room]
      simp [Topic.mailbox]
    · rw [if_neg htopic]
      simp [Topic.mailbox, htopic]

theorem Sound.send (sound : h.Sound) (topic payload : String) :
    (h.send topic payload).1.Sound := by
  rcases Nat.eq_zero_or_pos (h.subscriberCount topic) with nobody | someone
  · rwa [send_of_nobody nobody]
  · rw [sound.send_of_some someone]
    refine ⟨fun other => ?_, fun other => ?_, fun name s hs => ?_, fun name s hs => ?_⟩
    · rw [topicNamed_put]
      split
      · exact (sound.full topic).send payload
      · exact sound.full other
    · rw [topicNamed_put]
      split
      · exact sound.room topic
      · exact sound.room other
    · by_cases htopic : s.topic = topic
      · simp [htopic]
      · simpa [htopic] using sound.known name s hs
    · rw [topicNamed_put]
      have hbehind := sound.behind name s hs
      split
      · rename_i htopic
        rw [htopic] at hbehind
        exact Nat.le_succ_of_le hbehind
      · exact hbehind

/-! ### Receiving -/

theorem Sound.mailroom_receive (sound : h.Sound) (name : String) :
    (h.receive name).1.mailroom = (h.mailroom.receive name).1 ∧
      (h.receive name).2 = (h.mailroom.receive name).2 := by
  cases hs : h.subscriptions.get? name with
  | none =>
    have hnobox : h.mailroom.boxes.get? name = none := by simp [mailroom, hs]
    simp only [receive, Mailroom.receive, hs, hnobox, and_self]
  | some s =>
    have hbox : h.mailroom.boxes.get? name = some (h.mailbox s) := by simp [mailroom, hs]
    rw [Mailroom.receive_of_get? hbox, mailbox,
      Topic.mailbox_read (sound.full s.topic) (sound.behind name s hs)]
    simp only [receive, hs]
    refine ⟨?_, rfl⟩
    simp only [mailroom, Roster.mapEntries_put]
    rfl

theorem Sound.receive (sound : h.Sound) (name : String) : (h.receive name).1.Sound := by
  unfold Hub.receive
  split
  · exact sound
  · rename_i s hs
    refine ⟨sound.full, sound.room, fun other r hr => ?_, fun other r hr => ?_⟩
    · by_cases hother : other = name
      · obtain rfl : _ = r := by simpa [hother] using hr
        exact sound.known name s hs
      · exact sound.known other r (by simpa [hother] using hr)
    · by_cases hother : other = name
      · obtain rfl : _ = r := by simpa [hother] using hr
        exact Topic.read_le (sound.behind name s hs)
      · exact sound.behind other r (by simpa [hother] using hr)

/-! ### Sweeping -/

/-- A topic with a subscriber is not swept away. -/
theorem get?_topics_sweep {topic : String} (someone : 0 < h.subscriberCount topic) :
    h.sweep.topics.get? topic = h.topics.get? topic := by
  cases ht : h.topics.get? topic <;> simp [sweep, ht, someone]

theorem get?_topics_sweep_of_subscribed (h : Hub) {name : String} {s : Subscription}
    (hs : h.subscriptions.get? name = some s) :
    h.sweep.topics.get? s.topic = h.topics.get? s.topic :=
  get?_topics_sweep (subscriberCount_pos_iff.mpr ⟨name, s, hs, rfl⟩)

theorem topicNamed_sweep_of_subscribed (h : Hub) {name : String} {s : Subscription}
    (hs : h.subscriptions.get? name = some s) :
    h.sweep.topicNamed s.topic = h.topicNamed s.topic := by
  unfold topicNamed
  rw [get?_topics_sweep_of_subscribed h hs]
  rfl

/-- No mailbox changes by a sweep. -/
theorem mailroom_sweep (h : Hub) : h.sweep.mailroom = h.mailroom := by
  unfold mailroom
  congr 1
  refine Roster.mapEntries_congr fun name s hs => ?_
  rw [mailbox, mailbox, topicNamed_sweep_of_subscribed h hs]

/-- What is swept away comes back as a new topic. -/
theorem topicNamed_sweep (h : Hub) (topic : String) :
    h.sweep.topicNamed topic = h.topicNamed topic ∨
      h.sweep.topicNamed topic = .ofCapacity h.settings.channelCapacity := by
  rcases Nat.eq_zero_or_pos (h.subscriberCount topic) with nobody | someone
  · right
    cases ht : h.topics.get? topic <;> simp [sweep, topicNamed, ht, nobody]
  · left
    unfold topicNamed
    rw [get?_topics_sweep someone]
    rfl

theorem Sound.sweep (sound : h.Sound) : h.sweep.Sound where
  full topic := by
    rcases topicNamed_sweep h topic with same | new
    · rw [same]
      exact sound.full topic
    · rw [new]
      exact Topic.full_ofCapacity _
  room topic := by
    rcases topicNamed_sweep h topic with same | new
    · rw [same]
      exact sound.room topic
    · rw [new]
      exact powerOfTwoFrom_eq _
  known name s hs := by
    rw [get?_topics_sweep_of_subscribed h hs]
    exact sound.known name s hs
  behind name s hs := by
    rw [topicNamed_sweep_of_subscribed h hs]
    exact sound.behind name s hs

/-! ### Events in a row -/

/-- Each event does to the mailboxes what it does to the hub, and tells the same. -/
theorem Sound.perform (sound : h.Sound) (e : HubEvent) :
    (h.perform e).1.Sound ∧ (h.perform e).1.mailroom = (h.mailroom.perform e).1 ∧
      (h.perform e).2 = (h.mailroom.perform e).2 := by
  cases e with
  | subscribe name topic => exact ⟨sound.subscribe name topic, mailroom_subscribe h name topic, rfl⟩
  | unsubscribe name =>
    refine ⟨⟨sound.full, sound.room, fun other s hs => ?_, fun other s hs => ?_⟩, ?_, rfl⟩
    · by_cases hother : other = name <;> simp [Hub.perform, unsubscribe, hother] at hs
      exact sound.known other s hs
    · by_cases hother : other = name <;> simp [Hub.perform, unsubscribe, hother] at hs
      exact sound.behind other s hs
    · exact congrArg (fun boxes => { h.mailroom with boxes := boxes })
        (Roster.mapEntries_erase h.subscriptions _ name)
  | send topic payload =>
    exact ⟨sound.send topic payload, sound.mailroom_send topic payload,
      congrArg HubOutcome.receivers (sound.send_receivers topic payload)⟩
  | publish p =>
    exact ⟨sound.send p.topic p.payload, sound.mailroom_send p.topic p.payload,
      congrArg HubOutcome.receivers (sound.send_receivers p.topic p.payload)⟩
  | receive name =>
    obtain ⟨hroom, hreceipt⟩ := sound.mailroom_receive name
    exact ⟨sound.receive name, hroom, congrArg HubOutcome.received hreceipt⟩
  | count topic => exact ⟨sound, rfl, congrArg HubOutcome.receivers (subscriberCount_eq h topic)⟩
  | sweep => exact ⟨sound.sweep, mailroom_sweep h, rfl⟩
  | close => exact ⟨⟨sound.full, sound.room, sound.known, sound.behind⟩, rfl, rfl⟩

/-- A hub tells what its mailboxes tell. -/
theorem Sound.traced_eq (sound : h.Sound) (events : List HubEvent) :
    traced Hub.perform h events = traced Mailroom.perform h.mailroom events := by
  induction events generalizing h with
  | nil => rfl
  | cons e rest ih =>
    obtain ⟨hsound, hroom, houtcome⟩ := sound.perform e
    simp only [traced, houtcome, ih hsound, hroom]

theorem Sound.afterAll_mailroom (sound : h.Sound) (events : List HubEvent) :
    (afterAll Hub.perform h events).Sound ∧
      (afterAll Hub.perform h events).mailroom =
        afterAll Mailroom.perform h.mailroom events := by
  induction events generalizing h with
  | nil => exact ⟨sound, rfl⟩
  | cons e rest ih =>
    obtain ⟨hsound, hroom, -⟩ := sound.perform e
    have hrest := ih hsound
    rwa [hroom] at hrest

/-- The hub a new subscriber of a name meets, whatever went before, and all it gives to it. -/
theorem Sound.dues_of_subscribe (sound : h.Sound) {name topic : String} {events : List HubEvent}
    (kept : ∀ e ∈ events, ¬ e.Renews name) :
    ∃ last, Dues name topic [] (traced Hub.perform (h.subscribe name topic) events) last := by
  have hsubscribed := sound.perform (.subscribe name topic)
  have hholds := Mailroom.holds_subscribe h.mailroom name topic
  rw [← hsubscribed.2.1] at hholds
  obtain ⟨last, hdues, -⟩ := hholds.run (Nat.two_pow_pos _) kept
  rw [← hsubscribed.1.traced_eq] at hdues
  exact ⟨last, hdues⟩

end Hub

/-- A hub behaves as one private bounded queue for each subscriber. All its outcomes are those of
the mailboxes; they are the same when the sweeps are left out; and whoever subscribes, receives what
is sent on its topic from then on, in order and each message once, but for those counted as
missed. -/
theorem hub_traced_eq_mailroom (settings : HubSettings) (events : List HubEvent) :
    traced Hub.perform { settings := settings } events =
        traced Mailroom.perform (.ofCapacity settings.channelCapacity) events ∧
      (traced Hub.perform { settings := settings } events).filter (·.1 ≠ .sweep) =
        traced Hub.perform { settings := settings } (events.filter (· ≠ .sweep)) ∧
      ∀ (name topic : String) (later : List HubEvent), (∀ e ∈ later, ¬ e.Renews name) →
        ∃ last, Dues name topic []
          (traced Hub.perform
            ((afterAll Hub.perform { settings := settings } events).subscribe name topic) later)
          last := by
  have sound := Hub.sound_new settings
  refine ⟨sound.traced_eq events, ?_, ?_⟩
  · rw [sound.traced_eq, sound.traced_eq, Mailroom.traced_filter_sweep]
  · intro name topic later hkept
    exact (sound.afterAll_mailroom events).1.dues_of_subscribe hkept

/-- A topic that its first subscriber leaves and a sweep takes away. -/
def abandoned : List HubEvent :=
  [.subscribe "first" "desk", .send "desk" "0", .unsubscribe "first", .send "desk" "1", .sweep]

/-- Five messages for a box of two. -/
def overrun : List HubEvent :=
  [.send "desk" "2", .send "desk" "3", .sweep, .send "desk" "4", .send "vu_desk" "ff",
    .send "desk" "5", .send "desk" "6", .receive "late", .receive "late", .close, .receive "late",
    .receive "late"]

theorem overrun_dues :
    ((traced Hub.perform
        ((afterAll Hub.perform { settings := { channelCapacity := 2 } } abandoned).subscribe "late"
          "desk") overrun).filterMap fun told => match told.2 with
            | .received found => found
            | _ => none) =
        [.lagged 3, .message ⟨"desk", "5"⟩, .message ⟨"desk", "6"⟩, .closed] ∧
      (∀ e ∈ overrun, ¬ e.Renews "late") ∧
      ∃ last, Dues "late" "desk" []
        (traced Hub.perform
          ((afterAll Hub.perform { settings := { channelCapacity := 2 } } abandoned).subscribe
            "late" "desk") overrun) last := by
  have kept : ∀ e ∈ overrun, ¬ e.Renews "late" := by decide
  have h := hub_traced_eq_mailroom { channelCapacity := 2 } abandoned
  exact ⟨by rfl, kept, h.2.2 "late" "desk" overrun kept⟩

end BroadcastLink
