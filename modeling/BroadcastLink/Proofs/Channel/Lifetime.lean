import BroadcastLink.Proofs.Channel.Attempts
import BroadcastLink.Proofs.Channel.Ending
import BroadcastLink.Proofs.Channel.Greeting
import BroadcastLink.Proofs.Channel.Stopped

/-!
# The life of a notify channel

A channel under a clock, watched from its first attempt to connect. Time passes only while nobody
can go on, and not beyond the end of an attempt or of a rest. What is noted of the attempts is true
of the channel in every run, and the first call to shut the channel down returns only when its
listener is over.
-/

namespace BroadcastLink

/-- What happens where a channel is used: time passes, or something happens to the channel. -/
inductive ChannelOccurrence where
  | passes (later : Instant)
  | happens (event : ChannelEvent)

/-- The call that begins with an event. -/
def ChannelEvent.call? : ChannelEvent → Option CallId
  | .sendRealtime call _ _ | .shutdown call => some call
  | _ => none

/-- A channel and what was written on its connections, the clock, what was noted of its attempts,
the numbers of the calls so far, and the call that shut it down first. -/
structure Lifetime where
  outlet : Outlet
  now : Instant
  attempts : Attempts
  used : List CallId := []
  closer : Option CallId := none

/-- A connection is open from when it is made until it is out of use and hung up. -/
def Outlet.IsOpen (o : Outlet) (line : LineId) : Prop :=
  o.wires.get? line ≠ none ∧ (o.channel.stance.Holds line ∨ .hangUp line ∉ o.channel.acts)

namespace Lifetime

/-- The life of a channel to a studio. -/
def toStudio (id : ChannelId) (studio : Studio) (settings : ChannelSettings) (now : Instant) :
    Lifetime where
  outlet := .toStudio id studio settings now
  now := now
  attempts := { current := { begunAt := now } }

/-- The channel itself. -/
def channel (l : Lifetime) : Channel := l.outlet.channel

/-- Time does not pass while somebody can go on, nor an alarm of the listener's; what happens to the
channel happens now, and every call and every connection has a number of its own. -/
def Admits (l : Lifetime) : ChannelOccurrence → Bool
  | .passes later =>
    l.now ≤ later && !l.channel.isReady && l.channel.listenerAlarm?.all (later ≤ ·.due)
  | .happens event => event.occursAt l.now && event.call?.all (· ∉ l.used) && l.outlet.Admits event

/-- What an event shows of the attempts. When the listener's stage runs out of time, an attempt may
end and the next one begin. -/
def attemptsAfter (l : Lifetime) (event : ChannelEvent) : Attempts :=
  match event with
  | .listenerExpired _ =>
    let ended := l.channel.dialExpired l.now
    (l.attempts.note l.now l.channel.stance ended.stance).note l.now ended.stance
      (ended.listenerRested l.now).stance
  | _ => l.attempts.note l.now l.channel.stance (l.channel.perform event).stance

/-- The call that shuts the channel down first. -/
def closerAfter (l : Lifetime) : ChannelEvent → Option CallId
  | .shutdown call => if l.channel.isCancelled then l.closer else some call
  | _ => l.closer

/-- One occurrence. What cannot happen does not. -/
def step (l : Lifetime) (occurrence : ChannelOccurrence) : Lifetime :=
  if l.Admits occurrence then
    match occurrence with
    | .passes later => { l with now := later }
    | .happens event =>
      { l with
        outlet := l.outlet.step event
        attempts := l.attemptsAfter event
        used := event.call?.toList ++ l.used
        closer := l.closerAfter event }
  else l

/-- Any number of occurrences. -/
def run (l : Lifetime) (occurrences : List ChannelOccurrence) : Lifetime :=
  occurrences.foldl step l

end Lifetime

/-! ## What is known of the attempts -/

namespace Outlet

variable {o o' : Outlet} {delay : Duration} {now : Instant} {a : Attempts} {line : LineId}

/-- The notes are true of the channel: the current attempt is what the listener is at, the attempts
are as they should be, and a connection that was made is in use or was hung up. -/
structure Tracks (o : Outlet) (delay : Duration) (now : Instant) (a : Attempts) : Prop where
  rests : o.channel.stance.delay = delay
  greets : o.outflow.Greets
  fits : o.channel.stance.Fits now a.current
  regular : a.Regular delay o.channel.stance.connections o.outflow.Greeted
  settled : ∀ line, o.wires.get? line ≠ none →
    o.channel.stance.Holds line ∨ line ∈ o.channel.stance.hungUp

theorem Tracks.turn (h : o.Tracks delay now a) (hguarded : o.outflow.Guarded)
    (hmoves : Outflow.Moves o.outflow o'.outflow)
    (hturn : Stance.Turn now o.channel.stance o'.channel.stance)
    (hmade : ∀ line, o'.wires.get? line ≠ none →
      o.wires.get? line ≠ none ∨ o'.channel.stance.Holds line) :
    o'.Tracks delay now (a.note now o.channel.stance o'.channel.stance) := by
  obtain rfl := h.rests
  have hgreets := h.greets.moves hguarded hmoves
  have hreading : ∀ line, o'.channel.stance.listener = .reading line → o'.outflow.Greeted line := by
    intro line hlistener
    rw [Outflow.Greets, show o'.outflow.listener = .reading line from hlistener] at hgreets
    exact hgreets
  have hregular := h.regular.goes (Attempts.goes_note h.fits hturn)
    (fun line hgreeted => hgreeted.moves hmoves) hreading
  refine ⟨hturn.delay, hgreets, Attempts.fits_note h.fits hturn, hregular, fun line hline => ?_⟩
  rcases hmade line hline with hbefore | hholds
  · exact h.fits.hangsUp hturn (h.settled line hbefore)
  · exact .inl hholds

theorem made_of_modify {f : Outgoing → Outgoing} {other : LineId}
    (h : (o.wires.modify other f).get? line ≠ none) : o.wires.get? line ≠ none := by
  rw [Roster.get?_modify] at h
  split at h
  · exact fun hnone => h (by rw [hnone]; rfl)
  · exact h

/-- A connection is made for the listener to greet. -/
theorem made_perform (o : Outlet) (event : ChannelEvent) (line : LineId)
    (h : (o.wiresAfter event).get? line ≠ none) :
    o.wires.get? line ≠ none ∨ (o.channel.perform event).stance.Holds line := by
  have hentered : ∀ call, (o.enteredAfter event call).get? line ≠ none →
      o.wires.get? line ≠ none := fun call hmade => by
    unfold enteredAfter at hmade
    split at hmade
    · exact made_of_modify hmade
    · exact hmade
  unfold wiresAfter at h
  split at h
  · rename_i instant other
    split at h
    · rename_i hlistener
      rw [Roster.get?_put] at h
      split at h
      · rename_i hsame
        obtain rfl := hsame
        right
        left
        unfold Channel.perform Channel.dialled
        dsimp only
        rw [hlistener]
        rfl
      · exact .inl h
    · exact .inl h
  · split at h
    · exact .inl (made_of_modify h)
    · exact .inl h
  · split at h
    · exact .inl (made_of_modify h)
    · exact .inl h
  · split at h
    · exact .inl (made_of_modify h)
    · exact .inl h
  · exact .inl (hentered _ h)
  · exact .inl (hentered _ h)
  · exact .inl h

theorem tracks_toStudio (id : ChannelId) (studio : Studio) (settings : ChannelSettings)
    (now : Instant) :
    (toStudio id studio settings now).Tracks settings.reconnectDelay now
      { current := { begunAt := now } } where
  rests := rfl
  greets := trivial
  fits := ⟨rfl, rfl, rfl, rfl, rfl⟩
  regular := by
    refine ⟨.singleton _, rfl, fun b hb hreported => ?_⟩
    obtain rfl := List.mem_singleton.mp hb
    contradiction
  settled := fun line hline => absurd rfl hline

/-- While nobody can go on, and until the listener has rested, time changes nothing. -/
theorem Tracks.pass (h : o.Tracks delay now a) (hguarded : o.outflow.Guarded)
    (hprompt : o.channel.lock.Prompt) (hidle : o.channel.isReady = false) {later : Instant}
    (halarm : ∀ alarm, o.channel.listenerAlarm? = some alarm → later ≤ alarm.due) :
    o.Tracks delay later a := by
  refine ⟨h.rests, h.greets, ?_, h.regular, h.settled⟩
  have hfits := h.fits
  unfold Stance.Fits at hfits ⊢
  cases hlistener : o.channel.stance.listener with
  | dialling | greeting | installing | reading | «over» =>
    rw [hlistener] at hfits
    exact hfits
  | removing =>
    rw [hlistener] at hfits
    refine ⟨hfits.1, fun hwriter => ?_, hfits.2.2⟩
    -- The listener only waits for the lock while somebody writes.
    have huses : .listener ∈ o.outflow.lock.users :=
      hguarded.listener.mpr (by rw [show o.outflow.listener = .removing from hlistener]; rfl)
    rw [isReady_of_user hguarded hprompt hwriter huses] at hidle
    contradiction
  | resting wakeAt =>
    rw [hlistener] at hfits
    have hdue : later ≤ wakeAt := halarm ⟨wakeAt, .pause⟩ (by
      rw [Channel.listenerAlarm?, show o.channel.listener = .resting wakeAt from hlistener])
    exact ⟨hfits.1, hfits.2.1, hdue, hfits.2.2.2⟩

end Outlet

namespace Lifetime

variable {l l' : Lifetime} {delay : Duration} {event : ChannelEvent} {call : CallId}

/-! ## Shutting down -/

/-- The first call to shut the channel down is told only when the listener is over. -/
structure Closing (l : Lifetime) : Prop where
  ended : l.channel.listener = .over → l.channel.isCancelled = true
  untold : l.channel.isCancelled = false → l.closer = none ∧ l.channel.stops = []
  told : ∀ call, l.closer = some call → l.channel.isCancelled = true ∧ call ∈ l.used ∧
    (call ∈ l.channel.stops → l.channel.listener = .over)

/-- Whatever happens but a call to shut down leaves the channel on its course, or tells a call that
the channel has stopped. -/
theorem stopsFor_perform (c : Channel) (hevent : ∀ call, event ≠ .shutdown call) :
    ∃ call, Channel.StopsFor call c (c.perform event) := by
  cases event with
  | dialled instant outcome => exact ⟨0, .inl (Channel.keeps_dialled c instant outcome)⟩
  | hearListener instant stimulus => exact ⟨0, .inl (Channel.keeps_hearListener c instant stimulus)⟩
  | listenerExpired instant => exact ⟨0, .inl (Channel.keeps_listenerExpired c instant)⟩
  | resumeListener instant => exact ⟨0, .inl (Channel.keeps_resumeListener c instant)⟩
  | sendRealtime call commands instant =>
    refine ⟨0, .inl ?_⟩
    rw [Channel.perform]
    split
    · rename_i d hsent
      exact Channel.keeps_sendRealtime hsent
    · exact ⟨rfl, id, .inl⟩
  | hearWrite call stimulus => exact ⟨0, .inl (Channel.keeps_hearWrite c call stimulus)⟩
  | writeExpired call instant => exact ⟨0, .inl (Channel.keeps_writeExpired c call instant)⟩
  | resumeCall call instant => exact ⟨call, Channel.stopsFor_resumeCall c call instant⟩
  | cancelCall call => exact ⟨0, .inl (Channel.keeps_cancelCall c call)⟩
  | shutdown call => exact absurd rfl (hevent call)

theorem stops_of_stopsFor {c d : Channel} (h : Channel.StopsFor call c d) {other : CallId}
    (hmem : other ∈ d.stops) : other ∈ c.stops ∨ d.listener = .over := by
  rcases h with hkeeps | ⟨hover, -⟩
  · exact .inl (hkeeps.stops ▸ hmem)
  · exact .inr hover

theorem Closing.goesOn (h : l.Closing) (hstops : Channel.StopsFor call l.channel l'.channel)
    (hused : ∀ c ∈ l.used, c ∈ l'.used) (hcloser : l'.closer = l.closer) : l'.Closing := by
  have honward := hstops.onward False
  have hended : l'.channel.listener = .over → l'.channel.isCancelled = true := fun hover =>
    (honward.due hover).elim (fun hwas => honward.cancelled (h.ended hwas)) id
  refine ⟨hended, fun hlive => ?_, fun c hc => ?_⟩
  · have hbefore : l.channel.isCancelled = false := by
      cases hwas : l.channel.isCancelled with
      | false => rfl
      | true => exact (honward.cancelled hwas).symm.trans hlive
    obtain ⟨hnone, hnobody⟩ := h.untold hbefore
    refine ⟨hcloser.trans hnone, ?_⟩
    rcases hstops with hkeeps | ⟨hover, -⟩
    · exact hkeeps.stops.trans hnobody
    -- A listener is over only in a channel that was cancelled, so nobody is told before.
    · exact absurd ((hended hover).symm.trans hlive) (by decide)
  · obtain ⟨hcancelled, hmine, hover⟩ := h.told c (hcloser ▸ hc)
    refine ⟨honward.cancelled hcancelled, hused c hmine, fun hmem => ?_⟩
    exact (stops_of_stopsFor hstops hmem).elim (fun hwas => honward.ended (hover hwas)) id

/-- A call to shut down is the first, or it is told at once and has another number. -/
theorem Closing.shutdown (h : l.Closing) (hnew : call ∉ l.used)
    (hchannel : l'.channel = l.channel.shutdown call) (hused : l'.used = call :: l.used)
    (hcloser : l'.closer = if l.channel.isCancelled then l.closer else some call) : l'.Closing := by
  have hcancelled : l'.channel.isCancelled = true :=
    hchannel ▸ Channel.isCancelled_shutdown l.channel call
  refine ⟨fun _ => hcancelled, fun hlive => ?_, fun c hc => ?_⟩
  · exact absurd (hcancelled.symm.trans hlive) (by decide)
  · refine ⟨hcancelled, ?_⟩
    cases hwas : l.channel.isCancelled with
    | true =>
      rw [hcloser, if_pos hwas] at hc
      obtain ⟨-, hmine, hover⟩ := h.told c hc
      rw [hchannel, hused, Channel.shutdown, if_pos hwas]
      -- Only this call is told at once, and the first one has another number.
      refine ⟨List.mem_cons_of_mem call hmine, fun hmem => hover ?_⟩
      have hne : c ≠ call := fun heq => hnew (heq ▸ hmine)
      rw [Channel.stops, Channel.ask, List.filterMap_append] at hmem
      exact (List.mem_append.mp hmem).resolve_right fun hlast =>
        hne (List.mem_singleton.mp hlast)
    | false =>
      rw [hcloser, if_neg (by simp [hwas])] at hc
      obtain rfl := Option.some.inj hc
      rw [hused]
      refine ⟨List.mem_cons_self, fun hmem => ?_⟩
      rw [hchannel] at hmem ⊢
      have hnobody : Channel.stops { l.channel with isCancelled := true } = [] := (h.untold hwas).2
      exact ((Channel.stopsFor_shutdown l.channel call hwas).tells hnobody hmem).2

/-! ## Runs -/

/-- Everything that holds of a channel in every state that it comes to. -/
structure Sound (l : Lifetime) (delay : Duration) : Prop where
  outflow : l.outlet.outflow.Sound
  prompt : l.channel.lock.Prompt
  tracks : l.outlet.Tracks delay l.now l.attempts
  closing : l.Closing

theorem sound_toStudio (id : ChannelId) (studio : Studio) (settings : ChannelSettings)
    (now : Instant) : (toStudio id studio settings now).Sound settings.reconnectDelay where
  outflow := Outlet.sound_toStudio id studio settings now
  prompt := fun _ => rfl
  tracks := Outlet.tracks_toStudio id studio settings now
  closing := ⟨fun hover => by contradiction, fun _ => ⟨rfl, rfl⟩, fun _ hc => by contradiction⟩

theorem admits_happens (h : l.Admits (.happens event) = true) :
    event.occursAt l.now = true ∧ (∀ call, event.call? = some call → call ∉ l.used) ∧
      l.outlet.Admits event = true := by
  rw [Admits, Bool.and_eq_true, Bool.and_eq_true] at h
  refine ⟨h.1.1, fun call hcall => ?_, h.2⟩
  have hnew := h.1.2
  rw [hcall] at hnew
  exact of_decide_eq_true hnew

theorem admits_passes {later : Instant} (h : l.Admits (.passes later) = true) :
    l.channel.isReady = false ∧
      ∀ alarm, l.channel.listenerAlarm? = some alarm → later ≤ alarm.due := by
  rw [Admits, Bool.and_eq_true, Bool.and_eq_true, Bool.not_eq_true'] at h
  refine ⟨h.1.2, fun alarm halarm => ?_⟩
  have hdue := h.2
  rw [halarm] at hdue
  exact of_decide_eq_true hdue

theorem step_happens (h : l.Admits (.happens event) = true) :
    l.step (.happens event) =
      { l with
        outlet := l.outlet.step event
        attempts := l.attemptsAfter event
        used := event.call?.toList ++ l.used
        closer := l.closerAfter event } := by
  rw [step, if_pos h]

theorem step_of_not_admits {occurrence : ChannelOccurrence} (h : ¬ l.Admits occurrence = true) :
    l.step occurrence = l := by
  unfold step
  rw [if_neg h]

/-- What the outlet is once something happened. -/
theorem outlet_step (hadmits : l.outlet.Admits event = true) :
    l.outlet.step event =
      ⟨l.channel.perform event, l.outlet.askedAfter event, l.outlet.wiresAfter event⟩ := by
  rw [Outlet.step, if_pos hadmits]
  rfl

theorem attemptsAfter_of_not_expired (h : ¬ ∃ instant, event = .listenerExpired instant) :
    l.attemptsAfter event =
      l.attempts.note l.now l.channel.stance (l.channel.perform event).stance := by
  cases event <;> first | rfl | exact absurd ⟨_, rfl⟩ h

/-- When the listener's stage runs out of time, the attempt may end and the next one begin, so the
channel is looked at in between. -/
theorem Sound.tracks_expired (h : l.Sound delay) :
    (l.outlet.step (.listenerExpired l.now)).Tracks delay l.now
      (l.attemptsAfter (.listenerExpired l.now)) := by
  have hmoves : Outflow.Moves l.outlet.outflow
      ((l.channel.dialExpired l.now).outflow l.outlet.asked l.outlet.wires) :=
    Channel.moves_dialExpired l.channel l.now
  have hended : Outlet.Tracks { l.outlet with channel := l.channel.dialExpired l.now } delay
      l.now _ :=
    h.tracks.turn h.outflow.guarded hmoves (Channel.turn_dialExpired l.channel l.now)
      fun line hline => .inl hline
  rw [outlet_step rfl]
  exact hended.turn (h.outflow.moves hmoves).guarded
    (Channel.moves_listenerRested (l.channel.dialExpired l.now) l.now)
    (Channel.turn_listenerRested (l.channel.dialExpired l.now) l.now) fun line hline => .inl hline

theorem Sound.tracks_step (h : l.Sound delay) (hadmits : l.Admits (.happens event) = true) :
    (l.outlet.step event).Tracks delay l.now (l.attemptsAfter event) := by
  obtain ⟨hnow, -, houtlet⟩ := admits_happens hadmits
  by_cases hexpired : ∃ instant, event = .listenerExpired instant
  · obtain ⟨instant, rfl⟩ := hexpired
    obtain rfl : instant = l.now := beq_iff_eq.mp hnow
    exact h.tracks_expired
  · have hturn := Channel.turn_perform l.channel hnow fun instant heq => hexpired ⟨instant, heq⟩
    have hmoves := Outlet.moves_step (Outlet.connected_of_guarded h.outflow.guarded) event
    rw [outlet_step houtlet] at hmoves ⊢
    rw [attemptsAfter_of_not_expired hexpired]
    exact h.tracks.turn h.outflow.guarded hmoves hturn (Outlet.made_perform l.outlet event)

theorem Sound.closing_step (h : l.Sound delay) (hadmits : l.Admits (.happens event) = true) :
    (l.step (.happens event)).Closing := by
  obtain ⟨-, hnew, houtlet⟩ := admits_happens hadmits
  have hstep := step_happens hadmits
  have hchannel : (l.step (.happens event)).channel = l.channel.perform event := by
    rw [hstep]
    exact congrArg Outlet.channel (outlet_step houtlet)
  by_cases hshutdown : ∃ call, event = .shutdown call
  · obtain ⟨call, rfl⟩ := hshutdown
    refine h.closing.shutdown (hnew call rfl) hchannel ?_ ?_ <;> rw [hstep] <;> rfl
  · obtain ⟨call, hstops⟩ :=
      stopsFor_perform l.channel fun call heq => hshutdown ⟨call, heq⟩
    refine h.closing.goesOn (hchannel ▸ hstops) (fun c hc => ?_) ?_
    · rw [hstep]
      exact List.mem_append_right _ hc
    · rw [hstep]
      cases event <;> first | rfl | exact absurd ⟨_, rfl⟩ hshutdown

/-- One occurrence. -/
theorem Sound.step (h : l.Sound delay) (occurrence : ChannelOccurrence) :
    (l.step occurrence).Sound delay := by
  by_cases hadmits : l.Admits occurrence = true
  · cases occurrence with
    | passes later =>
      obtain ⟨hidle, halarm⟩ := admits_passes hadmits
      rw [Lifetime.step, if_pos hadmits]
      exact ⟨h.outflow, h.prompt, h.tracks.pass h.outflow.guarded h.prompt hidle halarm,
        ⟨h.closing.ended, h.closing.untold, h.closing.told⟩⟩
    | happens event =>
      have hclosing := h.closing_step hadmits
      have htracks := h.tracks_step hadmits
      have hmoves := Outlet.moves_step (Outlet.connected_of_guarded h.outflow.guarded) event
      rw [step_happens hadmits] at hclosing ⊢
      exact ⟨Outlet.sound_step h.outflow event, Outflow.prompt_moves h.prompt hmoves, htracks,
        hclosing⟩
  · rw [step_of_not_admits hadmits]
    exact h

theorem Sound.run (h : l.Sound delay) (occurrences : List ChannelOccurrence) :
    (l.run occurrences).Sound delay := by
  induction occurrences generalizing l with
  | nil => exact h
  | cons occurrence occurrences ih => exact ih (h.step occurrence)

end Lifetime

end BroadcastLink
