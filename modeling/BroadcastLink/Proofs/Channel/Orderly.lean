import BroadcastLink.Proofs.Channel.Lifetime

/-!
# A notify channel lives in order

In every run of a channel, whatever becomes of its attempts and its connections and whenever it is
shut down, at most one connection is open, attempts begin just when the delay is over, and what is
reported is true. Once the first call to shut it down has returned, the channel is as it will always
be, and every call to write is told that nothing is written before time goes on.
-/

namespace BroadcastLink

namespace Lifetime

open Outlet (mainStudio)

variable {l l' l'' : Lifetime} {delay : Duration} {event : ChannelEvent}
  {occurrence : ChannelOccurrence} {call : CallId} {commands : List String}

/-! ## Nothing happens any more -/

/-- The channel has come to its end, and since then nothing was tried, made, written or published.
-/
structure Finished (l l' : Lifetime) : Prop where
  ended : l'.channel.listener = .over
  idles : l.channel.Idles l'.channel
  wires : l'.outlet.wires = l.outlet.wires
  attempts : l'.attempts = l.attempts

theorem Finished.trans (h : Finished l l') (h' : Finished l' l'') : Finished l l'' :=
  ⟨h'.ended, h.idles.trans h'.idles, h'.wires.trans h.wires, h'.attempts.trans h.attempts⟩

theorem stopped_of_sound (h : l.Sound delay) (hover : l.channel.listener = .over) :
    l.channel.Stopped :=
  Outlet.stopped_of_over h.outflow.guarded hover

/-- A listener that is over takes no turn. -/
theorem turn_of_stopped {s s' : Stance} {now : Instant} (hover : s.listener = .over)
    (hwriter : s.writer = none) (hturn : Stance.Turn now s s') : s' = s := by
  cases hturn with
  | same => rfl
  | severs => exact Stance.severed_of_none hwriter
  | opens line hlistener | greets left hlistener | waits hlistener | ends hlistener
  | dials deadline hlistener =>
    rw [hover] at hlistener
    contradiction
  | reports hlistener =>
    rw [hover] at hlistener
    rcases hlistener with ⟨rest, hgreeting⟩ | hinstalling <;> contradiction
  | leaves htrying =>
    rw [hover] at htrying
    contradiction
  | clears hbefore =>
    rw [hover] at hbefore
    rcases hbefore with htrying | hremoving <;> contradiction

theorem not_connected_of_over (h : l.Sound delay) (hover : l.channel.listener = .over) :
    l.channel.counters.connected = false := by
  have hfits : l.channel.stance.Fits l.now l.attempts.current := h.tracks.fits
  rw [Stance.Fits, show l.channel.stance.listener = .over from hover] at hfits
  exact hfits.2

/-- There are no more attempts, and nothing new is known of those there were. -/
theorem attemptsAfter_of_over (h : l.Sound delay) (hover : l.channel.listener = .over)
    (hnow : event.occursAt l.now = true) : l.attemptsAfter event = l.attempts := by
  have hwriter : l.channel.stance.writer = none := (stopped_of_sound h hover).writer
  have hfits : l.channel.stance.Fits l.now l.attempts.current := h.tracks.fits
  have hsame : l.attempts.note l.now l.channel.stance l.channel.stance = l.attempts := by
    rw [Attempts.note_of_same id, Stance.note_same hfits]
  have hstay : ∀ {s}, Stance.Turn l.now l.channel.stance s → s = l.channel.stance :=
    turn_of_stopped hover hwriter
  by_cases hexpired : ∃ instant, event = .listenerExpired instant
  · obtain ⟨instant, rfl⟩ := hexpired
    -- Neither an attempt nor a rest runs out of time.
    have hended := hstay (Channel.turn_dialExpired l.channel l.now)
    have hrested := Channel.turn_listenerRested (l.channel.dialExpired l.now) l.now
    rw [hended] at hrested
    rw [attemptsAfter, hended, hstay hrested, hsame, hsame]
  · have hturn := Channel.turn_perform l.channel hnow fun instant heq => hexpired ⟨instant, heq⟩
    rw [attemptsAfter_of_not_expired hexpired, hstay hturn, hsame]

theorem finished_step (h : l.Sound delay) (hover : l.channel.listener = .over)
    (occurrence : ChannelOccurrence) : Finished l (l.step occurrence) := by
  by_cases hadmits : l.Admits occurrence = true
  · cases occurrence with
    | passes later =>
      rw [step, if_pos hadmits]
      exact ⟨hover, Channel.idles_of_acts rfl, rfl, rfl⟩
    | happens event =>
      obtain ⟨hnow, -, houtlet⟩ := admits_happens hadmits
      have hstopped := stopped_of_sound h hover
      rw [step_happens hadmits, outlet_step houtlet]
      refine ⟨?_, hstopped.idles event, Outlet.wiresAfter_of_stopped hstopped event,
        attemptsAfter_of_over h hover hnow⟩
      by_cases hshutdown : ∃ call, event = .shutdown call
      · obtain ⟨call, rfl⟩ := hshutdown
        exact (Channel.onward_shutdown l.channel call trivial).ended hover
      · obtain ⟨call, hstops⟩ := stopsFor_perform l.channel fun call heq => hshutdown ⟨call, heq⟩
        exact (hstops.onward False).ended hover
  · rw [step_of_not_admits hadmits]
    exact ⟨hover, Channel.idles_of_acts rfl, rfl, rfl⟩

theorem finished_run (h : l.Sound delay) (hover : l.channel.listener = .over)
    (occurrences : List ChannelOccurrence) : Finished l (l.run occurrences) := by
  induction occurrences generalizing l with
  | nil => exact ⟨hover, Channel.idles_of_acts rfl, rfl, rfl⟩
  | cons occurrence occurrences ih =>
    have hstep := finished_step h hover occurrence
    exact hstep.trans (ih (h.step occurrence) hstep.ended)

/-! ## Calls to write -/

/-- A call to write waits for the lock, or was told that nothing of it was written. -/
def Awaits (call : CallId) (l l' : Lifetime) : Prop :=
  Channel.Refuses call l.channel l'.channel ∨
    l.channel.Idles l'.channel ∧ Channel.IsQueued call l'.channel

theorem awaits_send (h : l.Sound delay) (hover : l.channel.listener = .over)
    (hclean : ∀ command ∈ commands, breaksLine command = false) {now : Instant}
    (hadmits : l.Admits (.happens (.sendRealtime call commands now)) = true) :
    Awaits call l (l.step (.happens (.sendRealtime call commands now))) := by
  obtain ⟨-, -, houtlet⟩ := admits_happens hadmits
  rw [step_happens hadmits, outlet_step houtlet]
  exact ((stopped_of_sound h hover).sends call hclean now).imp_right fun hqueued =>
    ⟨Channel.idles_of_acts hqueued.1, hqueued.2⟩

/-- A number that waits is no number of a new call. -/
theorem not_admits_of_queued (hqueued : Channel.IsQueued call l.channel) :
    (∀ commands now, l.outlet.Admits (.sendRealtime call commands now) = false) ∧
      l.outlet.Admits (.shutdown call) = false := by
  obtain ⟨payload, hcall⟩ := hqueued
  have hhas : l.outlet.channel.calls.has call = true := by
    rw [Roster.has, show l.outlet.channel.calls.get? call = _ from hcall]
    rfl
  refine ⟨fun commands now => ?_, ?_⟩ <;> simp [Outlet.Admits, hhas]

theorem Awaits.step (hawaits : Awaits call l l') (h : l'.Sound delay)
    (hover : l'.channel.listener = .over) (hkept : occurrence ≠ .happens (.cancelCall call)) :
    Awaits call l (l'.step occurrence) := by
  by_cases hadmits : l'.Admits occurrence = true
  · cases occurrence with
    | passes later =>
      rw [Lifetime.step, if_pos hadmits]
      exact hawaits
    | happens event =>
      obtain ⟨-, -, houtlet⟩ := admits_happens hadmits
      have hstopped := stopped_of_sound h hover
      rw [step_happens hadmits, outlet_step houtlet]
      rcases hawaits with hrefused | ⟨hidles, hqueued⟩
      · exact .inl (hrefused.trans (hstopped.idles event))
      · obtain ⟨hsend, hshutdown⟩ := not_admits_of_queued hqueued
        have hnext : Channel.Refuses call l'.channel (l'.channel.perform event) ∨
            Channel.IsQueued call (l'.channel.perform event) :=
          hstopped.queued hqueued (fun heq => hkept (heq ▸ rfl))
            (fun commands now heq => by rw [heq, hsend commands now] at houtlet; contradiction)
            (fun heq => by rw [heq, hshutdown] at houtlet; contradiction)
        exact hnext.imp hidles.refuses fun hstill => ⟨hidles.trans (hstopped.idles event), hstill⟩
  · rw [step_of_not_admits hadmits]
    exact hawaits

theorem Awaits.run (hawaits : Awaits call l l') (h : l'.Sound delay)
    (hover : l'.channel.listener = .over) {occurrences : List ChannelOccurrence}
    (hkept : .happens (.cancelCall call) ∉ occurrences) :
    Awaits call l (l'.run occurrences) := by
  induction occurrences generalizing l' with
  | nil => exact hawaits
  | cons occurrence occurrences ih =>
    have hnext := hawaits.step h hover fun heq => hkept (heq ▸ List.mem_cons_self)
    exact ih hnext (h.step occurrence) (finished_step h hover occurrence).ended
      fun hmem => hkept (List.mem_cons_of_mem _ hmem)

/-- While a call waits to write where nothing can be written, somebody can go on. -/
theorem Awaits.refuses (hawaits : Awaits call l l') (h : l'.Sound delay)
    (hover : l'.channel.listener = .over) (hidle : l'.channel.isReady = false) :
    Channel.Refuses call l.channel l'.channel := by
  rcases hawaits with hrefused | ⟨-, payload, hcall⟩
  · exact hrefused
  · have huser : .call call ∈ l'.outlet.outflow.lock.users :=
      (h.outflow.guarded.calls call).mpr ⟨_, hcall, rfl⟩
    have hready := Outlet.isReady_of_user h.outflow.guarded h.prompt
      (stopped_of_sound h hover).writer huser
    exact absurd (hready.symm.trans hidle) (by decide)

/-- Once the channel has come to its end, every call to write commands without line breaks is told
that nothing was written, as soon as nobody can go on. -/
theorem refuses_run (h : l.Sound delay) (hover : l.channel.listener = .over)
    (hclean : ∀ command ∈ commands, breaksLine command = false) {now : Instant}
    (hadmits : l.Admits (.happens (.sendRealtime call commands now)) = true)
    {occurrences : List ChannelOccurrence} (hkept : .happens (.cancelCall call) ∉ occurrences)
    (hidle : (l.run (.happens (.sendRealtime call commands now) :: occurrences)).channel.isReady =
      false) :
    Channel.Refuses call l.channel
      (l.run (.happens (.sendRealtime call commands now) :: occurrences)).channel := by
  have hsent := finished_step h hover (.happens (.sendRealtime call commands now))
  have hawaits := (awaits_send h hover hclean hadmits).run (h.step _) hsent.ended hkept
  exact hawaits.refuses ((h.step _).run occurrences)
    (finished_run (h.step _) hsent.ended occurrences).ended hidle

/-! ## All runs -/

theorem mem_hungUp {c : Channel} {line : LineId} (h : line ∈ c.hungUp) : .hangUp line ∈ c.acts := by
  obtain ⟨act, hact, hline⟩ := List.mem_filterMap.mp h
  cases act with
  | hangUp other => exact Option.some.inj hline ▸ hact
  | wake | publish | sent | stopped => contradiction

theorem mem_stops {c : Channel} (h : .stopped call ∈ c.acts) : call ∈ c.stops :=
  List.mem_filterMap.mpr ⟨_, h, rfl⟩

/-- The first connection is no reconnection. -/
theorem toNat_reconnects (c : Counters) :
    c.stats.reconnects.toNat = c.connections.toNat - 1 := by
  rw [Counters.stats]
  split
  · rename_i hzero
    rw [hzero]
    rfl
  · rename_i hsome
    have hpos : 0 < c.connections.toNat :=
      Nat.pos_of_ne_zero fun hzero => hsome (UInt64.toNat_inj.mp hzero)
    exact UInt64.toNat_sub_of_le _ _ (UInt64.le_iff_toNat_le.mpr hpos)

/-- The life of a channel is in order in every run. A connection that is open is the one that the
current attempt came to, so there is at most one. Every attempt but the first begins just when the
delay is over since the one before had come to an end and its writer was gone. A channel is reported
connected by its current attempt only, and every connection that was ever reported carries the
greeting; reconnections are those connections but the first, modulo the size of the count. And once
the first call to shut the channel down has returned, then whatever happens the channel is not
connected, no attempt is made and nothing written or published, and whoever can go on is done when
he has: a call to write commands without line breaks, unless it is given up, is told that nothing
was written by the time that nobody can go on. -/
theorem run_orderly (id : ChannelId) (studio : Studio) (settings : ChannelSettings)
    (start : Instant) (occurrences : List ChannelOccurrence) :
    let l := (toStudio id studio settings start).run occurrences
    (∀ line, l.outlet.IsOpen line → l.attempts.current.line = some line) ∧
    l.attempts.all.IsChain (ConnectAttempt.Follows settings.reconnectDelay) ∧
    (l.channel.counters.connected = true → l.attempts.current.isReported = true) ∧
    (∀ a ∈ l.attempts.all, a.isReported = true →
      ∃ line, a.line = some line ∧ l.outlet.outflow.Greeted line) ∧
    l.channel.counters.stats.reconnects.toNat = l.attempts.reports % UInt64.size - 1 ∧
    ∀ closer, l.closer = some closer → .stopped closer ∈ l.channel.acts → ∀ later,
      let l' := l.run later
      l'.channel.counters.connected = false ∧ l'.attempts = l.attempts ∧
      l'.outlet.wires = l.outlet.wires ∧ l.channel.Idles l'.channel ∧
      (∀ call now, l'.channel.callReady call = true →
        (l'.channel.resumeCall call now).calls = l'.channel.calls.erase call) ∧
      ∀ call commands now, (∀ command ∈ commands, breaksLine command = false) →
        l'.Admits (.happens (.sendRealtime call commands now)) = true →
        ∀ last, .happens (.cancelCall call) ∉ last →
          let l'' := l'.run (.happens (.sendRealtime call commands now) :: last)
          l''.channel.isReady = false → Channel.Refuses call l'.channel l''.channel := by
  intro l
  have hsound : l.Sound settings.reconnectDelay :=
    (sound_toStudio id studio settings start).run occurrences
  have htracks := hsound.tracks
  refine ⟨fun line hopen => ?_, htracks.regular.spaced, htracks.fits.reported,
    htracks.regular.greeted, ?_, fun closer hcloser hstopped later => ?_⟩
  · rcases htracks.settled line hopen.1 with hholds | hgone
    · exact htracks.fits.held hholds
    · exact htracks.fits.held (hopen.2.resolve_right fun hkept => hkept (mem_hungUp hgone))
  · have hcounted : l.channel.counters.connections = UInt64.ofNat l.attempts.reports :=
      htracks.regular.counted
    rw [toNat_reconnects, hcounted, UInt64.toNat_ofNat']
  · have hover : l.channel.listener = .over :=
      (hsound.closing.told closer hcloser).2.2 (mem_stops hstopped)
    have hfinished := finished_run hsound hover later
    have hlater := hsound.run later
    exact ⟨not_connected_of_over hlater hfinished.ended, hfinished.attempts, hfinished.wires,
      hfinished.idles,
      fun call now hready => (stopped_of_sound hlater hfinished.ended).resumes hready now,
      fun call commands now hclean hadmits last hkept =>
        refuses_run hlater hfinished.ended hclean hadmits hkept⟩

/-- When the first rest of a channel with the usual settings is over. -/
def firstRest : Instant := ({} : ChannelSettings).reconnectDelay.after 0

/-- The first attempt is refused. The second one's connection is closed by the studio while a call
writes on it, and the channel is shut down when it is gone. -/
def refusedThenLost : List ChannelOccurrence :=
  [.happens (.dialled 0 (.error .refused)), .passes firstRest,
    .happens (.listenerExpired firstRest), .happens (.dialled firstRest (.ok 7)),
    .happens (.hearListener firstRest (.accepted 10)),
    .happens (.sendRealtime 1 ["a"] firstRest), .happens (.hearListener firstRest .ended),
    .happens (.hearWrite 1 (.accepted 2)), .happens (.resumeListener firstRest),
    .happens (.shutdown 2), .happens (.resumeListener firstRest),
    .happens (.resumeCall 2 firstRest)]

/-- The channel while the second attempt's connection is there. -/
def connectedLife : Lifetime := (toStudio 0 mainStudio {} 0).run (refusedThenLost.take 5)

/-- The channel once it has been shut down. -/
def finishedLife : Lifetime := (toStudio 0 mainStudio {} 0).run refusedThenLost

/-- While the connection is there, it is the second attempt's and was reported. Once the channel has
been shut down it is never connected again, and after another call to shut it down a call to write
is refused. -/
theorem refusedThenLost_orderly :
    (connectedLife.outlet.IsOpen 7 ∧ connectedLife.attempts.current.line = some 7) ∧
    (connectedLife.channel.counters.connected = true ∧
      connectedLife.attempts.current.isReported = true) ∧
    finishedLife.attempts.all =
      [⟨firstRest, some 7, true, some firstRest⟩, ⟨0, none, false, some 0⟩] ∧
    finishedLife.attempts.all.IsChain (ConnectAttempt.Follows (.ofSecs 10)) ∧
    (finishedLife.closer = some 2 ∧ .stopped 2 ∈ finishedLife.channel.acts) ∧
    (∀ later, (finishedLife.run later).channel.counters.connected = false) ∧
    Channel.Refuses 3 (finishedLife.run [.happens (.shutdown 4)]).channel
      ((finishedLife.run [.happens (.shutdown 4)]).run
        [.happens (.sendRealtime 3 ["b"] firstRest)]).channel := by
  have hopen : connectedLife.outlet.IsOpen 7 := ⟨by decide, .inl (.inl (by decide))⟩
  have hconnected : connectedLife.channel.counters.connected = true := by decide
  have hcloser : finishedLife.closer = some 2 := by decide
  have hstopped : .stopped 2 ∈ finishedLife.channel.acts := by decide
  obtain ⟨hcurrent, -, hreported, -⟩ := run_orderly 0 mainStudio {} 0 (refusedThenLost.take 5)
  obtain ⟨-, hspaced, -, -, -, hfinal⟩ := run_orderly 0 mainStudio {} 0 refusedThenLost
  have hend := hfinal 2 hcloser hstopped
  refine ⟨⟨hopen, hcurrent 7 hopen⟩, ⟨hconnected, hreported hconnected⟩, by decide, hspaced,
    ⟨hcloser, hstopped⟩, fun later => (hend later).1, ?_⟩
  obtain ⟨-, -, -, -, -, hrefuses⟩ := hend [.happens (.shutdown 4)]
  exact hrefuses 3 ["b"] firstRest (by decide) (by decide) [] List.not_mem_nil (by decide)

end Lifetime

end BroadcastLink
