import BroadcastLink.Proofs.Pool.Lending
import BroadcastLink.Proofs.Session.Vetting
import Mathlib.Data.List.Induction

/-!
# Only sound sessions are lent

A session that a call gets was opened for it or has just passed its check, made by this very call.
A session that was harmed cannot become idle again, so it is never kept and never lent; and one that
is gone does not come back, since every connection comes in once.
-/

namespace BroadcastLink

/-- Fit to be lent: idle, with a place, and nothing in its past can have harmed it. -/
structure Session.Sound (s : Session) : Prop where
  idle : s.state = .idle
  placed : s.pool ≠ none
  unharmed : ¬ s.Harmed

theorem Session.sound_of_idle {s : Session} (hstate : s.state = .idle) (hpool : s.pool ≠ none) :
    s.Sound :=
  ⟨hstate, hpool, fun hharmed => hharmed.spoiled.not_idle hstate⟩

/-- What the session under check for the call is told. -/
def PoolEvent.heardBy (call : CallId) (event : PoolEvent) : Option (Instant × Stimulus) :=
  event.heard?.bind fun told => if told.1 = call then some told.2 else none

/-- What the session under check for the call is told in all. -/
def PoolEvent.allHeardBy (call : CallId) (events : List PoolEvent) : List (Instant × Stimulus) :=
  events.filterMap (heardBy call)

theorem PoolEvent.heardBy_of_heard {event : PoolEvent} {call : CallId} {now : Instant}
    {stimulus : Stimulus} (h : event.heard? = some (call, now, stimulus)) :
    event.heardBy call = some (now, stimulus) := by
  rw [heardBy, h, Option.bind_some, if_pos rfl]

theorem PoolEvent.heardBy_of_unheard {event : PoolEvent} {call : CallId}
    (h : ∀ now stimulus, event.heard? ≠ some (call, now, stimulus)) :
    event.heardBy call = none := by
  rw [heardBy]
  rcases hheard : event.heard? with _ | ⟨c, now, stimulus⟩
  · rfl
  · rw [Option.bind_some, if_neg]
    rintro rfl
    exact h now stimulus hheard

/-- What is read off the last event joins what is read off the others. -/
theorem PoolEvent.filterMap_concat {α : Type} (read : PoolEvent → Option α)
    (events : List PoolEvent) (event : PoolEvent) :
    (events ++ [event]).filterMap read = events.filterMap read ++ (read event).toList := by
  rw [List.filterMap_append]
  cases h : read event <;> simp [h]

theorem PoolEvent.allHeardBy_concat (call : CallId) (events : List PoolEvent) (event : PoolEvent) :
    allHeardBy call (events ++ [event]) =
      allHeardBy call events ++ (event.heardBy call).toList :=
  filterMap_concat (heardBy call) events event

/-- In a session of another pool that comes in, no search passes over a mark. -/
def PoolEvent.KeepsMarks (event : PoolEvent) : Prop :=
  ∀ guest, event.guest? = some guest → guest.responses.Searched

namespace Pool

/-- The session that a call gets with an event. -/
def Lends (p : Pool) (event : PoolEvent) (call : CallId) (s : Session) : Prop :=
  p.loans.get? call = none ∧ (p.perform event).loans.get? call = some s

/-- The session was opened for the call, with the event. -/
def OpenedFor (p : Pool) (event : PoolEvent) (call : CallId) (s : Session) : Prop :=
  ∃ id until_ deadline counts now line, event = .dialled call now (.ok line) ∧
    p.borrows.get? call = some ⟨.dialling id until_, deadline, counts⟩ ∧
    s = p.openedSession id line now

/-- A call begins to check an idle session, on which no search passed over a mark, and has it under
check from then on: the session is what the check has made of it. -/
structure Vets (p : Pool) (call : CallId) (earlier : List PoolEvent) (start : PoolEvent)
    (during : List PoolEvent) (found : Session) : Prop where
  caller : start.caller? = some call
  idle : found ∈ (p.run earlier).idle
  searched : (∀ event ∈ earlier, event.KeepsMarks) → found.responses.Searched
  underCheck : ∀ part, part <+: during →
    (p.run (earlier ++ start :: part)).underCheck? call =
      some (found.vetting p.settings.validationTimeout (PoolEvent.allHeardBy call part)).session

/-- The call has checked the session, which passes with the event. -/
def VettedFor (p : Pool) (before : List PoolEvent) (event : PoolEvent) (call : CallId)
    (s : Session) : Prop :=
  ∃ earlier start during found now stimulus,
    before = earlier ++ start :: during ∧ p.Vets call earlier start during found ∧
      event.heardBy call = some (now, stimulus) ∧
      found.Passes p.settings.validationTimeout (PoolEvent.allHeardBy call during) now stimulus s

/-- The event puts an end to the session on the line: it is harmed, or it was before it came in, or
it is gone. -/
inductive Ruined (p : Pool) (event : PoolEvent) : LineId → Prop where
  | harmed {s : Session} {e : SessionEvent} (htold : p.told event = some (s, e))
    (hharm : s.Harm e) : Ruined p event s.line
  | guest {s : Session} (hguest : event.guest? = some s) (hharmed : s.Harmed) :
    Ruined p event s.line
  | gone {s : Session} (hs : s ∈ p.sessions)
      (hgone : ∀ t ∈ (p.perform event).sessions, t.line ≠ s.line) : Ruined p event s.line

variable {p q : Pool} {call : CallId} {s t : Session} {event : PoolEvent} {line : LineId}

/-! ## Searches for marks -/

/-- No search on a session of the pool passes over a mark. -/
def Tidy (p : Pool) : Prop := ∀ s ∈ p.sessions, s.responses.Searched

theorem searched_of_arrival (hkeeps : event.KeepsMarks) (h : p.arrival event = some s) :
    s.responses.Searched := by
  rcases opened_or_guest_of_arrival h with ⟨-, id, line, now, -, rfl⟩ | hguest
  · exact ResponseBuffer.searched_of_scanned_zero rfl
  · exact hkeeps s hguest

theorem Tidy.perform (h : p.Tidy) (hapart : p.Apart) (hkeeps : event.KeepsMarks) :
    (p.perform event).Tidy := by
  refine forall_perform hapart (fun s s' timeout hs hcheck => ?_)
    (fun s e _ hs => Session.searched_undergo hs e) (fun s => searched_of_arrival hkeeps) h
  obtain ⟨-, rfl⟩ := Session.of_check_inFlight hcheck
  exact hs

theorem Tidy.run (h : p.Tidy) (hnew : p.InOrder) {events : List PoolEvent}
    (hkeep : ∀ event ∈ events, event.KeepsMarks) : (p.run events).Tidy := by
  induction events generalizing p with
  | nil => exact h
  | cons event rest ih =>
    exact ih (h.perform hnew.apart (hkeep event List.mem_cons_self)) (hnew.perform event)
      fun e he => hkeep e (List.mem_cons_of_mem event he)

/-! ## Sessions under check -/

/-- A check goes on as long as the session is what the check has made of it. -/
theorem Vets.goesOn {earlier during : List PoolEvent} {start : PoolEvent} {found : Session}
    (h : p.Vets call earlier start during found)
    (hnow : (p.run (earlier ++ start :: (during ++ [event]))).underCheck? call =
      some (found.vetting p.settings.validationTimeout
        (PoolEvent.allHeardBy call (during ++ [event]))).session) :
    p.Vets call earlier start (during ++ [event]) found := by
  refine ⟨h.caller, h.idle, h.searched, fun part hpart => ?_⟩
  rcases List.prefix_concat_iff.mp hpart with rfl | hpart
  · exact hnow
  · exact h.underCheck part hpart

/-- The session that a call has under check has been checked since it was taken from the idle
ones. -/
theorem vets_of_underCheck (hnew : p.InOrder) (hnone : p.borrows = {}) (htidy : p.Tidy)
    (events : List PoolEvent) : ∀ {call t}, (p.run events).underCheck? call = some t →
      ∃ earlier start during found, events = earlier ++ start :: during ∧
        p.Vets call earlier start during found ∧
        found.UnderVetting p.settings.validationTimeout (PoolEvent.allHeardBy call during) := by
  -- By induction on the events, the last one first: it began the check, or the check goes on.
  induction events using List.reverseRecOn with
  | nil =>
    intro call t ht
    rw [show p.run [] = p from rfl, underCheck?, hnone] at ht
    contradiction
  | append_singleton events event ih =>
    intro call t ht
    rw [run_concat] at ht
    cases checkOrigin_perform (hnew.run events).apart ht with
    | same hs hunheard =>
      obtain ⟨earlier, start, during, found, hevents, hvets, hunder⟩ := ih hs
      have hbefore := hvets.underCheck during (List.prefix_refl _)
      have hheard := PoolEvent.allHeardBy_concat call during event
      rw [PoolEvent.heardBy_of_unheard hunheard, Option.toList_none, List.append_nil] at hheard
      have hwhole : events ++ [event] = earlier ++ start :: (during ++ [event]) := by
        rw [hevents, List.append_assoc, List.cons_append]
      refine ⟨earlier, start, during ++ [event], found, hwhole, hvets.goesOn ?_, ?_⟩
      · rw [← hwhole, run_concat, ht, hheard, ← hbefore, ← hevents, hs]
      · rwa [hheard]
    | @heard s now stimulus hheard hs hreact =>
      obtain ⟨earlier, start, during, found, hevents, hvets, hunder⟩ := ih hs
      have hbefore := hvets.underCheck during (List.prefix_refl _)
      rw [← hevents, hs] at hbefore
      obtain rfl := Option.some.inj hbefore
      have hlast := PoolEvent.allHeardBy_concat call during event
      rw [PoolEvent.heardBy_of_heard hheard, Option.toList_some] at hlast
      have hwhole : events ++ [event] = earlier ++ start :: (during ++ [event]) := by
        rw [hevents, List.append_assoc, List.cons_append]
      refine ⟨earlier, start, during ++ [event], found, hwhole, hvets.goesOn ?_, ?_⟩
      · rw [← hwhole, run_concat, ht, hlast, Session.session_vetting_append, hreact]
      · rw [hlast]
        exact (hunder.react now stimulus).1 (by rw [hreact])
    | @found s hcaller hs hcheck =>
      rw [(restocks_run p events).settings] at hcheck
      obtain ⟨hunder, hsession⟩ := Session.underVetting_begun hcheck
      refine ⟨events, event, [], s, rfl, ⟨hcaller, hs, fun hkeep => ?_, fun part hpart => ?_⟩,
        hunder⟩
      · exact htidy.run hnew hkeep s (List.mem_append_left _ (List.mem_append_left _ hs))
      rw [List.prefix_nil.mp hpart, run_concat, ht]
      exact congrArg some hsession.symm

/-- A session that a call gets is sound, and was opened for the call or vetted by it. -/
theorem sound_of_lends (hnew : p.InOrder) (hnone : p.borrows = {}) (hidle : p.idle = [])
    (htidy : p.Tidy) {before : List PoolEvent} (h : (p.run before).Lends event call s) :
    s.Sound ∧ ((p.run before).OpenedFor event call s ∨ p.VettedFor before event call s) := by
  obtain ⟨hfree, hlent⟩ := h
  cases loanOrigin_perform hlent with
  | same hs =>
    rw [hfree] at hs
    contradiction
  | used hused hs ht =>
    rw [hfree] at hs
    contradiction
  | opened hevent hb ht =>
    refine ⟨?_, .inl ⟨_, _, _, _, _, _, hevent, hb, ht⟩⟩
    rw [ht]
    exact Session.sound_of_idle rfl (Option.some_ne_none _)
  | @passed u now stimulus text hheard hs hreact =>
    obtain ⟨earlier, start, during, found, hevents, hvets, hunder⟩ :=
      vets_of_underCheck hnew hnone htidy before hs
    have hbefore := hvets.underCheck during (List.prefix_refl _)
    rw [← hevents, hs] at hbefore
    obtain rfl := Option.some.inj hbefore
    have hpasses := (hunder.react now stimulus).2 text (by rw [hreact])
    rw [hreact] at hpasses
    have hlater := Session.later_vetting found p.settings.validationTimeout
      (PoolEvent.allHeardBy call during ++ [(now, stimulus)])
    -- The session still takes up the place that it did among the idle ones.
    rw [hpasses.session] at hlater
    refine ⟨Session.sound_of_idle hpasses.idle ?_, .inr ⟨earlier, start, during, found, now,
      stimulus, hevents, hvets, PoolEvent.heardBy_of_heard hheard, hpasses⟩⟩
    rw [hlater.pool]
    exact (fit_of_idle_run hidle earlier hvets.idle).2

/-! ## Each connection comes in once -/

theorem line_of_guest (h : event.guest? = some s) : event.line? = some s.line := by
  cases event with
  | takeGuest | destroyGuest =>
    rw [← Option.some.inj h]
    rfl
  | _ => contradiction

theorem line_of_arrival (h : p.arrival event = some s) : event.line? = some s.line := by
  rcases opened_or_guest_of_arrival h with ⟨-, id, line, now, hline, rfl⟩ | hguest
  · exact hline
  · exact line_of_guest hguest

theorem guest_of_arrival (hguest : event.guest? = some s) (h : p.arrival event = some t) :
    t = s := by
  rcases opened_or_guest_of_arrival h with ⟨hnone, -⟩ | hsame
  · rw [hguest] at hnone
    contradiction
  · exact Option.some.inj (hsame.symm.trans hguest)

/-- An event brings at most its own connection in. -/
theorem lines_perform (h : p.Apart) (event : PoolEvent) :
    ((p.perform event).sessions : Multiset Session).map Session.line ≤
      ↑event.line?.toList + (p.sessions : Multiset Session).map Session.line := by
  refine (dwindles_perform h event).lines_le.trans ?_
  cases htold : p.told event with
  | some told =>
    obtain ⟨s, e⟩ := told
    have hs : s ∈ (p.sessions : Multiset Session) := mem_sessions_of_told htold
    rw [present_of_told htold, Multiset.map_cons, (Session.later_undergo s e).line,
      ← Multiset.map_cons, Multiset.cons_erase hs]
    exact Multiset.le_add_left _ _
  | none =>
    cases harrival : p.arrival event with
    | none =>
      rw [present_of_none htold harrival]
      exact Multiset.le_add_left _ _
    | some s =>
      rw [present_of_arrival htold harrival, line_of_arrival harrival, Multiset.map_cons]
      exact le_rfl

/-- The connections of a pool that began without sessions came in one after another. -/
theorem lines_run (hnew : p.InOrder) (hnone : p.sessions = []) (events : List PoolEvent) :
    ((p.run events).sessions : Multiset Session).map Session.line ≤
      ↑(events.filterMap PoolEvent.line?) := by
  induction events using List.reverseRecOn with
  | nil =>
    rw [show p.run [] = p from rfl, hnone]
    exact Multiset.zero_le _
  | append_singleton events event ih =>
    rw [run_concat, PoolEvent.filterMap_concat, ← Multiset.coe_add, add_comm]
    exact (lines_perform (hnew.run events).apart event).trans (add_le_add_right ih _)

/-! ## Sessions at work -/

/-- No session under check or lent is idle while an exchange is in flight on it. -/
structure Busy (p : Pool) : Prop where
  checks : ∀ call s, p.underCheck? call = some s → s.Steady
  loans : ∀ call s, p.loans.get? call = some s → s.Steady

theorem Busy.perform (h : p.Busy) (hapart : p.Apart) (event : PoolEvent) :
    (p.perform event).Busy := by
  refine ⟨fun call t ht => ?_, fun call t ht => ?_⟩
  · cases checkOrigin_perform hapart ht with
    | same hs => exact h.checks call t hs
    | @heard s now stimulus hheard hs hreact =>
      have hsteady := (h.checks call s hs).undergo (.hear now stimulus)
      rwa [Session.undergo, hreact] at hsteady
    | found hcaller hs hcheck =>
      obtain ⟨-, rfl⟩ := Session.of_check_inFlight hcheck
      exact fun _ => SessionState.noConfusion
  · cases loanOrigin_perform ht with
    | same hs => exact h.loans call t hs
    | used hused hs heq =>
      rw [heq]
      exact (h.loans call _ hs).undergo _
    | @passed s now stimulus text hheard hs hreact =>
      have hrest := Session.endsAtRest_react s now stimulus (.ok text) (by rw [hreact])
      rw [hreact] at hrest
      exact fun hx => absurd hrest hx
    | opened hevent hb heq =>
      rw [heq]
      exact fun hx => absurd rfl hx

theorem Busy.run (h : p.Busy) (hnew : p.InOrder) (events : List PoolEvent) :
    (p.run events).Busy := by
  induction events generalizing p with
  | nil => exact h
  | cons event rest ih => exact ih (h.perform hnew.apart event) (hnew.perform event)

theorem Busy.steady_of_told (h : p.Busy) {e : SessionEvent} (htold : p.told event = some (s, e)) :
    s.Steady := by
  unfold told at htold
  split at htold
  · obtain ⟨t, ht, heq⟩ := Option.map_eq_some_iff.mp htold
    obtain rfl : t = s := (Prod.mk.inj heq).1
    exact h.checks _ t ht
  · obtain ⟨t, ht, heq⟩ := Option.map_eq_some_iff.mp htold
    obtain rfl : t = s := (Prod.mk.inj heq).1
    exact h.loans _ t ht
  · contradiction

/-! ## Spoiled for good -/

/-- Any session that the pool still has on the line is spoiled. -/
def Over (p : Pool) (line : LineId) : Prop := ∀ s ∈ p.sessions, s.line = line → s.Spoiled

/-- A check does not begin on a spoiled session. -/
theorem over_of_check {s' : Session} {timeout : Duration} (hs : s.line = line → s.Spoiled)
    (hcheck : s.check timeout = .inFlight s') (hline : s'.line = line) : s'.Spoiled := by
  have hspoiled := hs ((Session.later_of_check hcheck).line ▸ hline)
  exact absurd (Session.of_check_inFlight hcheck).1 hspoiled.not_idle

theorem Over.perform (h : p.Over line) (hapart : p.Apart) (hline : event.line? ≠ some line) :
    (p.perform event).Over line := by
  refine forall_perform hapart (fun s s' timeout => over_of_check) (fun s e _ hs htline => ?_)
    (fun s hcame htline => absurd (htline ▸ line_of_arrival hcame) hline) h
  exact (hs ((Session.later_undergo s e).line ▸ htline)).undergo e

theorem Over.run (h : p.Over line) (hnew : p.InOrder) {events : List PoolEvent}
    (hlines : line ∉ events.filterMap PoolEvent.line?) : (p.run events).Over line := by
  induction events generalizing p with
  | nil => exact h
  | cons event rest ih =>
    have hfirst : event.line? ≠ some line := fun hline =>
      hlines (List.mem_filterMap.mpr ⟨event, List.mem_cons_self, hline⟩)
    refine ih (h.perform hnew.apart hfirst) (hnew.perform event) fun hmem => hlines ?_
    obtain ⟨e, he, hline⟩ := List.mem_filterMap.mp hmem
    exact List.mem_filterMap.mpr ⟨e, List.mem_cons_of_mem event he, hline⟩

/-- Once the session on a line is ruined, no other is on that line. -/
theorem Ruined.over (h : p.Ruined event line) (hapart : p.Apart) (hbusy : p.Busy)
    (hlines : (↑event.line?.toList +
      (p.sessions : Multiset Session).map Session.line).Nodup) : (p.perform event).Over line := by
  cases h with
  | @harmed s e htold hharm =>
    have hs : s ∈ (p.sessions : Multiset Session) := mem_sessions_of_told htold
    -- The other sessions are on other lines.
    have hown := Multiset.nodup_of_le (Multiset.le_add_left _ _) hlines
    rw [← Multiset.cons_erase hs, Multiset.map_cons, Multiset.nodup_cons] at hown
    refine (dwindles_perform hapart event).forall (fun s s' timeout => over_of_check)
      fun t ht htline => ?_
    rw [present_of_told htold] at ht
    rcases Multiset.mem_cons.mp ht with rfl | ht
    · exact hharm.spoiled (hbusy.steady_of_told htold)
    · exact absurd (htline ▸ Multiset.mem_map_of_mem Session.line ht) hown.1
  | @guest s hguest hharmed =>
    rw [line_of_guest hguest, Option.toList_some, Multiset.coe_singleton,
      Multiset.singleton_add, Multiset.nodup_cons] at hlines
    have hnew : ∀ t ∈ p.sessions, t.line ≠ s.line := fun t ht hline =>
      hlines.1 (hline ▸ Multiset.mem_map_of_mem Session.line (Multiset.mem_coe.mpr ht))
    refine forall_perform hapart (fun s s' timeout => over_of_check) (fun t e htold _ htline => ?_)
      (fun t hcame _ => ?_) fun t ht htline => absurd htline (hnew t ht)
    · rw [(Session.later_undergo t e).line] at htline
      exact absurd htline (hnew t (mem_sessions_of_told htold))
    · rw [guest_of_arrival hguest hcame]
      exact hharmed.spoiled
  | gone hs hgone => exact fun t ht htline => absurd htline (hgone t ht)

/-- The session that an event ruins was in the pool, or comes in with it. -/
theorem Ruined.line_mem (h : p.Ruined event line) :
    line ∈ (↑event.line?.toList + (p.sessions : Multiset Session).map Session.line) := by
  have hown : ∀ {s}, s ∈ p.sessions →
      s.line ∈ (↑event.line?.toList + (p.sessions : Multiset Session).map Session.line) :=
    fun hs => Multiset.mem_add.mpr (.inr (Multiset.mem_map_of_mem Session.line
      (Multiset.mem_coe.mpr hs)))
  cases h with
  | harmed htold hharm => exact hown (mem_sessions_of_told htold)
  | gone hs hgone => exact hown hs
  | guest hguest hharmed =>
    exact Multiset.mem_add.mpr (.inl (Multiset.mem_coe.mpr (Option.mem_toList.mpr
      (line_of_guest hguest))))

/-- What ruins a session does so for good, in a pool that began without sessions. -/
theorem Ruined.over_run (hnew : p.InOrder) (hnone : p.sessions = []) (hbusy : p.Busy)
    {before after : List PoolEvent} {next : PoolEvent}
    (h : (p.run before).Ruined event line)
    (honce : ((before ++ event :: (after ++ [next])).filterMap PoolEvent.line?).Nodup) :
    (((p.run before).perform event).run after).Over line ∧ next.line? ≠ some line := by
  have hbefore := hnew.run before
  have hcame : ↑event.line?.toList +
        ((p.run before).sessions : Multiset Session).map Session.line ≤
      ↑((before ++ [event]).filterMap PoolEvent.line?) := by
    rw [PoolEvent.filterMap_concat, ← Multiset.coe_add, add_comm]
    exact add_le_add_left (lines_run hnew hnone before) _
  rw [← List.singleton_append, ← List.append_assoc, List.filterMap_append,
    List.nodup_append'] at honce
  -- What was there by then has come in, and nothing comes in twice.
  obtain ⟨hpast, -, hapart⟩ := honce
  have hgone : line ∉ (after ++ [next]).filterMap PoolEvent.line? :=
    hapart (Multiset.mem_coe.mp (Multiset.mem_of_le hcame h.line_mem))
  have hover := h.over hbefore.apart (hbusy.run hnew before)
    (Multiset.nodup_of_le hcame (Multiset.coe_nodup.mpr hpast))
  rw [List.filterMap_append, List.mem_append, not_or] at hgone
  refine ⟨hover.run (hbefore.perform event) hgone.1, fun hline => hgone.2 ?_⟩
  exact List.mem_filterMap.mpr ⟨next, List.mem_singleton_self next, hline⟩

/-- Whatever happens to a pool and its sessions, what is idle is sound, and what a call gets is
sound and was opened for that call or has passed the check that the call made. Once a session is
ruined, none on its connection is idle or lent any more, when each connection comes in once. -/
theorem run_lends_only_sound (id : PoolId) (studio : Studio) (settings : PoolSettings)
    (start : Instant) (before : List PoolEvent) (event : PoolEvent) :
    let new := forStudio id studio settings start
    let p := new.run before
    (∀ s ∈ p.idle, s.Sound) ∧
      (∀ call s, p.Lends event call s →
        s.Sound ∧ (p.OpenedFor event call s ∨ new.VettedFor before event call s)) ∧
      ∀ line, p.Ruined event line → ∀ after next,
        ((before ++ event :: (after ++ [next])).filterMap PoolEvent.line?).Nodup →
          let q := (p.perform event).run after
          (∀ t ∈ q.idle, t.line ≠ line) ∧ ∀ call t, q.Lends next call t → t.line ≠ line := by
  intro new p
  have hnew : new.InOrder := inOrder_forStudio id studio settings start
  have htidy : new.Tidy := fun s hs => by contradiction
  have hbusy : new.Busy := ⟨fun call s hs => by contradiction, fun call s hs => by contradiction⟩
  have hidle : ∀ events, ∀ s ∈ (new.run events).idle, s.Sound := fun events s hs =>
    have hfit := fit_of_idle_run rfl events hs
    Session.sound_of_idle hfit.1 hfit.2
  refine ⟨hidle before, fun call s hs => sound_of_lends hnew rfl rfl htidy hs, ?_⟩
  intro line hruined after next honce q
  obtain ⟨hover, hnext⟩ := hruined.over_run hnew rfl hbusy honce
  have hq : q = new.run (before ++ event :: after) := (run_append new before (event :: after)).symm
  have horder : q.InOrder := ((hnew.run before).perform event).run after
  constructor
  · intro t ht hline
    refine (hover t (List.mem_append_left _ (List.mem_append_left _ ht)) hline).not_idle ?_
    rw [hq] at ht
    exact (hidle _ t ht).idle
  · intro call t ht hline
    have hspoiled := hover.perform horder.apart hnext t (mem_sessions_of_lent ht.2) hline
    refine hspoiled.not_idle ?_
    rw [hq] at ht
    exact (sound_of_lends hnew rfl rfl htidy ht).1.idle

/-- A session is opened for one call and released, and the next call checks it. -/
def checkedAgain : List PoolEvent :=
  [.acquire 1 0, .dialled 1 0 (.ok 7), .release 1, .acquire 2 0, .hearCheck 2 0 (.accepted 1),
    .hearCheck 2 0 .flushed]

/-- A command is sent on the session that a call got. -/
def sentOn : List PoolEvent :=
  [.acquire 1 0, .dialled 1 0 (.ok 7), .sendOn 1 ["x"], .hearLoan 1 0 (.accepted 2),
    .hearLoan 1 0 .flushed]

/-- With the mark the check is passed, and the call gets the session. But when the command is given
up before its response, the session is not kept on its release. -/
theorem checkedAgain_lends_only_sound :
    let new := forStudio 0 ⟨"s", "h", 1, 0, 2, none, false⟩ {} 0
    let answered := PoolEvent.hearCheck 2 1 (.received [0x0A, 0x61, 0x72, 0x73, 0x3E])
    (∃ s, (new.run checkedAgain).Lends answered 2 s ∧ s.Sound ∧
      new.VettedFor checkedAgain answered 2 s) ∧
    (new.run sentOn).Ruined (.abandonLoan 1) 7 ∧
    ∀ t ∈ (((new.run sentOn).perform (.abandonLoan 1)).run [.release 1]).idle, t.line ≠ 7 := by
  intro new answered
  obtain ⟨s, hs⟩ : ∃ s, ((new.run checkedAgain).perform answered).loans.get? 2 = some s :=
    Option.isSome_iff_exists.mp (by decide)
  replace hs : (new.run checkedAgain).Lends answered 2 s := ⟨by decide, hs⟩
  have hsent : ((new.run sentOn).loans.get? 1).any
      (fun t => t.line = 7 ∧ t.exchange.isSome) = true := by decide
  obtain ⟨t, ht, hpending⟩ := (Option.any_eq_true _ _).mp hsent
  obtain ⟨hline, hexchange⟩ := of_decide_eq_true hpending
  have hruined : (new.run sentOn).Ruined (.abandonLoan 1) 7 :=
    hline ▸ .harmed (told_of_loan rfl rfl ht) (.abandoned (Option.isSome_iff_ne_none.mp hexchange))
  have hchecked := run_lends_only_sound 0 ⟨"s", "h", 1, 0, 2, none, false⟩ {} 0 checkedAgain
    answered
  have hgivenUp := run_lends_only_sound 0 ⟨"s", "h", 1, 0, 2, none, false⟩ {} 0 sentOn
    (.abandonLoan 1)
  refine ⟨⟨s, hs, (hchecked.2.1 2 s hs).1, ?_⟩, hruined,
    (hgivenUp.2.2 7 hruined [.release 1] (.acquire 2 0) (by decide)).1⟩
  rcases (hchecked.2.1 2 s hs).2 with ⟨_, _, _, _, _, _, hdialled, _⟩ | hvetted
  · contradiction
  · exact hvetted

end Pool

end BroadcastLink
