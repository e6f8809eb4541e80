import BroadcastLink.Proofs.Channel.Carried
import BroadcastLink.Proofs.Channel.Dockets
import BroadcastLink.Proofs.Channel.Truthful

/-!
# What calls to write are told

A call to write commands is told once whether they were written. It is told so only when all of its
payload stands on a connection; whenever it is told that they were not, although there were any, one
more dropped write is counted. Nothing else is counted as one.
-/

namespace BroadcastLink

/-! ## What is known of the answers -/

namespace Docket

open Outlet (commandsOf)

variable {k k' : Docket} {asked asked' : Roster CallId (List String)} {gone gone' : CallId → Prop}
  {call : CallId} {stage : ChannelCall} {event : ChannelEvent}

/-- The call was given commands to write, none of which breaks a line. -/
def Given (asked : Roster CallId (List String)) (call : CallId) : Prop :=
  ∃ commands, asked.get? call = some commands ∧ Outflow.Clean commands ∧ commands ≠ []

/-- An answer that counts as a dropped write: no, to a call that had something to write. -/
def isDrop (asked : Roster CallId (List String)) (answer : CallId × Bool) : Bool :=
  !answer.2 && !(commandsOf asked answer.1).isEmpty

/-- What is known of the answers, the calls that are `gone` apart. -/
structure Answered (k : Docket) (asked : Roster CallId (List String)) (gone : CallId → Prop) :
    Prop where
  sending : ∀ call stage, k.calls.get? call = some stage → stage.isSending = true →
    Given asked call
  told : ∀ answer ∈ k.answers, k.calls.get? answer.1 = none ∧
    ∃ commands, asked.get? answer.1 = some commands ∧ Outflow.Clean commands ∧
      (answer.2 = true → commands ≠ [])
  once : (k.answers.map (·.1)).Nodup
  settled : ∀ call, Given asked call → ¬ gone call →
    (∃ written, (call, written) ∈ k.answers) ∨
      ∃ stage, k.calls.get? call = some stage ∧ stage.isSending = true
  counted : k.dropped = UInt64.ofNat (k.answers.countP (isDrop asked))

/-- Numbers are given out once: a call keeps what it was given, only a call to write is given
something, and a call that begins has a number that nobody has. -/
structure Numbered (k : Docket) (event : ChannelEvent)
    (asked asked' : Roster CallId (List String)) : Prop where
  keeps : ∀ c commands, asked.get? c = some commands → asked'.get? c = some commands
  new : ∀ c commands, asked'.get? c = some commands →
    asked.get? c = some commands ∨ ∃ now, event = .sendRealtime c commands now
  sends : ∀ c commands now, event = .sendRealtime c commands now →
    asked.get? c = none ∧ k.calls.get? c = none ∧ asked'.get? c = some commands
  shuts : ∀ c, event = .shutdown c → asked.get? c = none

/-- Who shuts the channel down was given nothing to write. -/
theorem Numbered.not_given (h : k.Numbered event asked asked') (hevent : event = .shutdown call) :
    ¬ Given asked' call := by
  rintro ⟨commands, hcommands, -⟩
  rcases h.new call commands hcommands with hold | ⟨now, hsend⟩
  · rw [h.shuts call hevent] at hold
    contradiction
  · rw [hevent] at hsend
    contradiction

theorem exists_of_starts (h : event.Starts call) :
    ∃ commands now, event = .sendRealtime call commands now ∧ Outflow.Clean commands ∧
      commands ≠ [] := by
  cases event with
  | sendRealtime other commands now =>
    obtain ⟨rfl, hclean, hsome⟩ := h
    exact ⟨commands, now, rfl, hclean, hsome⟩
  | dialled | hearListener | listenerExpired | resumeListener | hearWrite | writeExpired
  | resumeCall | cancelCall | shutdown => exact h.elim

namespace Answered

/-- A call that is there was not told anything yet. -/
theorem untold_of_there (h : k.Answered asked gone) (hcall : k.calls.get? call = some stage) :
    ∀ answer ∈ k.answers, answer.1 ≠ call := by
  rintro answer hmem rfl
  rw [(h.told answer hmem).1] at hcall
  contradiction

/-- Nor was a call that was given nothing yet. -/
theorem untold_of_new (h : k.Answered asked gone) (hasked : asked.get? call = none) :
    ∀ answer ∈ k.answers, answer.1 ≠ call := by
  rintro answer hmem rfl
  obtain ⟨-, commands, hcommands, -⟩ := h.told answer hmem
  rw [hasked] at hcommands
  contradiction

/-- Another call is given something. -/
theorem ask (h : k.Answered asked gone)
    (hkeeps : ∀ c commands, asked.get? c = some commands → asked'.get? c = some commands)
    (hnew : ∀ c, Given asked' c → Given asked c ∨ gone' c) (hgone : ∀ c, gone c → gone' c) :
    k.Answered asked' gone' := by
  have hsame : ∀ answer ∈ k.answers, isDrop asked' answer = isDrop asked answer := by
    intro answer hmem
    obtain ⟨-, commands, hcommands, -⟩ := h.told answer hmem
    rw [isDrop, isDrop, commandsOf, commandsOf, hkeeps _ _ hcommands, hcommands]
  refine ⟨fun c stage hc hstage => ?_, fun answer hmem => ?_, h.once, fun c hgiven hkept => ?_, ?_⟩
  · obtain ⟨commands, hcommands, hrest⟩ := h.sending c stage hc hstage
    exact ⟨commands, hkeeps c commands hcommands, hrest⟩
  · obtain ⟨hover, commands, hcommands, hrest⟩ := h.told answer hmem
    exact ⟨hover, commands, hkeeps _ commands hcommands, hrest⟩
  · exact h.settled c ((hnew c hgiven).resolve_right hkept) fun hg => hkept (hgone c hg)
  · have hcount : k.answers.countP (isDrop asked') = k.answers.countP (isDrop asked) :=
      List.countP_congr fun answer hmem => by rw [hsame answer hmem]
    rw [hcount]
    exact h.counted

/-- A call that was told nothing yet is at a stage. -/
theorem put (h : k.Answered asked gone) (huntold : ∀ answer ∈ k.answers, answer.1 ≠ call)
    (hgiven : stage.isSending = true → Given asked call)
    (hkept : Given asked call → ¬ gone' call → stage.isSending = true)
    (hgone : ∀ c, c ≠ call → gone c → gone' c) : (k.put call stage).Answered asked gone' := by
  refine ⟨fun c stage' hc hstage => ?_, fun answer hmem => ?_, h.once, fun c hc hlive => ?_,
    h.counted⟩
  · change (k.calls.put call stage).get? c = some stage' at hc
    rw [Roster.get?_put] at hc
    split at hc
    · rename_i heq
      obtain rfl := Option.some.inj hc
      exact heq ▸ hgiven hstage
    · exact h.sending c stage' hc hstage
  · obtain ⟨hover, hrest⟩ := h.told answer hmem
    refine ⟨?_, hrest⟩
    show (k.calls.put call stage).get? answer.1 = none
    rw [Roster.get?_put, if_neg (huntold answer hmem)]
    exact hover
  · show _ ∨ ∃ stage', (k.calls.put call stage).get? c = some stage' ∧ _
    rw [Roster.get?_put]
    by_cases heq : c = call
    · subst heq
      rw [if_pos rfl]
      exact .inr ⟨stage, rfl, hkept hc hlive⟩
    · rw [if_neg heq]
      exact h.settled c hc fun hg => hlive (hgone c heq hg)

/-- A call is over that nobody waits for the answer of. -/
theorem erase (h : k.Answered asked gone) (hkept : ¬ Given asked call ∨ gone call ∨
      ∃ stage, k.calls.get? call = some stage ∧ stage.isSending = false) :
    (k.erase call).Answered asked gone := by
  refine ⟨fun c stage hc hstage => h.sending c stage (Outflow.get?_of_erase hc) hstage,
    fun answer hmem => ?_, h.once, fun c hc hlive => ?_, h.counted⟩
  · obtain ⟨hover, hrest⟩ := h.told answer hmem
    refine ⟨?_, hrest⟩
    show (k.calls.erase call).get? answer.1 = none
    rw [Roster.get?_erase, hover, ite_self]
  · refine (h.settled c hc hlive).imp_right fun ⟨stage, hstage, hsending⟩ => ⟨stage, ?_, hsending⟩
    have hne : c ≠ call := by
      rintro rfl
      rcases hkept with hnot | hgone | ⟨other, hother, hidle⟩
      · exact hnot hc
      · exact hlive hgone
      · obtain rfl := Option.some.inj (hother.symm.trans hstage)
        exact Bool.false_ne_true (hidle.symm.trans hsending)
    show (k.calls.erase call).get? c = some stage
    rw [Roster.get?_erase, if_neg hne]
    exact hstage

/-- A call that was told nothing yet is told whether its commands were written, and is over. -/
theorem answer (h : k.Answered asked gone) (huntold : ∀ answer ∈ k.answers, answer.1 ≠ call)
    (written : Bool) (dropped : UInt64) {commands : List String}
    (hgiven : asked.get? call = some commands) (hclean : Outflow.Clean commands)
    (hsome : written = true → commands ≠ []) (hgone : ∀ c, c ≠ call → gone c → gone' c)
    (hdropped : dropped = k.dropped + if written || commands.isEmpty then 0 else 1) :
    ({ (k.erase call).tell call written with dropped := dropped } : Docket).Answered asked
      gone' := by
  refine ⟨fun c stage hc hstage => h.sending c stage (Outflow.get?_of_erase hc) hstage,
    fun a hmem => ?_, ?_, fun c hc hlive => ?_, ?_⟩
  · show (k.calls.erase call).get? a.1 = none ∧ _
    rw [Roster.get?_erase]
    rcases List.mem_append.mp hmem with hold | hnew
    · obtain ⟨hover, hrest⟩ := h.told a hold
      rw [hover, ite_self]
      exact ⟨rfl, hrest⟩
    · obtain rfl := List.mem_singleton.mp hnew
      rw [if_pos rfl]
      exact ⟨rfl, commands, hgiven, hclean, hsome⟩
  · show ((k.answers ++ [(call, written)]).map (·.1)).Nodup
    rw [List.map_append, List.nodup_append]
    refine ⟨h.once, List.nodup_singleton call, ?_⟩
    rintro c hc _ hlast rfl
    obtain ⟨a, ha, rfl⟩ := List.mem_map.mp hc
    exact huntold a ha (List.mem_singleton.mp hlast)
  · by_cases heq : c = call
    · subst heq
      exact .inl ⟨written, List.mem_append_right _ (List.mem_singleton_self _)⟩
    · rcases h.settled c hc fun hg => hlive (hgone c heq hg) with ⟨w, hw⟩ | ⟨stage, hstage, hs⟩
      · exact .inl ⟨w, List.mem_append_left _ hw⟩
      · refine .inr ⟨stage, ?_, hs⟩
        show (k.calls.erase call).get? c = some stage
        rw [Roster.get?_erase, if_neg heq]
        exact hstage
  · show dropped = UInt64.ofNat ((k.answers ++ [(call, written)]).countP (isDrop asked))
    have hdrop : isDrop asked (call, written) = !(written || commands.isEmpty) := by
      rw [isDrop, commandsOf, hgiven, Bool.not_or]
      rfl
    rw [List.countP_append, List.countP_singleton, UInt64.ofNat_add, ← h.counted, hdropped, hdrop]
    cases written || commands.isEmpty <;> rfl

/-- A call that begins is given its commands, and not yet settled. -/
theorem begin {commands : List String} {now : Instant} {call : CallId}
    (h : k.Answered asked gone)
    (hnumbers : k.Numbered (.sendRealtime call commands now) asked asked') :
    k.Answered asked' fun c => gone c ∨ c = call := by
  refine h.ask hnumbers.keeps (fun c hgiven => ?_) fun c hg => .inl hg
  obtain ⟨given, hcommands, hrest⟩ := hgiven
  rcases hnumbers.new c given hcommands with hold | ⟨_, hevent⟩
  · exact .inl ⟨given, hold, hrest⟩
  · cases hevent
    exact .inr (.inr rfl)

/-- What is known of the answers is known after every event. -/
theorem turn (h : k.Answered asked gone) (hturn : Turn k event k')
    (hnumbers : k.Numbered event asked asked')
    (hcancel : ∀ c, event = .cancelCall c → gone c) : k'.Answered asked' gone := by
  have hquiet : (∀ c, ¬ event.Starts c) → k.Answered asked' gone := fun hnone =>
    h.ask hnumbers.keeps (fun c hgiven => by
      obtain ⟨commands, hcommands, hclean, hsome⟩ := hgiven
      rcases hnumbers.new c commands hcommands with hold | ⟨now, rfl⟩
      · exact .inl ⟨commands, hold, hclean, hsome⟩
      · exact absurd ⟨rfl, hclean, hsome⟩ (hnone c)) fun c hg => hg
  -- A call that begins is unsettled until it queues or is refused; the others are where they were.
  cases hturn with
  | rests hnone => exact hquiet hnone
  | @queues call stage hstarts hstage =>
    obtain ⟨commands, now, rfl, hclean, hsome⟩ := exists_of_starts hstarts
    obtain ⟨hfresh, -, hgiven⟩ := hnumbers.sends call commands now rfl
    exact (h.begin hnumbers).put (h.untold_of_new hfresh)
      (fun _ => ⟨commands, hgiven, hclean, hsome⟩) (fun _ _ => hstage)
      fun c hne hg => hg.resolve_right hne
  | @declines call now hevent =>
    subst hevent
    obtain ⟨hfresh, hnocall, hgiven⟩ := hnumbers.sends call [] now rfl
    have hsame := hquiet fun c hstarts => hstarts.2.2 rfl
    have htold := hsame.answer (h.untold_of_new hfresh) false k.dropped
      hgiven (by simp [Outflow.Clean]) (by simp) (fun c _ hg => hg) (by simp)
    rw [Docket.erase, Roster.erase_of_get?_none hnocall] at htold
    exact htold
  | @goesOn call before after hnone hcall hstage =>
    have hsame := hquiet hnone
    refine hsame.put (h.untold_of_there hcall) (fun hafter => ?_) (fun hgiven hlive => ?_)
      fun c _ hg => hg
    · exact hsame.sending call before hcall (hstage ▸ hafter)
    · rcases hsame.settled call hgiven hlive with ⟨written, hmem⟩ | ⟨stage, hthere, hsending⟩
      · exact absurd rfl (h.untold_of_there hcall _ hmem)
      · obtain rfl := Option.some.inj (hcall.symm.trans hthere)
        rw [hstage, hsending]
  | @refuses call hstarts =>
    obtain ⟨commands, now, rfl, hclean, hsome⟩ := exists_of_starts hstarts
    obtain ⟨hfresh, -, hgiven⟩ := hnumbers.sends call commands now rfl
    exact (h.begin hnumbers).answer (h.untold_of_new hfresh) _ _ hgiven hclean (by simp)
      (fun c hne hg => hg.resolve_right hne) (by simp [hsome])
  | @drops call stage hnone hcall hstage =>
    have hsame := hquiet hnone
    obtain ⟨commands, hgiven, hclean, hsome⟩ := hsame.sending call stage hcall hstage
    exact hsame.answer (h.untold_of_there hcall) _ _ hgiven hclean (by simp) (fun c _ hg => hg)
      (by simp [hsome])
  | @confirms call rest deadline n hevent hcall hlast =>
    subst hevent
    have hsame := hquiet fun c hstarts => hstarts
    obtain ⟨commands, hgiven, hclean, hsome⟩ := hsame.sending call _ hcall rfl
    exact hsame.answer (h.untold_of_there hcall) _ k.dropped hgiven hclean
      (fun _ => hsome) (fun c _ hg => hg) (by simp)
  | @cancels call hevent =>
    subst hevent
    exact (hquiet fun c hstarts => hstarts).erase (.inr (.inl (hcancel call rfl)))
  | @shuts call stage hevent hstage =>
    subst hevent
    refine (hquiet fun c hstarts => hstarts).put (h.untold_of_new (hnumbers.shuts call rfl))
      (fun hsending => ?_) (fun hgiven _ => ?_) fun c _ hg => hg
    · exact absurd (hstage.symm.trans hsending) (by decide)
    · exact absurd hgiven (hnumbers.not_given rfl)
  | @stops call hnone hcall =>
    rcases hcall with rfl | hidle
    · exact (hquiet hnone).erase (.inl (hnumbers.not_given rfl))
    · exact (hquiet hnone).erase (.inr (.inr hidle))

end Answered

/-- A call is told that its commands were written only when the connection took the last of them. -/
theorem Turn.confirmed (h : Turn k event k') (hmem : (call, true) ∈ k'.answers) :
    (call, true) ∈ k.answers ∨ ∃ rest deadline n, event = .hearWrite call (.accepted n) ∧
      k.calls.get? call = some (.writing rest deadline) ∧ rest.drop n = [] := by
  cases h with
  | rests | queues | goesOn | cancels | shuts | stops => exact .inl hmem
  | declines | refuses | drops =>
    refine .inl ((List.mem_append.mp hmem).resolve_right fun hlast => ?_)
    have := (Prod.mk.inj (List.mem_singleton.mp hlast)).2
    contradiction
  | confirms hevent hcall hlast =>
    refine (List.mem_append.mp hmem).imp_right fun hlast' => ?_
    obtain ⟨rfl, -⟩ := Prod.mk.inj (List.mem_singleton.mp hlast')
    exact ⟨_, _, _, hevent, hcall, hlast⟩

/-- One event gives at most one answer, and counts one dropped write exactly if the answer is no to
a call that had something to write. -/
def Accounts (k k' : Docket) (asked : Roster CallId (List String)) : Prop :=
  (k'.answers = k.answers ∧ k'.dropped = k.dropped) ∨
  ∃ call written, k'.answers = k.answers ++ [(call, written)] ∧
    k'.dropped =
      k.dropped + if written || (Outlet.commandsOf asked call).isEmpty then 0 else 1

theorem Answered.accounts (h : k.Answered asked gone) (hturn : Turn k event k')
    (hnumbers : k.Numbered event asked asked') : k.Accounts k' asked' := by
  cases hturn with
  | rests | queues | goesOn | cancels | shuts | stops => exact .inl ⟨rfl, rfl⟩
  | @declines call now hevent =>
    obtain ⟨-, -, hgiven⟩ := hnumbers.sends call [] now hevent
    refine .inr ⟨call, false, rfl, ?_⟩
    rw [Outlet.commandsOf, hgiven]
    exact (UInt64.add_zero _).symm
  | @refuses call hstarts =>
    obtain ⟨commands, now, hevent, -, hsome⟩ := exists_of_starts hstarts
    obtain ⟨-, -, hgiven⟩ := hnumbers.sends call commands now hevent
    refine .inr ⟨call, false, rfl, ?_⟩
    rw [Outlet.commandsOf, hgiven]
    simp [refuse, hsome]
  | @drops call stage hnone hcall hstage =>
    obtain ⟨commands, hgiven, -, hsome⟩ := h.sending call stage hcall hstage
    refine .inr ⟨call, false, rfl, ?_⟩
    rw [Outlet.commandsOf, hnumbers.keeps call commands hgiven]
    simp [refuse, hsome]
  | confirms hevent hcall hlast => exact .inr ⟨_, true, rfl, (UInt64.add_zero _).symm⟩

end Docket

namespace Outlet

open Outflow (Clean)

variable {o : Outlet} {call : CallId} {event : ChannelEvent} {gone : CallId → Prop}
  {commands : List String}

/-! ## Runs -/

theorem numbered_step (hadmits : o.Admits event = true) :
    o.channel.docket.Numbered event o.asked (o.askedAfter event) := by
  have hfresh : ∀ {c : CallId}, (!o.asked.has c && !o.channel.calls.has c) = true →
      o.asked.get? c = none ∧ o.channel.calls.get? c = none := fun h => by
    rw [Bool.and_eq_true, Bool.not_eq_true', Bool.not_eq_true'] at h
    exact ⟨Roster.get?_of_not_has (by simp [h.1]), Roster.get?_of_not_has (by simp [h.2])⟩
  refine ⟨fun c commands hc => ?_, fun c commands hc => ?_, ?_, ?_⟩
  · unfold askedAfter
    split
    · have hne : c ≠ _ := fun heq => by
        rw [heq, (hfresh hadmits).1] at hc
        contradiction
      rw [Roster.get?_put, if_neg hne]
      exact hc
    · exact hc
  · unfold askedAfter at hc
    split at hc
    · rw [Roster.get?_put] at hc
      split at hc
      · rename_i now heq
        subst heq
        obtain rfl := Option.some.inj hc
        exact .inr ⟨now, rfl⟩
      · exact .inl hc
    · exact .inl hc
  · rintro c commands now rfl
    refine ⟨(hfresh hadmits).1, (hfresh hadmits).2, ?_⟩
    rw [askedAfter, Roster.get?_put, if_pos rfl]
  · rintro c rfl
    exact (hfresh hadmits).1

/-- Everything that the answers depend on. -/
structure Telling (o : Outlet) (gone : CallId → Prop) : Prop where
  truthful : o.Truthful
  underways : o.outflow.Underways
  answered : o.channel.docket.Answered o.asked gone
  carried : ∀ call, (call, true) ∈ o.channel.answers →
    o.outflow.Carried (lineBytes (commandsOf o.asked call))

theorem telling_toStudio (id : ChannelId) (studio : Studio) (settings : ChannelSettings)
    (now : Instant) (gone : CallId → Prop) :
    (toStudio id studio settings now).Telling gone where
  truthful := truthful_toStudio id studio settings now
  underways := ⟨trivial, fun _ hline => by contradiction, fun _ _ _ hc => by contradiction⟩
  answered := by
    refine ⟨fun _ _ hc => by contradiction, fun _ hmem => by contradiction, List.nodup_nil,
      fun c hgiven => ?_, rfl⟩
    obtain ⟨commands, hcommands, -⟩ := hgiven
    contradiction
  carried := fun _ hmem => by contradiction

/-- When the connection takes the last bytes of a call, all of its payload stands there. -/
theorem carried_accepted (h : o.outflow.Underways) {rest : Bytes} {deadline : Instant} {n : Nat}
    (hcall : o.channel.calls.get? call = some (.writing rest deadline)) (hlast : rest.drop n = []) :
    { o.outflow with wires := o.wiresAfter (.hearWrite call (.accepted n)) }.Carried
      (lineBytes (commandsOf o.asked call)) := by
  have hunderway := h.writing call rest deadline hcall
  obtain ⟨line, -, -, hline, -⟩ := hunderway
  have hwires : o.wiresAfter (.hearWrite call (.accepted n)) =
      o.wires.modify line (·.add (rest.take n)) := by
    rw [wiresAfter, show o.channel.writer = some line from hline, hcall]
  have htaken : { o.outflow with wires := o.wiresAfter (.hearWrite call (.accepted n)) }.Underway
      call (rest.drop n) := (h.writing call rest deadline hcall).take n hline rfl hwires rfl
  rw [hlast] at htaken
  exact htaken.carried

theorem Telling.step (h : o.Telling gone) (hcancel : ∀ c, event = .cancelCall c → gone c) :
    (o.step event).Telling gone := by
  by_cases hadmits : o.Admits event = true
  · have hmoves := moves_step (connected_of_guarded h.truthful.outflow.guarded) event
    have htruthful := h.truthful.step event
    have hturn := Channel.docketTurn_perform o.channel event
    have hnumbers := numbered_step hadmits
    have hunderways := h.underways.moves h.truthful.outflow hmoves
    rw [Outlet.step, if_pos hadmits] at hmoves htruthful hunderways ⊢
    refine ⟨htruthful, hunderways, h.answered.turn hturn hnumbers hcancel, fun call hmem => ?_⟩
    have hkept : o.asked.get? call ≠ none →
        commandsOf (o.askedAfter event) call = commandsOf o.asked call := fun hgiven => by
      obtain ⟨commands, hcommands⟩ := Option.ne_none_iff_exists'.mp hgiven
      rw [commandsOf, commandsOf, hnumbers.keeps call commands hcommands, hcommands]
    -- What was confirmed before stands on a connection already; what is confirmed now came to.
    rcases hturn.confirmed hmem with hold | ⟨rest, deadline, n, rfl, hcall, hlast⟩
    · obtain ⟨-, commands, hcommands, -⟩ := h.answered.told _ hold
      show Outflow.Carried _ (lineBytes (commandsOf (o.askedAfter event) call))
      rw [hkept (by rw [hcommands]; exact Option.some_ne_none commands)]
      exact (h.carried call hold).moves hmoves
    · obtain ⟨line, w, hw, hcarried⟩ := carried_accepted h.underways hcall hlast
      exact ⟨line, w, hw, hcarried⟩
  · rw [Outlet.step, if_neg hadmits]
    exact h

theorem Telling.run (h : o.Telling gone) {events : List ChannelEvent}
    (hcancel : ∀ c, .cancelCall c ∈ events → gone c) : (o.run events).Telling gone := by
  induction events generalizing o with
  | nil => exact h
  | cons event events ih =>
    refine ih (h.step fun c hevent => hcancel c ?_) fun c hmem => hcancel c (.tail event hmem)
    rw [hevent]
    exact List.mem_cons_self

/-- Where no call begins to write, nothing changes on the connections. -/
theorem enteredAfter_of_calls (h : (o.channel.perform event).calls = o.channel.calls)
    (call : CallId) : o.enteredAfter event call = o.wires := by
  have hsame : (o.channel.perform event).isWriting call = o.channel.isWriting call := by
    rw [Channel.isWriting, Channel.isWriting, h]
  unfold enteredAfter
  rw [hsame]
  cases o.channel.isWriting call <;> rfl

/-! ## Batches that are not written -/

/-- A batch of which any command breaks a line is rejected, and nothing happens. -/
theorem rejects_step (o : Outlet) (call : CallId) (now : Instant)
    (hbreaks : ∃ command ∈ commands, breaksLine command = true) :
    (∃ command ∈ commands,
      o.channel.sendRealtime call commands now = .error (.protocolMisuse command)) ∧
    (o.step (.sendRealtime call commands now)).channel = o.channel ∧
    (o.step (.sendRealtime call commands now)).wires = o.wires := by
  obtain ⟨first, hfirst⟩ : ∃ first, commands.find? breaksLine = some first :=
    Option.isSome_iff_exists.mp (List.find?_isSome.mpr hbreaks)
  have hrejected : o.channel.sendRealtime call commands now = .error (.protocolMisuse first) := by
    rw [Channel.sendRealtime, realtimePayload, hfirst]
  have hsame : o.channel.perform (.sendRealtime call commands now) = o.channel := by
    rw [Channel.perform, hrejected]
  refine ⟨⟨first, List.mem_of_find?_eq_some hfirst, hrejected⟩, ?_⟩
  unfold step
  split
  · exact ⟨hsame, enteredAfter_of_calls (by rw [hsame]) call⟩
  · exact ⟨rfl, rfl⟩

/-- A batch without commands is told that nothing was written, and nothing else happens. -/
theorem declines_step (o : Outlet) (call : CallId) (now : Instant) :
    o.channel.sendRealtime call [] now = .ok (o.channel.ask (.sent call false)) ∧
    (o.step (.sendRealtime call [] now)).channel.counters = o.channel.counters ∧
    (o.step (.sendRealtime call [] now)).wires = o.wires := by
  have hdeclined : o.channel.sendRealtime call [] now = .ok (o.channel.ask (.sent call false)) :=
    rfl
  refine ⟨hdeclined, ?_⟩
  unfold step
  split
  · exact ⟨rfl, enteredAfter_of_calls rfl call⟩
  · exact ⟨rfl, rfl⟩

/-! ## All runs -/

/-- A channel tells the truth about its writes in every run, however many calls write, are given up,
fail or are stuck, and whenever the studio closes a connection or the channel is shut down. As long
as nobody can go on, it is connected exactly if there is a writer. Every call is told once at most,
and unless it was given up it is told by the time that it no longer waits or writes; if it is told
that its commands were written, all of its payload stands on a connection in one piece. With every
event at most one call is told, and one dropped write is counted exactly if that call had commands
and they were not written. A batch with a line break in any command is rejected and one without
commands is not written, and neither changes a count or a connection. -/
theorem run_tells_truth (id : ChannelId) (studio : Studio) (settings : ChannelSettings)
    (start : Instant) (events : List ChannelEvent) :
    let o := (toStudio id studio settings start).run events
    (o.channel.isReady = false →
      (o.channel.counters.connected = true ↔ ∃ line, o.channel.writer = some line)) ∧
    (o.channel.answers.map (·.1)).Nodup ∧
    (∀ call commands, o.asked.get? call = some commands →
      (∀ command ∈ commands, breaksLine command = false) → commands ≠ [] →
      .cancelCall call ∉ events →
      (∃ written, (call, written) ∈ o.channel.answers) ∨
        ∃ stage, o.channel.calls.get? call = some stage ∧ stage.isSending = true) ∧
    (∀ call, (call, true) ∈ o.channel.answers → ∃ commands line w,
      o.asked.get? call = some commands ∧ commands ≠ [] ∧
        o.wires.get? line = some w ∧ lineBytes commands <:+: w.bytes) ∧
    (∀ event,
      let o' := o.step event
      (o'.channel.answers = o.channel.answers ∧
        o'.channel.counters.writesDropped = o.channel.counters.writesDropped) ∨
      ∃ call written, o'.channel.answers = o.channel.answers ++ [(call, written)] ∧
        o'.channel.counters.writesDropped = o.channel.counters.writesDropped +
          if written || (commandsOf o'.asked call).isEmpty then 0 else 1) ∧
    ∀ call commands now,
      ((∃ command ∈ commands, breaksLine command = true) →
        (∃ command ∈ commands,
          o.channel.sendRealtime call commands now = .error (.protocolMisuse command)) ∧
        (o.step (.sendRealtime call commands now)).channel = o.channel ∧
        (o.step (.sendRealtime call commands now)).wires = o.wires) ∧
      (commands = [] →
        o.channel.sendRealtime call commands now = .ok (o.channel.ask (.sent call false)) ∧
        (o.step (.sendRealtime call commands now)).channel.counters = o.channel.counters ∧
        (o.step (.sendRealtime call commands now)).wires = o.wires) := by
  intro o
  have htelling : o.Telling fun c => .cancelCall c ∈ events :=
    (telling_toStudio id studio settings start _).run fun c hmem => hmem
  refine ⟨htelling.truthful.connected_iff, htelling.answered.once,
    fun call commands hgiven hclean hsome hkept => ?_, fun call hmem => ?_, fun event => ?_,
    fun call commands now => ⟨rejects_step o call now, ?_⟩⟩
  · exact htelling.answered.settled call ⟨commands, hgiven, hclean, hsome⟩ hkept
  · obtain ⟨-, commands, hgiven, -, hsome⟩ := htelling.answered.told (call, true) hmem
    obtain ⟨line, w, hw, hcarried⟩ := htelling.carried call hmem
    rw [commandsOf, hgiven] at hcarried
    exact ⟨commands, line, w, hgiven, hsome rfl, hw, hcarried⟩
  · -- An event that is not of this moment does nothing.
    by_cases hadmits : o.Admits event = true
    · have haccounts := htelling.answered.accounts (Channel.docketTurn_perform o.channel event)
        (numbered_step hadmits)
      rw [step, if_pos hadmits]
      exact haccounts
    · rw [step, if_neg hadmits]
      exact .inl ⟨rfl, rfl⟩
  · rintro rfl
    exact declines_step o call now

/-- One call's commands are taken; the next one's write fails, and the listener notices. -/
def takenThenFailed : List ChannelEvent :=
  [.dialled 0 (.ok 7), .hearListener 0 (.accepted 10), .sendRealtime 1 ["a"] 0,
    .hearWrite 1 (.accepted 2), .sendRealtime 2 ["b"] 0,
    .hearWrite 2 (.writeFailed (.bare .timedOut)), .resumeListener 0]

/-- The channel after that. -/
def failedOutlet : Outlet := (toStudio 0 mainStudio {} 0).run takenThenFailed

theorem takenThenFailed_tells :
    (failedOutlet.channel.isReady = false ∧ failedOutlet.channel.answers = [(1, true), (2, false)] ∧
      failedOutlet.channel.counters.writesDropped = 1) ∧
    ¬ failedOutlet.channel.counters.connected = true ∧
    (∃ commands line w, failedOutlet.asked.get? 1 = some commands ∧ commands ≠ [] ∧
      failedOutlet.wires.get? line = some w ∧ lineBytes commands <:+: w.bytes) ∧
    (∃ written, (2, written) ∈ failedOutlet.channel.answers) ∧
    (failedOutlet.step (.sendRealtime 3 ["c", "d\n"] 0)).channel = failedOutlet.channel ∧
    (failedOutlet.step (.sendRealtime 3 [] 0)).channel.counters =
      failedOutlet.channel.counters := by
  obtain ⟨hflag, -, hsettled, hcarried, -, hnothing⟩ :=
    run_tells_truth 0 mainStudio {} 0 takenThenFailed
  have hidle : failedOutlet.channel.isReady = false := by decide
  have hanswers : failedOutlet.channel.answers = [(1, true), (2, false)] := by decide
  have hmem : (1, true) ∈ failedOutlet.channel.answers := by
    rw [hanswers]
    exact List.mem_cons_self
  refine ⟨⟨hidle, hanswers, by decide⟩, fun hconnected => ?_, hcarried 1 hmem, ?_, ?_, ?_⟩
  · obtain ⟨line, hline⟩ := (hflag hidle).mp hconnected
    have hnone : failedOutlet.channel.writer = none := by decide
    exact Option.some_ne_none line (hline.symm.trans hnone)
  · refine (hsettled 2 ["b"] (by decide) (by decide) (by decide) ?_).resolve_right ?_
    · simp [takenThenFailed]
    · rintro ⟨stage, hstage, -⟩
      have hover : failedOutlet.channel.calls.get? 2 = none := by decide
      exact Option.some_ne_none stage (hstage.symm.trans hover)
  · exact ((hnothing 3 ["c", "d\n"] 0).1 ⟨"d\n", by decide, by decide⟩).2.1
  · exact ((hnothing 3 [] 0).2 rfl).2.1

end Outlet

end BroadcastLink
