import BroadcastLink.Proofs.Response.Splitting
import BroadcastLink.Proofs.Session.Harm

/-!
# A check that is passed

A check writes a blank line, pushes it out and reads one response, for which it waits from then on.
So a session that passes has had exactly the blank line written on it meanwhile, exactly one
response was taken, and in time.
-/

namespace BroadcastLink

namespace Session

/-- What goes on between a session and its connection from the moment a check begins. What had
arrived before and was not taken is still held. -/
def vetting (s : Session) (timeout : Duration) (told : List (Instant × Stimulus)) : Conversation :=
  Conversation.run ⟨s, [], ⟨[], s.responses.bytes⟩⟩
    (.check timeout :: told.map fun e => .hear e.1 e.2)

/-- How far a check has come that has not taken its response: what is written and what is still to
be written make up the blank line, and it waits from the moment in which all was pushed out. -/
inductive Waits (s : Session) (timeout : Duration) (told : List (Instant × Stimulus)) :
    ExchangeStage → Prop where
  | writing {rest : Bytes}
      (hwritten : (s.vetting timeout told).transcript.written ++ rest = blankLine) :
    Waits s timeout told (.writing rest)
  | flushing (hwritten : (s.vetting timeout told).transcript.written = blankLine) :
    Waits s timeout told .flushing
  | reading {front back : List (Instant × Stimulus)} {flushed : Instant}
      (hwritten : (s.vetting timeout told).transcript.written = blankLine)
      (htold : told = front ++ (flushed, .flushed) :: back)
      (hfront : (s.vetting timeout front).transcript.written = blankLine) :
    Waits s timeout told (.reading 1 (timeout.after flushed))

/-- A check is under way. -/
structure UnderVetting (s : Session) (timeout : Duration) (told : List (Instant × Stimulus)) :
    Prop where
  state : (s.vetting timeout told).session.state = .awaitingResponse
  exchange : ∃ stage, s.Waits timeout told stage ∧
    (s.vetting timeout told).session.exchange = some ⟨.check, 1, timeout, stage⟩
  untaken : (s.vetting timeout told).transcript.received =
    (s.vetting timeout told).session.responses.bytes

/-- A check is passed with what it was told last, at that moment: the session is idle, the blank
line and nothing else was written, and one response was taken, up to the first mark, if none had
been passed over before. All was written when it was pushed out, and from then on the response took
no longer than it may, unless the alarm for it was overdue. -/
structure Passes (s : Session) (timeout : Duration) (told : List (Instant × Stimulus))
    (now : Instant) (stimulus : Stimulus) (s' : Session) : Prop where
  session : (s.vetting timeout (told ++ [(now, stimulus)])).session = s'
  idle : s'.state = .idle
  written : (s.vetting timeout (told ++ [(now, stimulus)])).transcript.written = blankLine
  taken : ∃ response, (s.vetting timeout (told ++ [(now, stimulus)])).transcript.received =
      response ++ responseMark ++ s'.responses.bytes ∧
    (s.responses.Searched → ∀ k < response.length, ¬ responseMark <+:
      (s.vetting timeout (told ++ [(now, stimulus)])).transcript.received.drop k)
  inTime : ∃ front flushed back, told ++ [(now, stimulus)] = front ++ (flushed, .flushed) :: back ∧
    (s.vetting timeout front).transcript.written = blankLine ∧
    ((∀ a ∈ (s.vetting timeout told).session.alarm?, now ≤ a.due) → now ≤ timeout.after flushed)

variable {s s' : Session} {timeout : Duration} {told : List (Instant × Stimulus)} {now : Instant}
  {stimulus : Stimulus}

/-! ## Searches for marks -/

theorem searched_settle (h : s.responses.Searched) (x : Exchange) (now : Instant) (left : Nat)
    (deadline : Instant) : (s.settle x now left deadline).1.responses.Searched := by
  induction left generalizing s deadline with
  | zero => exact h
  | succ left ih =>
    have htaken := h.take
    rw [settle]
    rcases htake : s.responses.take with ⟨responses, _ | response⟩
    · rw [htake] at htaken
      exact htaken
    · rw [htake] at htaken
      dsimp only
      split
      · exact htaken
      · refine ih ?_ _
        exact htaken

theorem searched_react (h : s.responses.Searched) (now : Instant) (stimulus : Stimulus) :
    (s.react now stimulus).1.responses.Searched := by
  unfold react
  split
  · exact h
  · rename_i x _
    split
    · split <;> exact h
    · exact h
    · exact searched_settle h x now _ _
    · exact h
    · refine searched_settle ?_ x now _ _
      exact h.extend _
    · exact h
    · exact h
    · split <;> exact h
    · exact h

/-- Whatever happens to a session, no search passes over a mark. -/
theorem searched_undergo (h : s.responses.Searched) (event : SessionEvent) :
    (s.undergo event).responses.Searched := by
  cases event with
  | send commands =>
    rw [undergo]
    split
    · exact h
    · obtain ⟨-, -, bytes, -, rfl⟩ := of_send_inFlight ‹_›
      exact h
  | check timeout =>
    rw [undergo]
    split
    · exact h
    · obtain ⟨-, rfl⟩ := of_check_inFlight ‹_›
      exact h
  | invalidate | close | cancel => exact h
  | hear now stimulus => exact searched_react h now stimulus

theorem searched_vetting (h : s.responses.Searched) (timeout : Duration)
    (told : List (Instant × Stimulus)) :
    (s.vetting timeout told).session.responses.Searched := by
  rw [vetting, Conversation.session_run]
  generalize SessionEvent.check timeout :: told.map (fun e => SessionEvent.hear e.1 e.2) = life
  induction life generalizing s with
  | nil => exact h
  | cons event life ih => exact ih (searched_undergo h event)

/-! ## How a check goes -/

theorem later_vetting (s : Session) (timeout : Duration) (told : List (Instant × Stimulus)) :
    s.Later (s.vetting timeout told).session := by
  rw [vetting, Conversation.session_run]
  exact later_foldl s _

theorem vetting_append (s : Session) (timeout : Duration) (told : List (Instant × Stimulus))
    (now : Instant) (stimulus : Stimulus) :
    s.vetting timeout (told ++ [(now, stimulus)]) =
      ((s.vetting timeout told).step (.hear now stimulus)).1 := by
  rw [vetting, vetting, List.map_append, ← List.cons_append, Conversation.run, List.foldl_append]
  rfl

theorem session_vetting_append (s : Session) (timeout : Duration)
    (told : List (Instant × Stimulus)) (now : Instant) (stimulus : Stimulus) :
    (s.vetting timeout (told ++ [(now, stimulus)])).session =
      ((s.vetting timeout told).session.react now stimulus).1 := by
  rw [vetting_append, Conversation.session_step]
  rfl

theorem underVetting_begun (h : s.check timeout = .inFlight s') :
    s.UnderVetting timeout [] ∧ (s.vetting timeout []).session = s' := by
  have hbegun : s.vetting timeout [] = ⟨s', [], ⟨[], s.responses.bytes⟩⟩ := by
    rw [vetting, List.map_nil, Conversation.run, List.foldl_cons, List.foldl_nil,
      Conversation.step]
    simp only [h]
  obtain ⟨-, rfl⟩ := of_check_inFlight h
  rw [hbegun]
  refine ⟨⟨by rw [hbegun]; rfl, ⟨_, .writing (by rw [hbegun]; rfl), by rw [hbegun]; rfl⟩,
    by rw [hbegun]; rfl⟩, rfl⟩

theorem transcript_vetting_append (s : Session) (timeout : Duration)
    (told : List (Instant × Stimulus)) (now : Instant) (stimulus : Stimulus) :
    (s.vetting timeout (told ++ [(now, stimulus)])).transcript =
      (s.vetting timeout told).transcript.after (s.vetting timeout told).session stimulus := by
  rw [vetting_append]
  rfl

/-- What a move of the exchange comes to: the check goes on, or it is passed, unless it fails. -/
def BringsOn (s : Session) (timeout : Duration) (told : List (Instant × Stimulus)) (now : Instant)
    (stimulus : Stimulus) (r : Session × Option (Except Fault String)) : Prop :=
  (r.2 = none → s.UnderVetting timeout (told ++ [(now, stimulus)])) ∧
    ∀ text, r.2 = some (.ok text) → s.Passes timeout told now stimulus r.1

theorem bringsOn_fail (t : Session) (purpose : Purpose) (fault : Fault) :
    s.BringsOn timeout told now stimulus (t.fail purpose fault) := by
  refine ⟨fun h => by contradiction, fun text htext => ?_⟩
  have : Except.error _ = Except.ok text := Option.some.inj htext
  contradiction

theorem bringsOn_pending {t : Session}
    (h : s.UnderVetting timeout (told ++ [(now, stimulus)])) :
    s.BringsOn timeout told now stimulus (t, none) :=
  ⟨fun _ => h, fun _ htext => by contradiction⟩

/-- Once all is pushed out, the check waits for its response or is passed. -/
theorem bringsOn_settle {t : Session} {stage : ExchangeStage}
    {front back : List (Instant × Stimulus)} {flushed : Instant}
    (hstate : t.state = .awaitingResponse)
    (hsession : (s.vetting timeout (told ++ [(now, stimulus)])).session =
      (t.settle ⟨.check, 1, timeout, stage⟩ now 1 (timeout.after flushed)).1)
    (hwritten : (s.vetting timeout (told ++ [(now, stimulus)])).transcript.written = blankLine)
    (hreceived : (s.vetting timeout (told ++ [(now, stimulus)])).transcript.received =
      t.responses.bytes)
    (hsearched : s.responses.Searched → t.responses.Searched)
    (htold : told ++ [(now, stimulus)] = front ++ (flushed, .flushed) :: back)
    (hfront : (s.vetting timeout front).transcript.written = blankLine)
    (htime : (∀ a ∈ (s.vetting timeout told).session.alarm?, now ≤ a.due) →
      now ≤ timeout.after flushed) :
    s.BringsOn timeout told now stimulus
      (t.settle ⟨.check, 1, timeout, stage⟩ now 1 (timeout.after flushed)) := by
  rcases htake : t.responses.take with ⟨responses, _ | response⟩
  · rw [settle, htake] at hsession ⊢
    refine bringsOn_pending ⟨?_, ⟨_, .reading hwritten htold hfront, ?_⟩, ?_⟩
    · rw [hsession]
      exact hstate
    · rw [hsession]
    · rw [hsession, hreceived]
      exact (ResponseBuffer.bytes_of_take_none htake).symm
  · rw [settle, htake] at hsession ⊢
    dsimp only at hsession ⊢
    rw [if_pos rfl] at hsession ⊢
    refine ⟨fun h => by contradiction, fun text _ => ⟨hsession, ?_, hwritten, ?_,
      ⟨front, flushed, back, htold, hfront, htime⟩⟩⟩
    · show t.state.complete = .idle
      rw [hstate]
      rfl
    · obtain ⟨before, hbefore, hfirst⟩ := ResponseBuffer.eq_append_of_take htake
      rw [hreceived]
      exact ⟨before, hbefore, fun hs => hfirst (hsearched hs)⟩

theorem append_of_flushed {front back : List (Instant × Stimulus)} {flushed : Instant}
    (h : told = front ++ (flushed, .flushed) :: back) (now : Instant) (stimulus : Stimulus) :
    told ++ [(now, stimulus)] = front ++ (flushed, .flushed) :: (back ++ [(now, stimulus)]) := by
  rw [h, List.append_assoc, List.cons_append]

/-- What changes neither the session nor what went over the connection leaves a check where it
stands. -/
theorem UnderVetting.unmoved (h : s.UnderVetting timeout told) (now : Instant)
    (stimulus : Stimulus)
    (hsession : (s.vetting timeout (told ++ [(now, stimulus)])).session =
      (s.vetting timeout told).session)
    (htranscript : (s.vetting timeout (told ++ [(now, stimulus)])).transcript =
      (s.vetting timeout told).transcript) :
    s.UnderVetting timeout (told ++ [(now, stimulus)]) := by
  obtain ⟨hstate, ⟨stage, hwaits, hx⟩, huntaken⟩ := h
  refine ⟨by rw [hsession, hstate], ⟨stage, ?_, by rw [hsession, hx]⟩,
    by rw [hsession, htranscript, huntaken]⟩
  cases hwaits with
  | writing hwritten => exact .writing (by rw [htranscript, hwritten])
  | flushing hwritten => exact .flushing (by rw [htranscript, hwritten])
  | reading hwritten htold hfront =>
    exact .reading (by rw [htranscript, hwritten]) (append_of_flushed htold now stimulus) hfront

/-- Whatever the connection does brings a check on, or brings it to an end. -/
theorem UnderVetting.react (h : s.UnderVetting timeout told) (now : Instant) (stimulus : Stimulus) :
    s.BringsOn timeout told now stimulus
      ((s.vetting timeout told).session.react now stimulus) := by
  have hsession := session_vetting_append s timeout told now stimulus
  have htranscript := transcript_vetting_append s timeout told now stimulus
  have hsame := h.unmoved now stimulus
  obtain ⟨hstate, ⟨stage, hwaits, hx⟩, huntaken⟩ := h
  unfold Transcript.after at htranscript
  unfold Session.react at hsession ⊢
  rw [hx] at hsession htranscript ⊢
  -- By the stage of the check and what the connection did; where they do not meet, nothing moves.
  cases hwaits with
  | @writing rest hwritten =>
    cases stimulus
    case accepted n =>
      by_cases hzero : n = 0
      · simp only [if_pos hzero]
        exact bringsOn_fail _ _ _
      · simp only [if_neg hzero] at hsession ⊢
        replace htranscript : (s.vetting timeout (told ++ [(now, .accepted n)])).transcript =
            { (s.vetting timeout told).transcript with
              written := (s.vetting timeout told).transcript.written ++ rest.take n } := htranscript
        have hfront : (s.vetting timeout (told ++ [(now, .accepted n)])).transcript.written ++
            rest.drop n = blankLine := by
          rw [htranscript, List.append_assoc, List.take_append_drop, hwritten]
        refine bringsOn_pending ⟨by rw [hsession, hstate], ⟨_, ?_, by rw [hsession]⟩,
          by rw [hsession, htranscript, huntaken]⟩
        cases hdrop : rest.drop n with
        | nil =>
          rw [hdrop, List.append_nil] at hfront
          exact .flushing hfront
        | cons b more =>
          rw [hdrop] at hfront
          exact .writing hfront
    case writeFailed => exact bringsOn_fail _ _ _
    all_goals exact bringsOn_pending (hsame hsession htranscript)
  | flushing hwritten =>
    cases stimulus
    case flushed =>
      -- The wait for the response begins now.
      replace htranscript : (s.vetting timeout (told ++ [(now, .flushed)])).transcript =
          (s.vetting timeout told).transcript := htranscript
      have hlast : told ++ [(now, .flushed)] = told ++ (now, .flushed) :: [] := rfl
      exact bringsOn_settle hstate hsession (by rw [htranscript]; exact hwritten)
        (by rw [htranscript, huntaken]) (fun hs => searched_vetting hs timeout told) hlast hwritten
        fun _ => Nat.le_add_right now _
    case flushFailed => exact bringsOn_fail _ _ _
    all_goals exact bringsOn_pending (hsame hsession htranscript)
  | @reading front back flushed hwritten htold hfront =>
    cases stimulus
    case received bytes =>
      refine bringsOn_settle hstate hsession (by rw [htranscript]; exact hwritten) ?_
        (fun hs => (searched_vetting hs timeout told).extend bytes) (append_of_flushed htold now _)
        hfront fun hdue => ?_
      · rw [htranscript]
        exact congrArg (· ++ bytes) huntaken
      · have halarm : (s.vetting timeout told).session.alarm? =
            some ⟨timeout.after flushed, .response (s.vetting timeout told).session.id 1⟩ := by
          rw [alarm?, hx]
        exact hdue _ halarm
    case ended | readFailed => exact bringsOn_fail _ _ _
    case expired =>
      by_cases hdue : timeout.after flushed ≤ now
      · simp only [if_pos hdue]
        exact bringsOn_fail _ _ _
      · simp only [if_neg hdue] at hsession ⊢
        exact bringsOn_pending (hsame hsession htranscript)
    all_goals exact bringsOn_pending (hsame hsession htranscript)

end Session

end BroadcastLink
