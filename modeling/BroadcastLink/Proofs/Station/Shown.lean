import BroadcastLink.Proofs.Station.Orphans
import BroadcastLink.Proofs.Station.Tacit
import BroadcastLink.Proofs.Text.Markup

/-!
# Responses as callers get them

A call that executes commands says once whether it wants the response as it is. An event ends its
exchange with a response, or it does not; if it does, that response is given out at once, in the
form the call asked for, and no other event gives out a text. So all that was ever given out is
known from the responses, and whoever asked for text inside markup can tell the response from it.
-/

namespace BroadcastLink.Station

open Text.Markup (escape unescape Inert)

variable {s s' : Station} {call : CallId} {raw : Bool} {event : StationEvent}
  {settings : RegistrySettings} {events : List StationEvent}

/-- What a studio answered to the commands of a call, and whether the call wants it as it is. -/
structure Response where
  call : CallId
  raw : Bool
  text : String
  deriving DecidableEq

/-- What the call gets. -/
def Response.shown (r : Response) : CallId × String :=
  (r.call, if r.raw then r.text else escape r.text)

/-- The exchange of a call went on: it may be over, and with a response unless it failed. -/
def responseOf? (call : CallId) (raw : Bool) : Option (Except Fault String) → Option Response
  | some (.ok text) => some ⟨call, raw, text⟩
  | _ => none

/-- The response that a call has at once when it begins to send its commands. -/
def begun? (s : Station) (call : CallId) : Option Response :=
  match s.calls.get? call with
  | some (.executing pool commands raw .lent) =>
    responseOf? call raw ((s.pools.get? pool).bind fun p => (p.beginOn call (·.send commands)).2)
  | _ => none

/-- The response that a call has after its session's connection did something. -/
def moved? (s : Station) (call : CallId) (stimulus : Stimulus) : Option Response :=
  match s.calls.get? call with
  | some (.executing pool _ raw .exchanging) =>
    responseOf? call raw ((s.pools.get? pool).bind fun p => (p.hearLoan call s.now stimulus).2)
  | _ => none

/-- The response with which an event ends the exchange of a call's commands. -/
def response? (s : Station) : StationEvent → Option Response
  | .resume (.call call) => s.begun? call
  | .hear (.call call) (.stimulus stimulus) => s.moved? call stimulus
  | .expire (.call call) => s.moved? call .expired
  | _ => none

/-! ## One event -/

/-- This response was given out, or none was, and no execution was begun. -/
structure Gives (s : Station) (r : Option Response) (s' : Station) : Prop where
  texts : s'.texts = s.texts ++ r.toList.map Response.shown
  raw : ∀ call raw, s'.raw? call = some raw → s.raw? call = some raw

theorem Tacit.gives (h : Tacit s s') : Gives s none s' := by
  refine ⟨?_, h.raw⟩
  rw [h.texts]
  exact (List.append_nil s.texts).symm

/-- The commands of a call are through. -/
theorem gives_executed (h : Tacit s s') (call : CallId) (pool : PoolId) (raw : Bool)
    (outcome : Except Fault String) :
    Gives s (responseOf? call raw (some outcome)) (s'.executed call pool raw outcome) := by
  have hgone := (h.trans (tacit_onPool s' pool (·.release call))).trans (tacit_erase _ call)
  refine ⟨?_, hgone.raw⟩
  show (Station.answer _ call (executeAnswer raw outcome)).texts = _
  rw [texts_answer, hgone.texts]
  cases outcome <;> rfl

theorem gives_beginExecution (hlent : s.IsLent call) :
    Gives s (s.begun? call) (s.beginExecution call) := by
  obtain ⟨pool, commands, raw, hcall⟩ := hlent
  unfold begun? beginExecution
  rw [hcall]
  dsimp only
  cases s.pools.get? pool with
  | none => exact (Tacit.refl s).gives
  | some p =>
    have hput := tacit_onPool s pool fun _ => (p.beginOn call (·.send commands)).1
    dsimp only [Option.map_some, Option.bind_some]
    cases (p.beginOn call (·.send commands)).2 with
    | some outcome => exact gives_executed hput call pool raw outcome
    | none =>
      -- The execution goes on as it was asked for.
      apply Tacit.gives
      apply hput.putCall call
      intro raw' hraw
      rw [raw?, hcall]
      exact hraw

theorem gives_executionMoved (hexchanging : s.IsExchanging call) (stimulus : Stimulus) :
    Gives s (s.moved? call stimulus) (s.executionMoved call stimulus) := by
  obtain ⟨pool, commands, raw, hcall⟩ := hexchanging
  unfold moved? executionMoved
  rw [hcall]
  dsimp only
  cases s.pools.get? pool with
  | none => exact (Tacit.refl s).gives
  | some p =>
    have hput := tacit_onPool s pool fun _ => (p.hearLoan call s.now stimulus).1
    dsimp only [Option.map_some, Option.bind_some]
    cases (p.hearLoan call s.now stimulus).2 with
    | some outcome => exact gives_executed hput call pool raw outcome
    | none => exact hput.gives

theorem begun_of_not_lent (hlent : ¬ s.IsLent call) : s.begun? call = none := by
  unfold begun?
  split
  · rename_i hcall
    exact absurd ⟨_, _, _, hcall⟩ hlent
  · rfl

theorem moved_of_not_exchanging (hexchanging : ¬ s.IsExchanging call) (stimulus : Stimulus) :
    s.moved? call stimulus = none := by
  unfold moved?
  split
  · rename_i hcall
    exact absurd ⟨_, _, _, hcall⟩ hexchanging
  · rfl

theorem gives_resume (s : Station) (task : Task) :
    Gives s (s.response? (.resume task)) (s.resume task) := by
  cases task with
  | call call =>
    show Gives s (s.begun? call) (s.resumeCall call)
    by_cases hlent : s.IsLent call
    · have hbegins : s.resumeCall call = s.beginExecution call := by
        obtain ⟨pool, commands, raw, hcall⟩ := hlent
        rw [resumeCall, hcall]
      rw [hbegins]
      exact gives_beginExecution hlent
    · rw [begun_of_not_lent hlent]
      exact (tacit_resumeCall hlent).gives
  | upkeep pool => exact (tacit_onPool s pool _).gives
  | listener channel => exact (tacit_onChannel s channel _).gives

theorem gives_callHears (s : Station) (call : CallId) (outcome : Outcome) :
    Gives s (s.response? (.hear (.call call) outcome)) (s.callHears call outcome) := by
  cases outcome with
  | stimulus stimulus =>
    show Gives s (s.moved? call stimulus) _
    by_cases hexchanging : s.IsExchanging call
    · have hmoves : s.callHears call (.stimulus stimulus) = s.executionMoved call stimulus := by
        obtain ⟨pool, commands, raw, hcall⟩ := hexchanging
        unfold callHears
        rw [hcall]
      rw [hmoves]
      exact gives_executionMoved hexchanging stimulus
    · rw [moved_of_not_exchanging hexchanging]
      exact (tacit_callHears fun _ _ => hexchanging).gives
  | dialled line => exact (tacit_callHears fun _ h => by contradiction).gives
  | launched fault => exact (tacit_callHears fun _ h => by contradiction).gives

theorem gives_hear (s : Station) (task : Task) (outcome : Outcome) :
    Gives s (s.response? (.hear task outcome)) (s.hear task outcome) := by
  cases task with
  | call call => exact gives_callHears s call outcome
  | upkeep pool =>
    cases outcome with
    | dialled line => exact (tacit_onPool s pool _).gives
    | stimulus _ | launched _ => exact (Tacit.refl s).gives
  | listener channel =>
    cases outcome with
    | dialled line => exact (tacit_onChannel s channel _).gives
    | stimulus stimulus => exact (tacit_onChannel s channel _).gives
    | launched _ => exact (Tacit.refl s).gives

theorem gives_expire (s : Station) (task : Task) :
    Gives s (s.response? (.expire task)) (s.expire task) := by
  cases task with
  | call call =>
    show Gives s (s.moved? call .expired) (s.callExpired call)
    by_cases hexchanging : s.IsExchanging call
    · have hmoves : s.callExpired call = s.executionMoved call .expired := by
        obtain ⟨pool, commands, raw, hcall⟩ := hexchanging
        unfold callExpired
        rw [hcall]
      rw [hmoves]
      exact gives_executionMoved hexchanging .expired
    · rw [moved_of_not_exchanging hexchanging]
      exact (tacit_callExpired hexchanging).gives
  | upkeep pool => exact (tacit_onPool s pool _).gives
  | listener channel => exact (tacit_onChannel s channel _).gives

/-- A call begins to execute commands, in the form it asked for. -/
theorem execute_gives (s : Station) (call : CallId) (studio : String) (commands : Commands)
    (options : ExecuteOptions) :
    (s.execute call studio commands options).texts = s.texts ∧
      ∀ c raw, (s.execute call studio commands options).raw? c = some raw →
        s.raw? c = some raw ∨ c = call ∧ options.raw = raw := by
  have hquiet : ∀ {s'}, Tacit s s' → s'.texts = s.texts ∧ ∀ c raw, s'.raw? c = some raw →
      s.raw? c = some raw ∨ c = call ∧ options.raw = raw := by
    intro s' h
    refine ⟨h.texts, ?_⟩
    intro c raw hraw
    exact .inl (h.raw c raw hraw)
  unfold execute
  split
  · exact hquiet (tacit_answer s call rfl)
  · rename_i link hlink
    split
    · exact hquiet (tacit_realtime s call link.channel _ true)
    · -- What is new is noted first; waking the call and borrowing for it are tacit.
      let asked := s.putCall call (.executing link.pool commands.toList options.raw .borrowing)
      have hlater := (tacit_wake asked (.call call)).trans
        (tacit_onPool (asked.wake (.call call)) link.pool (·.acquire call s.now))
      refine ⟨hlater.texts, ?_⟩
      intro c raw hraw
      have hasked : asked.raw? c = some raw := hlater.raw c raw hraw
      rw [raw?, show asked.calls.get? c = _ from Roster.get?_put s.calls c call _] at hasked
      split at hasked
      · rename_i heq
        exact .inr ⟨heq, Option.some.inj hasked⟩
      · exact .inl hasked

theorem gives_ifNew (h : Tacit s s') : Gives s none (if s.IsNew call then s' else s) := by
  split
  · exact h.gives
  · exact (Tacit.refl s).gives

/-- Every event but a new execution begins none, and gives out the response with which it ends an
exchange, and nothing else. -/
theorem gives_perform (s : Station)
    (hevent : ∀ call studio commands options, event ≠ .execute call studio commands options) :
    Gives s (s.response? event) (s.perform event) := by
  cases event with
  | configure call desired => exact gives_ifNew (tacit_configure s call desired)
  | launch call name => exact gives_ifNew (tacit_startJob s call _)
  | shutdown call => exact gives_ifNew (tacit_startJob s call _)
  | execute call studio commands options => exact absurd rfl (hevent call studio commands options)
  | acquire call pool => exact gives_ifNew (tacit_acquire s call pool)
  | connect call id host port timeout patience =>
    exact gives_ifNew (tacit_startCall s call rfl)
  | send call held commands => exact gives_ifNew (tacit_talk s call held .commands _)
  | check call held timeout => exact gives_ifNew (tacit_talk s call held .check _)
  | invalidate held => exact (tacit_changeHeld s held _).gives
  | release held pool => exact (tacit_release s held pool).gives
  | destroy held pool => exact (tacit_destroy s held pool).gives
  | lose held => exact (tacit_lose s held).gives
  | drain call pool => exact gives_ifNew (tacit_drainPool s call pool)
  | realtime call channel commands =>
    exact gives_ifNew (tacit_realtime s call channel commands false)
  | stop call channel => exact gives_ifNew (tacit_stopChannel s call channel)
  | cancel call =>
    rw [perform]
    split
    · exact (tacit_cancel s call).gives
    · exact (Tacit.refl s).gives
  | clear pool => exact (tacit_onPool s pool _).gives
  | letGo kept => exact (tacit_letGoUnheld s kept).gives
  | resume task => exact gives_resume s task
  | hear task outcome => exact gives_hear s task outcome
  | expire task => exact gives_expire s task
  | clock now =>
    have hsame : Tacit s { s with now := now } := .of_same rfl rfl
    exact hsame.gives

/-- A call was asked for that executes commands and wants the response in this form. -/
def Asked (events : List StationEvent) (call : CallId) (raw : Bool) : Prop :=
  ∃ studio commands options, .execute call studio commands options ∈ events ∧ options.raw = raw

/-- Every event gives out the response with which it ends an exchange, and nothing else. -/
theorem texts_perform (s : Station) (event : StationEvent) :
    (s.perform event).texts = s.texts ++ (s.response? event).toList.map Response.shown := by
  by_cases hevent : ∃ call studio commands options, event = .execute call studio commands options
  · obtain ⟨call, studio, commands, options, rfl⟩ := hevent
    show (s.perform _).texts = s.texts ++ []
    rw [perform, List.append_nil]
    split
    · exact (execute_gives s call studio commands options).1
    · rfl
  · exact (gives_perform s fun _ _ _ _ h => hevent ⟨_, _, _, _, h⟩).texts

/-- An execution goes on in the form it was asked for. -/
theorem raw_perform (h : (s.perform event).raw? call = some raw) :
    s.raw? call = some raw ∨ Asked [event] call raw := by
  by_cases hevent : ∃ c studio commands options, event = .execute c studio commands options
  · obtain ⟨c, studio, commands, options, rfl⟩ := hevent
    rw [perform] at h
    split at h
    · obtain hbefore | ⟨rfl, hraw⟩ := (execute_gives s c studio commands options).2 call raw h
      · exact .inl hbefore
      · exact .inr ⟨studio, commands, options, List.mem_singleton_self _, hraw⟩
    · exact .inl h
  · exact .inl ((gives_perform s fun _ _ _ _ h => hevent ⟨_, _, _, _, h⟩).raw call raw h)

theorem of_responseOf {r : Response} {outcome : Option (Except Fault String)}
    (h : responseOf? call raw outcome = some r) : r.call = call ∧ r.raw = raw := by
  unfold responseOf? at h
  split at h
  · obtain rfl := Option.some.inj h
    exact ⟨rfl, rfl⟩
  · contradiction

theorem raw_of_begun {r : Response} (h : s.begun? call = some r) : s.raw? r.call = some r.raw := by
  unfold begun? at h
  split at h
  · rename_i hcall
    obtain ⟨rfl, rfl⟩ := of_responseOf h
    rw [raw?, hcall]
    rfl
  · contradiction

theorem raw_of_moved {r : Response} {stimulus : Stimulus} (h : s.moved? call stimulus = some r) :
    s.raw? r.call = some r.raw := by
  unfold moved? at h
  split at h
  · rename_i hcall
    obtain ⟨rfl, rfl⟩ := of_responseOf h
    rw [raw?, hcall]
    rfl
  · contradiction

/-- A response comes for a call that executes commands, in the form it asked for. -/
theorem raw_of_response {r : Response} (h : s.response? event = some r) :
    s.raw? r.call = some r.raw := by
  unfold response? at h
  split at h
  · exact raw_of_begun h
  · exact raw_of_moved h
  · exact raw_of_moved h
  · contradiction

/-! ## Any number of events -/

theorem run_concat (s : Station) (events : List StationEvent) (event : StationEvent) :
    s.run (events ++ [event]) = (s.run events).perform event :=
  run_append s events [event]

/-- Every execution was asked for, in the form it has. -/
theorem asked_of_raw_run (h : ((opened settings).run events).raw? call = some raw) :
    Asked events call raw := by
  induction events using List.reverseRecOn with
  | nil => contradiction
  | append_singleton events event ih =>
    rw [run_concat] at h
    obtain hbefore | ⟨studio, commands, options, hmem, hraw⟩ := raw_perform h
    · obtain ⟨studio, commands, options, hmem, hraw⟩ := ih hbefore
      exact ⟨studio, commands, options, List.mem_append_left _ hmem, hraw⟩
    · exact ⟨studio, commands, options, List.mem_append_right _ hmem, hraw⟩

/-- Whatever was given out was the response with which some event ended an exchange. -/
theorem response_of_mem_texts {text : String}
    (h : (call, text) ∈ ((opened settings).run events).texts) :
    ∃ before event after r, events = before ++ event :: after ∧
      ((opened settings).run before).response? event = some r ∧ r.shown = (call, text) := by
  induction events using List.reverseRecOn with
  | nil => contradiction
  | append_singleton events event ih =>
    rw [run_concat, texts_perform, List.mem_append] at h
    obtain hold | hnew := h
    · -- It was given out before the last event.
      obtain ⟨before, earlier, after, r, rfl, hresponse, hshown⟩ := ih hold
      exact ⟨before, earlier, after ++ [event], r, by simp, hresponse, hshown⟩
    · obtain ⟨r, hr, hshown⟩ := List.mem_map.mp hnew
      exact ⟨events, event, [], r, rfl, Option.mem_toList.mp hr, hshown⟩

/-- A call that asked for text inside markup gets nothing but responses written that way. Such text
opens and closes nothing, and the response can be read from it, whatever it was: reading undoes
writing on every text, and a text is written character by character. -/
theorem escaped_text_inert_and_readable :
    (∀ t u : String, Inert (escape t).toList ∧ unescape (escape t) = t ∧
      escape (t ++ u) = escape t ++ escape u) ∧
    (∀ (s : Station) (event : StationEvent) (r : Response), s.response? event = some r →
      (r.call, .executed (some (if r.raw then r.text else escape r.text))) ∈
        (s.perform event).answers) ∧
    ∀ (settings : RegistrySettings) (events : List StationEvent) (call : CallId) (text : String),
      (call, .executed (some text)) ∈ ((opened settings).run events).answers →
      (∀ raw, Asked events call raw → raw = false) →
      Inert text.toList ∧ ∃ before event after, events = before ++ event :: after ∧
        ((opened settings).run before).response? event = some ⟨call, false, unescape text⟩ ∧
        text = escape (unescape text) := by
  refine ⟨?_, ?_, ?_⟩
  · intro t u
    exact ⟨Text.Markup.inert_escape t, Text.Markup.unescape_escape t,
      Text.Markup.escape_append t u⟩
  · intro s event r hresponse
    apply mem_texts.mp
    rw [texts_perform, hresponse]
    exact List.mem_append_right _ (List.mem_singleton_self _)
  · intro settings events call text hanswer hasked
    obtain ⟨before, event, after, r, rfl, hresponse, hshown⟩ :=
      response_of_mem_texts (mem_texts.mpr hanswer)
    obtain ⟨rfl, rfl⟩ := Prod.mk.inj hshown
    -- The call was asked for before its response came, and never with the response as it is.
    obtain ⟨studio, commands, options, hmem, hoptions⟩ :=
      asked_of_raw_run (raw_of_response hresponse)
    have hraw : r.raw = false :=
      hasked r.raw ⟨studio, commands, options, List.mem_append_left _ hmem, hoptions⟩
    rw [hraw, if_neg Bool.false_ne_true]
    refine ⟨Text.Markup.inert_escape r.text, before, event, after, rfl, ?_, ?_⟩
    · rw [Text.Markup.unescape_escape, hresponse, ← hraw]
    · rw [Text.Markup.unescape_escape]

/-! A studio answers with text that looks written for markup already, and with an element. -/

def hostileReply : String := "&amp;lt;<b>'"

def titleAsked : List StationEvent :=
  .configure 1 onlyCamera :: List.replicate 3 (.resume (.call 1)) ++
    [.execute 2 camera.name (.single "title") {}, .resume (.call 2),
      .hear (.call 2) (.dialled (.ok 0)), .resume (.call 2),
      .hear (.call 2) (.stimulus (.accepted 6)), .hear (.call 2) (.stimulus .flushed)]

def titleAnswered : StationEvent :=
  .hear (.call 2) (.stimulus (.received (Text.encode hostileReply ++ responseMark)))

theorem hostileReply_readable :
    (2, .executed (some (escape hostileReply))) ∈
        (((opened {}).run titleAsked).perform titleAnswered).answers ∧
      Inert (escape hostileReply).toList ∧ ∃ before event after,
        titleAsked ++ [titleAnswered] = before ++ event :: after ∧
        ((opened {}).run before).response? event =
          some ⟨2, false, unescape (escape hostileReply)⟩ ∧
        escape hostileReply = escape (unescape (escape hostileReply)) := by
  have hresponse : ((opened {}).run titleAsked).response? titleAnswered =
      some ⟨2, false, hostileReply⟩ := by cbv
  have hanswer := escaped_text_inert_and_readable.2.1 _ _ _ hresponse
  refine ⟨hanswer, escaped_text_inert_and_readable.2.2 {} (titleAsked ++ [titleAnswered]) 2
    (escape hostileReply) ?_ ?_⟩
  · rw [run_concat]
    exact hanswer
  · rintro raw ⟨studio, commands, options, hmem, rfl⟩
    simp [titleAsked, titleAnswered] at hmem
    obtain ⟨-, -, rfl⟩ := hmem
    rfl

end BroadcastLink.Station
