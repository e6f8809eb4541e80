import BroadcastLink.Proofs.Station.Acts

/-!
# Executing commands

A station with one pool, all of whose calls execute commands on it: the sessions of the pool are in
step with their wires, and every response given out is the reply to the commands of its call. What a
call does next, what its connection does for it, time running out and giving up all keep it so.
-/

namespace BroadcastLink

/-- The response as its caller wants it shown. -/
def Order.shown (order : Order) (text : String) : String :=
  if order.raw then text else Text.Markup.escape text

/-- Every wire has an honest server at its other end. -/
def Honest (wires : Roster LineId Wire) : Prop :=
  ∀ line (w : Wire), wires.get? line = some w → w.Honest

namespace Station

variable {wires wires' : Roster LineId Wire} {orders : Roster CallId Order} {s s' : Station}
  {call : CallId} {order : Order} {p : Pool} {session : Session} {stimulus : Stimulus}

/-- The one pool is in step with its wires, the calls in progress execute what they were given, and
every response that was given out arrived as the reply to the commands of its call. -/
structure Serving (wires : Roster LineId Wire) (orders : Roster CallId Order) (s : Station) :
    Prop where
  pool : ∃ p, s.pools.get? 0 = some p ∧ p.Attuned wires orders
  others : ∀ id, id ≠ 0 → s.pools.get? id = none
  links : ∀ name (link : Link), s.registry.links.get? name = some link → link.pool = 0
  calls : s.Executing orders
  answers : ∀ call text, (call, Answer.executed (some text)) ∈ s.answers →
    ∃ order, orders.get? call = some order ∧ (order.commands ≠ [] →
      ∃ arrived, Arrived wires call order.commands arrived ∧ text = order.shown arrived)

theorem Serving.undisturbed (h : Serving wires orders s) (hsame : Undisturbed orders s s') :
    Serving wires orders s' := by
  obtain ⟨p, hp, hattuned⟩ := h.pool
  obtain ⟨q, hq, hsessions⟩ := hsame.pool p hp
  refine ⟨⟨q, hq, hattuned.sameSessions hsessions⟩, hsame.others h.others, ?_, hsame.calls h.calls,
    fun call text hmem => h.answers call text (hsame.answers call _ hmem)⟩
  rw [hsame.registry]
  exact h.links

/-- The pool acts while the wires get longer. -/
theorem Serving.onPool (h : Serving wires orders s) (hgrown : Grown wires wires')
    {f : Pool → Pool} (hf : ∀ p, s.pools.get? 0 = some p → p.Attuned wires orders →
      (f p).Attuned wires' orders) : Serving wires' orders (s.onPool 0 f) := by
  obtain ⟨p, hp, hattuned⟩ := h.pool
  -- The pool is put back first, with the wires as they are now; then its acts are done.
  have hput : Serving wires' orders (s.withPool (f p)) := by
    refine ⟨⟨f p, ?_, hf p hp hattuned⟩, fun id hid => ?_, h.links, h.calls,
      fun call text hmem => ?_⟩
    · rw [withPool, Roster.get?_put, if_pos rfl]
    · rw [withPool, Roster.get?_put, if_neg hid]
      exact h.others id hid
    · obtain ⟨order, horder, hanswer⟩ := h.answers call text hmem
      refine ⟨order, horder, fun hne => ?_⟩
      obtain ⟨arrived, harrived, htext⟩ := hanswer hne
      exact ⟨arrived, harrived.grown hgrown, htext⟩
  exact hput.undisturbed (undisturbed_onPool hp h.calls f)

/-- The wires change while no session notices. -/
theorem Serving.unmoved (h : Serving wires orders s) (hgrown : Grown wires wires')
    (hunmoved : Unmoved wires wires') : Serving wires' orders s := by
  obtain ⟨p, hp, hattuned⟩ := h.pool
  refine ⟨⟨p, hp, hattuned.unmoved hunmoved⟩, h.others, h.links, h.calls, fun call text hmem => ?_⟩
  obtain ⟨order, horder, hanswer⟩ := h.answers call text hmem
  refine ⟨order, horder, fun hne => ?_⟩
  obtain ⟨arrived, harrived, htext⟩ := hanswer hne
  exact ⟨arrived, harrived.grown hgrown, htext⟩

/-! ## Answers -/

theorem Serving.finish (h : Serving wires orders s) (call : CallId) {a : Answer}
    (ha : ∀ text, a ≠ .executed text) : Serving wires orders (s.finish call a) :=
  h.undisturbed (undisturbed_finish s call ha)

/-- A call gets the response that arrived for it. -/
theorem Serving.respond (h : Serving wires orders s) (horder : orders.get? call = some order)
    {text : String} (harrived : order.commands ≠ [] → Arrived wires call order.commands text) :
    Serving wires orders (s.finish call (.executed (some (order.shown text)))) := by
  obtain ⟨hpool, hothers, hlinks, hcalls, hanswers⟩ := h.undisturbed (undisturbed_erase s call)
  refine ⟨hpool, hothers, hlinks, hcalls, fun c shown hmem => ?_⟩
  rcases List.mem_append.mp hmem with hold | hnew
  · exact hanswers c shown hold
  · obtain ⟨rfl, heq⟩ := Prod.mk.inj (List.mem_singleton.mp hnew)
    obtain rfl := Option.some.inj (Answer.executed.inj heq)
    exact ⟨order, horder, fun hne => ⟨text, harrived hne, rfl⟩⟩

/-- The commands are through. -/
theorem Serving.executed (h : Serving wires orders s) (horder : orders.get? call = some order)
    {outcome : Except Fault String} (harrived : ∀ text, outcome = .ok text →
      order.commands ≠ [] → Arrived wires call order.commands text) :
    Serving wires orders (s.executed call 0 order.raw outcome) := by
  have hreleased := h.onPool (f := (·.release call)) (.refl wires)
    fun p _ hattuned => hattuned.release call
  cases outcome with
  | error fault => exact hreleased.finish call fun _ heq => by contradiction
  | ok text => exact hreleased.respond horder (harrived text rfl)

/-! ## Executions -/

/-- What is over as soon as it begins on a lent session has failed, or was nothing. -/
theorem eq_nil_of_beginOn_over_ok {commands : List String} {text : String}
    (h : (p.beginOn call (·.send commands)).2 = some (.ok text)) : commands = [] := by
  unfold Pool.beginOn at h
  split at h
  · split at h
    · rename_i outcome hover
      rw [Option.some.inj h] at hover
      exact Session.eq_nil_of_send_over_ok hover
    · contradiction
  · contradiction

/-- A call that has its session sends its commands on it. -/
theorem Serving.beginExecution (h : Serving wires orders s) (call : CallId) :
    Serving wires orders (s.beginExecution call) := by
  obtain ⟨p, hp, -⟩ := h.pool
  unfold Station.beginExecution
  split
  · rename_i hcall
    obtain ⟨order, _, horder, heq⟩ := h.calls call _ hcall
    obtain ⟨rfl, rfl, rfl, -⟩ := Activity.executing.inj heq
    rw [hp]
    dsimp only [Option.map_some]
    have hbegun : Serving wires orders
        (s.onPool 0 fun _ => (p.beginOn call (·.send order.commands)).1) := by
      refine h.onPool (.refl wires) fun q hq hattuned => ?_
      obtain rfl := Option.some.inj (hp.symm.trans hq)
      exact hattuned.send horder
    split
    · rename_i outcome hover
      refine hbegun.executed horder fun text htext hne => absurd ?_ hne
      exact eq_nil_of_beginOn_over_ok (hover.trans (congrArg some htext))
    · exact hbegun.undisturbed (undisturbed_putCall _ horder .exchanging)
  · exact h

/-- The connection did something for the exchange of a call's commands. -/
theorem Serving.executionMoved (h : Serving wires orders s)
    {activity : Activity} (hcall : s.calls.get? call = some activity)
    (hp : s.pools.get? 0 = some p) (hloan : p.loans.get? call = some session)
    (hwires : WiresAfter wires wires' call session stimulus)
    (hexchanging : ∃ pool commands raw, activity = .executing pool commands raw .exchanging) :
    Serving wires' orders (s.executionMoved call stimulus) := by
  obtain ⟨pool, commands, raw, rfl⟩ := hexchanging
  obtain ⟨order, _, horder, heq⟩ := h.calls call _ hcall
  obtain ⟨rfl, rfl, rfl, -⟩ := Activity.executing.inj heq
  obtain ⟨q, hq, hattuned⟩ := h.pool
  obtain rfl := Option.some.inj (hp.symm.trans hq)
  obtain ⟨hheard, harrived⟩ := hattuned.hearLoan hloan hwires s.now
  unfold Station.executionMoved
  rw [hcall]
  dsimp only
  rw [hp]
  dsimp only [Option.map_some]
  have hmoved : Serving wires' orders
      (s.onPool 0 fun _ => (p.hearLoan call s.now stimulus).1) :=
    h.onPool hwires.grown fun _ _ _ => hheard
  split
  · rename_i outcome hover
    refine hmoved.executed horder fun text htext _ => ?_
    obtain ⟨found, hfound, hreply⟩ := harrived text (hover.trans (congrArg some htext))
    obtain rfl := Option.some.inj (horder.symm.trans hfound)
    exact hreply
  · exact hmoved

/-- Time ran out for the exchange of a call's commands. -/
theorem Serving.executionExpired (h : Serving wires orders s) (hhonest : Honest wires)
    {pool : PoolId} {commands : List String} {raw : Bool}
    (hcall : s.calls.get? call = some (.executing pool commands raw .exchanging)) :
    Serving wires orders (s.executionMoved call .expired) := by
  obtain ⟨p, hp, hattuned⟩ := h.pool
  cases hloan : p.loans.get? call with
  | none =>
    obtain ⟨order, _, horder, heq⟩ := h.calls call _ hcall
    obtain ⟨rfl, -⟩ := Activity.executing.inj heq
    have hheard : p.hearLoan call s.now .expired = (p, none) := by rw [Pool.hearLoan, hloan]
    unfold Station.executionMoved
    rw [hcall]
    dsimp only
    rw [hp]
    dsimp only [Option.map_some]
    rw [hheard]
    exact h.onPool (.refl wires) fun _ _ _ => hattuned
  | some session =>
    obtain ⟨w, n, hw, -⟩ := (hattuned.unlent hloan).inStep session (Multiset.mem_cons_self _ _)
    exact h.executionMoved hcall hp hloan ⟨⟨w, w, hw, hw,
      Wire.after_expired (hhonest session.line w hw) call session⟩, fun _ _ => rfl⟩ ⟨_, _, _, rfl⟩

/-! ## Whatever a call does -/

/-- A call is not in progress, or it executes what it was given. -/
theorem Serving.activity (h : Serving wires orders s) (call : CallId) :
    s.calls.get? call = none ∨ ∃ order stage, orders.get? call = some order ∧
      s.calls.get? call = some (.executing 0 order.commands order.raw stage) := by
  cases hcall : s.calls.get? call with
  | none => exact .inl rfl
  | some activity =>
    obtain ⟨order, stage, horder, rfl⟩ := h.calls call activity hcall
    exact .inr ⟨order, stage, horder, rfl⟩

theorem known_of_order (h : orders.get? call = some order) : orders.get? call ≠ none := by
  rw [h]
  exact Option.some_ne_none order

theorem Serving.resumeCall (h : Serving wires orders s) (call : CallId) :
    Serving wires orders (s.resumeCall call) := by
  unfold Station.resumeCall
  obtain hnone | ⟨order, stage, horder, hcall⟩ := h.activity call
  · rwa [hnone]
  · rw [hcall]
    cases stage with
    | borrowing =>
      exact h.onPool (.refl wires) fun p _ hattuned =>
        hattuned.resume (known_of_order horder) s.now
    | lent => exact h.beginExecution call
    | exchanging => exact h

theorem Serving.borrowOverdue (h : Serving wires orders s) (hhonest : Honest wires)
    (hcall : orders.get? call ≠ none) : Serving wires orders (s.borrowOverdue 0 call) := by
  unfold Station.borrowOverdue
  split
  · split
    · exact h.onPool (.refl wires) fun p _ hattuned => hattuned.stageExpired hcall hhonest s.now
    · exact h.onPool (.refl wires) fun p _ hattuned => hattuned.borrowExpired hcall s.now
  · exact h

theorem Serving.callExpired (h : Serving wires orders s) (hhonest : Honest wires)
    (call : CallId) : Serving wires orders (s.callExpired call) := by
  unfold Station.callExpired
  obtain hnone | ⟨order, stage, horder, hcall⟩ := h.activity call
  · rwa [hnone]
  · rw [hcall]
    cases stage with
    | borrowing => exact h.borrowOverdue hhonest (known_of_order horder)
    | lent => exact h
    | exchanging => exact h.executionExpired hhonest hcall

/-- A call that is given up lets go of its place, or loses its session. -/
theorem Serving.cancel (h : Serving wires orders s) (call : CallId) :
    Serving wires orders (s.cancel call) := by
  unfold Station.cancel
  obtain hnone | ⟨order, stage, horder, hcall⟩ := h.activity call
  · rwa [hnone]
  · rw [hcall]
    have hlost := h.onPool (f := (·.loseLoan call)) (.refl wires)
      fun p _ hattuned => hattuned.loseLoan call
    cases stage with
    | borrowing =>
      have hcancelled := h.onPool (f := (·.cancelBorrow call)) (.refl wires)
        fun p _ hattuned => hattuned.cancelBorrow (known_of_order horder)
      exact hcancelled.finish call fun _ heq => by contradiction
    | lent | exchanging => exact hlost.finish call fun _ heq => by contradiction

/-! ## A new call -/

theorem ne_of_order (hfresh : orders.get? call = none) {c : CallId}
    (horder : orders.get? c = some order) : c ≠ call := by
  rintro rfl
  rw [hfresh] at horder
  contradiction

/-- Orders are taken in for new calls only, so those there were stay in force. -/
theorem Serving.ordered (h : Serving wires orders s) (hfresh : orders.get? call = none)
    (order : Order) : Serving wires (orders.put call order) s := by
  have hkept : ∀ c (o : Order), orders.get? c = some o →
      (orders.put call order).get? c = some o := by
    intro c o ho
    rw [Roster.get?_put, if_neg (ne_of_order hfresh ho)]
    exact ho
  obtain ⟨p, hp, hattuned⟩ := h.pool
  refine ⟨⟨p, hp, hattuned.apart, fun c hc => ?_, hattuned.sessions, fun c t x hloan hx => ?_⟩,
    h.others, h.links, fun c activity hactivity => ?_, fun c text hmem => ?_⟩
  · obtain ⟨o, ho⟩ := Option.ne_none_iff_exists'.mp (hattuned.known c hc)
    exact known_of_order (hkept c o ho)
  · obtain ⟨o, w, ho, hw, hcarries⟩ := hattuned.loans c t x hloan hx
    exact ⟨o, w, hkept c o ho, hw, hcarries⟩
  · obtain ⟨o, stage, ho, heq⟩ := h.calls c activity hactivity
    exact ⟨o, stage, hkept c o ho, heq⟩
  · obtain ⟨o, ho, hanswer⟩ := h.answers c text hmem
    exact ⟨o, hkept c o ho, hanswer⟩

theorem pools_wake (s : Station) (t : Task) : (s.wake t).pools = s.pools := by
  unfold wake
  split <;> rfl

theorem Serving.execute (h : Serving wires orders s) (hfresh : orders.get? call = none)
    (studio : String) (commands : Commands) (raw : Bool) :
    Serving wires (orders.put call ⟨commands.toList, raw⟩)
      (s.execute call studio commands ⟨false, raw⟩) := by
  have hordered := h.ordered hfresh ⟨commands.toList, raw⟩
  obtain ⟨p, hp, hattuned⟩ := h.pool
  unfold Station.execute
  split
  · exact hordered.undisturbed (undisturbed_answer s call fun _ heq => by contradiction)
  · rename_i link hlink
    have hthere : (orders.put call ⟨commands.toList, raw⟩).get? call =
        some ⟨commands.toList, raw⟩ := by
      rw [Roster.get?_put, if_pos rfl]
    have hput := undisturbed_putCall s hthere .borrowing
    have hstarted := hordered.undisturbed (hput.trans (undisturbed_wake _ (.call call)))
    -- The pool knows only calls that were made before.
    have hunknown : p.IsFresh call := by
      by_contra hknown
      refine hattuned.known call ?_ hfresh
      rw [Pool.IsFresh] at hknown
      tauto
    rw [h.links studio link hlink, if_neg Bool.false_ne_true]
    refine hstarted.onPool (.refl wires) fun q hq hattuned' => ?_
    rw [pools_wake] at hq
    obtain rfl := Option.some.inj (hp.symm.trans hq)
    exact hattuned'.acquire (known_of_order hthere) hunknown _

end Station

end BroadcastLink
