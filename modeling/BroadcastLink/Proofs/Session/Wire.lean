import BroadcastLink.Proofs.Session.Writing

/-!
# A command connection, seen from both ends

A wire keeps what was written on a connection, each byte with the call that wrote it, the replies
that the server gave, each with the line it answers, and how much of them has been read. A server is
honest: it answers complete lines in their order, none twice and none it has not got, with texts
that contain no end mark. Whether it answers a line at all, and when, is up to it.
-/

namespace BroadcastLink

/-- What went over a command connection, seen from both ends. -/
structure Wire where
  written : List (CallId × UInt8) := []
  /-- The replies in the order they were given, each with the number of the line it answers. -/
  replies : List (Nat × Bytes) := []
  /-- How many bytes of them have been read. -/
  read : Nat := 0
  deriving DecidableEq, Repr

/-- Bytes with the call that writes them. -/
def signed (call : CallId) (bytes : Bytes) : List (CallId × UInt8) := bytes.map fun b => (call, b)

/-- The bytes alone. -/
def unsigned (bytes : List (CallId × UInt8)) : Bytes := bytes.map (·.2)

@[simp] theorem unsigned_signed (call : CallId) (bytes : Bytes) :
    unsigned (signed call bytes) = bytes := by
  rw [unsigned, signed, List.map_map]
  exact List.map_id bytes

@[simp] theorem unsigned_append (front back : List (CallId × UInt8)) :
    unsigned (front ++ back) = unsigned front ++ unsigned back :=
  List.map_append

theorem signed_append (call : CallId) (front back : Bytes) :
    signed call (front ++ back) = signed call front ++ signed call back :=
  List.map_append

/-- What a connection does for whoever wants something of it. -/
inductive Happening where
  | accepted (n : Nat)
  | writeFailed (fault : IoFault)
  | flushed
  | flushFailed (fault : IoFault)
  /-- So many bytes are read, or all there are. -/
  | received (n : Nat)
  | ended
  | readFailed (fault : IoFault)
  deriving DecidableEq, Repr

namespace Wire

/-- How many complete lines were written. -/
def lines (w : Wire) : Nat := lineCount (unsigned w.written)

/-- What the server has sent: every reply with an end mark behind it. -/
def sent (w : Wire) : Bytes := joinSegments (w.replies.map (·.2))

/-- What has been read, and what is still on its way. -/
def received (w : Wire) : Bytes := w.sent.take w.read

def unread (w : Wire) : Bytes := w.sent.drop w.read

/-- What a session knows of the wire. -/
def transcript (w : Wire) : Transcript := ⟨unsigned w.written, w.received⟩

/-- May the server give a line this reply? -/
def MayAnswer (w : Wire) (line : Nat) (text : Bytes) : Prop :=
  (∀ reply ∈ w.replies, reply.1 < line) ∧ line < w.lines ∧ ¬ responseMark <:+: text

instance (w : Wire) (line : Nat) (text : Bytes) : Decidable (w.MayAnswer line text) :=
  inferInstanceAs (Decidable (_ ∧ _ ∧ _))

/-- The server answers a line. -/
def answer (w : Wire) (line : Nat) (text : Bytes) : Wire :=
  { w with replies := w.replies ++ [(line, text)] }

/-- What a connection does for a call that wants it, and what the call is told. -/
def meet (w : Wire) (call : CallId) : Want → Happening → Option (Wire × Stimulus)
  | .write _ bytes, .accepted n =>
    some ({ w with written := w.written ++ signed call (bytes.take n) }, .accepted n)
  | .write _ _, .writeFailed fault => some (w, .writeFailed fault)
  | .flush _, .flushed => some (w, .flushed)
  | .flush _, .flushFailed fault => some (w, .flushFailed fault)
  | .read _ _, .received n =>
    some ({ w with read := w.read + (w.unread.take n).length }, .received (w.unread.take n))
  | .read _ _, .ended => some (w, .ended)
  | .read _ _, .readFailed fault => some (w, .readFailed fault)
  | _, _ => none

/-- The replies answer lines in their order, each a line that was written, with texts that contain
no end mark; and no more was read than was sent. -/
structure Honest (w : Wire) : Prop where
  order : (w.replies.map (·.1)).Pairwise (· < ·)
  asked : ∀ reply ∈ w.replies, reply.1 < w.lines
  markless : ∀ reply ∈ w.replies, cutAtMark reply.2 = none
  read : w.read ≤ w.sent.length

/-- What was written before is followed by more, and so are the replies. -/
structure Grows (w w' : Wire) : Prop where
  written : w.written <+: w'.written
  replies : w.replies <+: w'.replies

/-- The commands of a call stand on the wire in one piece, from the beginning of a line on, and the
text is the reply to the last line of them. -/
def Delivered (w : Wire) (call : CallId) (commands : List String) (text : Bytes) : Prop :=
  ∃ before behind, w.written = before ++ signed call (lineBytes commands) ++ behind ∧
    EndsLine (unsigned before) ∧
    (lineCount (unsigned before ++ lineBytes commands) - 1, text) ∈ w.replies

/-- Once a call has written the rest, its commands will be the last on the wire. -/
def Carries (w : Wire) (call : CallId) (commands : List String) (rest : Bytes) : Prop :=
  ∃ before, w.written ++ signed call rest = before ++ signed call (lineBytes commands) ∧
    EndsLine (unsigned before)

variable {w w' : Wire} {call : CallId}

/-! ## The server -/

theorem cutAtMark_of_not_infix {text : Bytes} (h : ¬ responseMark <:+: text) :
    cutAtMark text = none := by
  cases hcut : cutAtMark text with
  | none => rfl
  | some cut => exact absurd ⟨cut.1, cut.2, (eq_append_of_cutAtMark hcut).symm⟩ h

theorem honest_new : Honest {} where
  order := List.Pairwise.nil
  asked := fun reply h => by contradiction
  markless := fun reply h => by contradiction
  read := Nat.le_refl 0

theorem sent_answer (w : Wire) (line : Nat) (text : Bytes) :
    (w.answer line text).sent = w.sent ++ joinSegments [text] := by
  rw [sent, answer, List.map_append, joinSegments_append]
  rfl

/-- A reply keeps the wire honest, and nobody has read of it yet. -/
theorem Honest.answer (h : w.Honest) {line : Nat} {text : Bytes} (hmay : w.MayAnswer line text) :
    (w.answer line text).Honest ∧ (w.answer line text).transcript = w.transcript := by
  obtain ⟨hlast, hline, hmark⟩ := hmay
  have hsent := sent_answer w line text
  refine ⟨⟨?_, ?_, ?_, ?_⟩, ?_⟩
  · rw [Wire.answer, List.map_append, List.pairwise_append]
    refine ⟨h.order, List.pairwise_singleton _ _, fun i hi j hj => ?_⟩
    obtain ⟨reply, hreply, rfl⟩ := List.mem_map.mp hi
    rw [List.mem_singleton.mp hj]
    exact hlast reply hreply
  · intro reply hreply
    rcases List.mem_append.mp hreply with hold | hnew
    · exact h.asked reply hold
    · rw [List.mem_singleton.mp hnew]
      exact hline
  · intro reply hreply
    rcases List.mem_append.mp hreply with hold | hnew
    · exact h.markless reply hold
    · rw [List.mem_singleton.mp hnew]
      exact cutAtMark_of_not_infix hmark
  · rw [hsent, List.length_append]
    exact Nat.le_trans h.read (Nat.le_add_right _ _)
  · show Transcript.mk _ ((w.answer line text).sent.take w.read) = ⟨_, w.sent.take w.read⟩
    rw [hsent, List.take_append_of_le_length h.read]
    rfl

theorem grows_answer (w : Wire) (line : Nat) (text : Bytes) : w.Grows (w.answer line text) :=
  ⟨List.prefix_refl _, List.prefix_append _ _⟩

theorem Grows.refl (w : Wire) : w.Grows w := ⟨List.prefix_refl _, List.prefix_refl _⟩

/-- What was delivered stays so. -/
theorem Delivered.grow {commands : List String} {text : Bytes}
    (h : w.Delivered call commands text) (hgrows : w.Grows w') :
    w'.Delivered call commands text := by
  obtain ⟨before, behind, hwritten, hends, hreply⟩ := h
  obtain ⟨more, hmore⟩ := hgrows.written
  refine ⟨before, behind ++ more, ?_, hends, hgrows.replies.subset hreply⟩
  rw [← hmore, hwritten, List.append_assoc]

/-- Numbers that grow strictly are at least as great as their places. -/
theorem le_of_pairwise_lt {numbers : List Nat} (h : numbers.Pairwise (· < ·)) {k n : Nat}
    (hk : numbers[k]? = some n) : k ≤ n := by
  induction k generalizing n with
  | zero => exact Nat.zero_le n
  | succ k ih =>
    obtain ⟨hlt, rfl⟩ := List.getElem?_eq_some_iff.mp hk
    have hbefore := ih (List.getElem?_eq_getElem (show k < numbers.length by omega))
    exact Nat.lt_of_le_of_lt hbefore (List.pairwise_iff_getElem.mp h k (k + 1) _ hlt (by omega))

/-- When as many replies have been read as lines were written, no line was passed over: the last
reply is the one to the last line. -/
theorem Honest.reply_to_last (h : w.Honest) {text : Bytes} (hpos : 0 < w.lines)
    (hsegment : (segments w.received)[w.lines - 1]? = some text) :
    (w.lines - 1, text) ∈ w.replies := by
  -- What has been read is the beginning of what was sent, so its segments are the first replies.
  have hprefix : segments w.received <+: w.replies.map (·.2) := by
    have hsent := segments_prefix (List.take_prefix w.read w.sent)
    rwa [sent, segments_joinSegments fun text htext => ?_] at hsent
    obtain ⟨reply, hreply, rfl⟩ := List.mem_map.mp htext
    exact h.markless reply hreply
  obtain ⟨later, hlater⟩ := hprefix
  have htext : (w.replies.map (·.2))[w.lines - 1]? = some text := by
    rw [← hlater, List.getElem?_append_left (List.getElem?_eq_some_iff.mp hsegment).1]
    exact hsegment
  rw [List.getElem?_map] at htext
  obtain ⟨⟨line, found⟩, hreply, rfl⟩ := Option.map_eq_some_iff.mp htext
  have hmem := List.mem_of_getElem? hreply
  -- The replies before this one answer different earlier lines, and there are no more lines than
  -- that.
  have hleast : w.lines - 1 ≤ line :=
    le_of_pairwise_lt h.order (by rw [List.getElem?_map, hreply]; rfl)
  have hmost : line < w.lines := h.asked _ hmem
  rwa [show line = w.lines - 1 by omega] at hmem

/-! ## The sessions -/

/-- The wire after it did something for the exchange that a call runs on a session. -/
structure After (w w' : Wire) (call : CallId) (s : Session) (stimulus : Stimulus) : Prop where
  transcript : w'.transcript = w.transcript.after s stimulus
  written : w'.written = w.written ++ signed call (s.taken stimulus)
  replies : w'.replies = w.replies
  honest : w'.Honest

theorem After.grows {s : Session} {stimulus : Stimulus} (h : After w w' call s stimulus) :
    w.Grows w' := by
  refine ⟨?_, ?_⟩
  · rw [h.written]
    exact List.prefix_append _ _
  · exact h.replies.symm ▸ List.prefix_refl _

/-- Neither end of a wire moves when nothing is written or read. -/
theorem after_quiet (h : w.Honest) (call : CallId) {s : Session} {stimulus : Stimulus}
    (htranscript : w.transcript.after s stimulus = w.transcript)
    (htaken : s.taken stimulus = []) : After w w call s stimulus := by
  refine ⟨htranscript.symm, ?_, rfl, h⟩
  rw [htaken]
  exact (List.append_nil _).symm

/-- Time passes on no wire. -/
theorem after_expired (h : w.Honest) (call : CallId) (s : Session) :
    After w w call s .expired := by
  apply after_quiet h call
  · unfold Transcript.after
    cases s.exchange.map Exchange.stage with
    | none => rfl
    | some stage => cases stage <;> rfl
  · unfold Session.taken
    cases s.exchange.map Exchange.stage with
    | none => rfl
    | some stage => cases stage <;> rfl

theorem received_advance (w : Wire) (n : Nat) :
    { w with read := w.read + (w.unread.take n).length }.received =
      w.received ++ w.unread.take n := by
  show w.sent.take _ = w.sent.take w.read ++ (w.sent.drop w.read).take n
  rw [List.take_add, unread]
  congr 1
  rw [List.length_take, List.take_eq_take_iff]
  omega

/-- Whatever a connection does for a session, the wire keeps the account of it. -/
theorem after_meet (h : w.Honest) {s : Session} {happening : Happening} {stimulus : Stimulus}
    (hmeet : w.meet call s.want happening = some (w', stimulus)) :
    After w w' call s stimulus := by
  unfold Session.want at hmeet
  cases hx : s.exchange with
  | none =>
    rw [hx] at hmeet
    contradiction
  | some x =>
    obtain ⟨purpose, responses, timeout, stage⟩ := x
    rw [hx] at hmeet
    -- The session is shown with its exchange spelled out, so that both sides can be computed.
    have hafter : ∀ stimulus, w.transcript.after s stimulus =
        w.transcript.after { s with exchange := some ⟨purpose, responses, timeout, stage⟩ }
          stimulus := by
      intro stimulus
      rw [← hx]
    have htaken : ∀ stimulus, s.taken stimulus =
        { s with exchange := some ⟨purpose, responses, timeout, stage⟩ }.taken stimulus := by
      intro stimulus
      rw [← hx]
    cases stage <;> cases happening
    case writing.accepted rest n =>
      obtain ⟨rfl, rfl⟩ := Prod.mk.inj (Option.some.inj hmeet)
      refine ⟨?_, ?_, rfl, h.order, fun reply hreply => ?_, h.markless, h.read⟩
      · rw [hafter]
        show Transcript.mk (unsigned (w.written ++ signed call (rest.take n))) _ =
          ⟨unsigned w.written ++ rest.take n, _⟩
        rw [unsigned_append, unsigned_signed]
        rfl
      · rw [htaken]
        rfl
      · refine Nat.lt_of_lt_of_le (h.asked reply hreply) ?_
        show lineCount (unsigned w.written) ≤ lineCount (unsigned (w.written ++ _))
        rw [unsigned_append, lineCount_append]
        exact Nat.le_add_right _ _
    case reading.received left deadline n =>
      obtain ⟨rfl, rfl⟩ := Prod.mk.inj (Option.some.inj hmeet)
      refine ⟨?_, ?_, rfl, h.order, h.asked, h.markless, ?_⟩
      · rw [hafter, transcript, received_advance]
        rfl
      · rw [htaken]
        exact (List.append_nil _).symm
      · show w.read + ((w.sent.drop w.read).take n).length ≤ w.sent.length
        have hread := h.read
        rw [List.length_take, List.length_drop]
        omega
    case writing.writeFailed | flushing.flushed | flushing.flushFailed | reading.ended |
        reading.readFailed =>
      obtain ⟨rfl, rfl⟩ := Prod.mk.inj (Option.some.inj hmeet)
      exact after_quiet h call ((hafter _).trans rfl) ((htaken _).trans rfl)
    all_goals contradiction

/-! ## Commands on the wire -/

/-- A call that has its response has its commands' last line answered by it. -/
theorem Carries.delivered {commands : List String} (h : w.Carries call commands [])
    (hhonest : w.Honest) {s : Session} {text : String} (hanswers : s.Answers w.transcript text) :
    ∃ reply, w.Delivered call commands reply ∧ text = Text.decodeLossy reply := by
  obtain ⟨before, hwritten, hends⟩ := h
  obtain ⟨hpos, -, segment, hsegment, htext⟩ := hanswers
  rw [show signed call [] = [] from rfl, List.append_nil] at hwritten
  have hlines : lineCount (unsigned before ++ lineBytes commands) = w.lines := by
    rw [lines, hwritten, unsigned_append, unsigned_signed]
  refine ⟨segment, ⟨before, [], ?_, hends, ?_⟩, htext⟩
  · rw [List.append_nil]
    exact hwritten
  · rw [hlines]
    exact hhonest.reply_to_last hpos hsegment

end Wire

end BroadcastLink
