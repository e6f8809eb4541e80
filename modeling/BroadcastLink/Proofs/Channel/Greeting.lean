import BroadcastLink.Proofs.Channel.Received

/-!
# The greeting comes first

A connection is put to use only when the greeting is out, and what was written on it stays there. So
wherever a channel came to be connected, the words of the greeting are the first on its connection.
-/

namespace BroadcastLink

namespace Outflow

variable {t t' : Outflow} {line : LineId} {w : Outgoing}

/-- The greeting was written on the connection. -/
def Greeted (t : Outflow) (line : LineId) : Prop :=
  ∃ w, t.wires.get? line = some w ∧ Channel.greetingBytes <+: w.bytes

/-- The listener has written of the greeting what is not left of it, and all of it before the
connection is put to use. -/
def Greets (t : Outflow) : Prop :=
  match t.listener with
  | .greeting line rest =>
    ∃ w, t.wires.get? line = some w ∧ w.bytes ++ rest = Channel.greetingBytes
  | .installing line | .reading line => t.Greeted line
  | _ => True

/-! ## What was written stays -/

/-- More may be written on a connection. -/
theorem grows_modify {wires : Roster LineId Outgoing} {f : Outgoing → Outgoing}
    (hf : ∀ w, w.bytes <+: (f w).bytes) (hw : wires.get? line = some w) (other : LineId) :
    ∃ w', (wires.modify other f).get? line = some w' ∧ w.bytes <+: w'.bytes := by
  rw [Roster.get?_modify, hw]
  split
  · exact ⟨f w, rfl, hf w⟩
  · exact ⟨w, rfl, List.prefix_refl _⟩

/-- A call that is given up leaves what it has written. -/
theorem bytes_abandon (w : Outgoing) (call : CallId) (untouched : Bool) :
    (w.abandon call untouched).bytes = w.bytes := by
  unfold Outgoing.abandon
  split <;> rfl

theorem grows_move (hmove : Move t t') (hw : t.wires.get? line = some w) :
    ∃ w', t'.wires.get? line = some w' ∧ w.bytes <+: w'.bytes := by
  cases hmove with
  | @enter call =>
    exact grows_modify (f := (·.enter call)) (fun w => List.prefix_refl w.bytes) hw _
  | take | greet => exact grows_modify (fun w => List.prefix_append _ _) hw _
  | abandon =>
    exact grows_modify (fun w => (bytes_abandon w _ _).symm ▸ List.prefix_refl _) hw _
  | @connect deadline other hlistener hline =>
    have hne : line ≠ other := fun heq => by
      rw [heq, hline] at hw
      contradiction
    refine ⟨w, ?_, List.prefix_refl _⟩
    rw [Roster.get?_put, if_neg hne]
    exact hw
  | ask | queue | finish | drop | breakOff | beginClosing | close | joined | greeted | install
  | remove | removed | rest => exact ⟨w, hw, List.prefix_refl _⟩

theorem Greeted.move (h : t.Greeted line) (hmove : Move t t') : t'.Greeted line := by
  obtain ⟨w, hw, hgreeting⟩ := h
  obtain ⟨w', hw', hgrows⟩ := grows_move hmove hw
  exact ⟨w', hw', hgreeting.trans hgrows⟩

theorem Greeted.moves (h : t.Greeted line) (hmoves : Moves t t') : t'.Greeted line := by
  induction hmoves with
  | refl => exact h
  | tail _ hmove ih => exact ih.move hmove

/-! ## The greeting -/

/-- Where the listener stays as it is and a greeting is under way, nobody else may write. -/
theorem Greets.stay (h : t.Greets) (hmove : Move t t') (hlistener : t'.listener = t.listener)
    (halone : ∀ line rest w, t.listener = .greeting line rest → t.wires.get? line = some w →
      ∃ w', t'.wires.get? line = some w' ∧ w'.bytes = w.bytes) : t'.Greets := by
  unfold Greets at h ⊢
  rw [hlistener]
  split
  · rename_i line rest hgreeting
    rw [hgreeting] at h
    obtain ⟨w, hw, hrest⟩ := h
    obtain ⟨w', hw', hbytes⟩ := halone line rest w hgreeting hw
    exact ⟨w', hw', hbytes ▸ hrest⟩
  · rename_i line hinstalling
    rw [hinstalling] at h
    exact Greeted.move h hmove
  · rename_i line hreading
    rw [hreading] at h
    exact Greeted.move h hmove
  · trivial

theorem greets_of_isApart {stage : ListenerStage} (hstage : stage.isApart = true)
    (hlistener : t.listener = stage) : t.Greets := by
  unfold Greets
  rw [hlistener]
  cases stage <;> trivial

theorem Greets.move (h : t.Greets) (hguarded : t.Guarded) (hmove : Move t t') : t'.Greets := by
  have hstay : t'.listener = t.listener → t'.wires = t.wires → t'.Greets := fun hlistener hwires =>
    h.stay hmove hlistener fun line rest w _ hw => ⟨w, hwires ▸ hw, rfl⟩
  -- While a call writes no greeting is under way.
  have hbeside : ∀ {other}, t.writer = some other → t'.listener = t.listener → t'.Greets :=
    fun hwriter hlistener => h.stay hmove hlistener fun line rest w hgreeting _ =>
      absurd hgreeting (hguarded.not_greeting hwriter line rest)
  cases hmove with
  | ask | queue | finish | drop | breakOff | beginClosing | close | joined => exact hstay rfl rfl
  | enter deadline hcall hheld hwriter | take n hcall hwriter | abandon hcall hwriter =>
    exact hbeside hwriter rfl
  | @connect deadline line hlistener hline =>
    refine ⟨{}, ?_, rfl⟩
    rw [Roster.get?_put, if_pos rfl]
  | @greet line rest n hlistener =>
    rw [Greets, hlistener] at h
    obtain ⟨w, hw, hrest⟩ := h
    refine ⟨w.add (rest.take n), ?_, ?_⟩
    · rw [Roster.get?_modify, if_pos rfl, hw]
      rfl
    · rw [Outgoing.add, List.append_assoc, List.take_append_drop]
      exact hrest
  | @greeted line hlistener =>
    rw [Greets, hlistener] at h
    obtain ⟨w, hw, hrest⟩ := h
    rw [List.append_nil] at hrest
    exact ⟨w, hw, hrest ▸ List.prefix_refl _⟩
  | @install line hlistener hheld =>
    rw [Greets, hlistener] at h
    exact h
  | remove hlistener => trivial
  | removed hlistener hheld hstage => exact greets_of_isApart hstage rfl
  | rest hlistener hstage => exact greets_of_isApart hstage rfl

theorem Greets.moves (h : t.Greets) (hguarded : t.Guarded) (hmoves : Moves t t') : t'.Greets := by
  have hboth : t'.Greets ∧ t'.Guarded := by
    induction hmoves with
    | refl => exact ⟨h, hguarded⟩
    | tail _ hmove ih => exact ⟨ih.1.move ih.2 hmove, ih.2.move hmove⟩
  exact hboth.1

end Outflow

end BroadcastLink
