import BroadcastLink.Proofs.Session.Lines
import BroadcastLink.Proofs.Text.Utf8

/-!
# Payloads one after another

What is written on a connection is whole payloads, one after another, up to a rest of the last one
that was not written yet, and perhaps never will be. Where the payloads are lines of commands, every
complete line that the other side can read is a command of one of them.
-/

namespace BroadcastLink

/-- The lines that bytes complete, each without its line break. -/
def completeLines : Bytes → List Bytes
  | [] => []
  | b :: rest =>
    if b = 0x0A then [] :: completeLines rest
    else match completeLines rest with
      | [] => []
      | line :: lines => (b :: line) :: lines

/-- The bytes are the payloads one after another, without a rest at the end of the last one. -/
structure WrittenUpTo (payloads : List Bytes) (rest written : Bytes) : Prop where
  whole : written ++ rest = payloads.flatten
  last : rest ≠ [] → ∃ last ∈ payloads.getLast?, rest <:+ last

/-! ## Complete lines -/

theorem completeLines_cons_of_ne {b : UInt8} (h : b ≠ 0x0A) (rest : Bytes) :
    completeLines (b :: rest) = match completeLines rest with
      | [] => []
      | line :: lines => (b :: line) :: lines :=
  if_neg h

/-- Bytes up to the first line break are the first complete line. -/
theorem completeLines_line {line : Bytes} (h : (0x0A : UInt8) ∉ line) (rest : Bytes) :
    completeLines (line ++ 0x0A :: rest) = line :: completeLines rest := by
  induction line with
  | nil => rfl
  | cons b line ih =>
    have hb : b ≠ 0x0A := fun heq => h (heq ▸ List.mem_cons_self)
    have hline : (0x0A : UInt8) ∉ line := fun hmem => h (List.mem_cons_of_mem b hmem)
    rw [List.cons_append, completeLines_cons_of_ne hb, ih hline]

/-- What follows takes no complete line away. -/
theorem completeLines_append (front back : Bytes) :
    completeLines front <+: completeLines (front ++ back) := by
  induction front with
  | nil => exact List.nil_prefix
  | cons b front ih =>
    by_cases hb : b = 0x0A
    · subst hb
      exact List.cons_prefix_cons.mpr ⟨rfl, ih⟩
    · rw [List.cons_append, completeLines_cons_of_ne hb, completeLines_cons_of_ne hb]
      cases hlines : completeLines front with
      | nil => exact List.nil_prefix
      | cons line lines =>
        rw [hlines] at ih
        obtain ⟨more, hmore⟩ := ih
        rw [← hmore]
        exact List.prefix_append ((b :: line) :: lines) more

/-- The complete lines of a batch are its commands. -/
theorem completeLines_lineBytes {commands : List String}
    (h : ∀ command ∈ commands, breaksLine command = false) :
    completeLines (lineBytes commands) = commands.map Text.encode := by
  induction commands with
  | nil => rfl
  | cons command rest ih =>
    have hrest := ih fun c hc => h c (List.mem_cons_of_mem command hc)
    rw [show lineBytes (command :: rest) = Text.encode command ++ [0x0A] ++ lineBytes rest from rfl,
      List.append_assoc, List.singleton_append,
      completeLines_line (newline_not_mem_encode (h command List.mem_cons_self)), hrest,
      List.map_cons]

/-- Batches one after another are one batch. -/
theorem flatten_lineBytes {P : String → Prop} {payloads : List Bytes}
    (h : ∀ payload ∈ payloads, ∃ commands, (∀ c ∈ commands, P c) ∧ payload = lineBytes commands) :
    ∃ commands, (∀ c ∈ commands, P c) ∧ payloads.flatten = lineBytes commands := by
  induction payloads with
  | nil => exact ⟨[], by simp, rfl⟩
  | cons payload payloads ih =>
    obtain ⟨first, hfirst, rfl⟩ := h payload List.mem_cons_self
    obtain ⟨others, hothers, hflat⟩ := ih fun p hp => h p (List.mem_cons_of_mem _ hp)
    refine ⟨first ++ others, fun c hc => ?_, ?_⟩
    · exact (List.mem_append.mp hc).elim (hfirst c) (hothers c)
    · rw [List.flatten_cons, hflat, lineBytes, lineBytes, lineBytes, List.flatMap_append]

/-! ## Written up to a rest -/

namespace WrittenUpTo

variable {payloads : List Bytes} {rest written : Bytes}

theorem nothing : WrittenUpTo [] [] [] := ⟨rfl, fun h => absurd rfl h⟩

/-- Where nothing is missing another payload can begin. -/
theorem begin (h : WrittenUpTo payloads [] written) (payload : Bytes) :
    WrittenUpTo (payloads ++ [payload]) payload written where
  whole := by
    rw [List.flatten_append, List.flatten_singleton, ← h.whole, List.append_nil]
  last := fun _ => ⟨payload, List.getLast?_concat, List.suffix_refl payload⟩

/-- A payload of which nothing was written may as well not have begun. -/
theorem withdraw {payload : Bytes} (h : WrittenUpTo (payloads ++ [payload]) payload written) :
    WrittenUpTo payloads [] written where
  whole := by
    have hwhole := h.whole
    rw [List.flatten_append, List.flatten_singleton] at hwhole
    rw [List.append_nil]
    exact List.append_cancel_right hwhole
  last := fun hne => absurd rfl hne

/-- The first bytes of what is missing are written. -/
theorem goOn {taken : Bytes} (h : WrittenUpTo payloads (taken ++ rest) written) :
    WrittenUpTo payloads rest (written ++ taken) where
  whole := by rw [List.append_assoc, h.whole]
  last := by
    intro hrest
    obtain ⟨last, hlast, hsuffix⟩ := h.last (List.append_ne_nil_of_right_ne_nil taken hrest)
    exact ⟨last, hlast, (List.suffix_append taken rest).trans hsuffix⟩

/-- Every complete line is a command of one of the payloads. -/
theorem completeLines_mem {P : String → Prop} (h : WrittenUpTo payloads rest written)
    (hpayloads : ∀ payload ∈ payloads, ∃ commands, (∀ c ∈ commands, P c ∧ breaksLine c = false) ∧
      payload = lineBytes commands)
    {line : Bytes} (hline : line ∈ completeLines written) :
    ∃ command, P command ∧ line = Text.encode command := by
  obtain ⟨commands, hcommands, hflat⟩ := flatten_lineBytes hpayloads
  have hmem : line ∈ completeLines (lineBytes commands) := by
    rw [← hflat, ← h.whole]
    exact (completeLines_append written rest).subset hline
  rw [completeLines_lineBytes fun c hc => (hcommands c hc).2] at hmem
  obtain ⟨command, hcommand, rfl⟩ := List.mem_map.mp hmem
  exact ⟨command, (hcommands command hcommand).1, rfl⟩

end WrittenUpTo

end BroadcastLink
