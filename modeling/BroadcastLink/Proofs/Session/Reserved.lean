import BroadcastLink.Session
import Mathlib.Data.List.TakeWhile

/-!
# Commands kept off command sessions

A command whose first word switches a connection to pushing, and a command that is more than one
line, would break the step between commands and responses. Both are told here by what they look
like; a session refuses the whole batch for the first of them, and nothing about it changes.
-/

namespace BroadcastLink

namespace Text

/-- A word is the first one of a text: at most blanks stand before it, and a blank, or nothing,
behind it. -/
structure OpensWith (text word : List Char) : Prop where
  nonempty : word ≠ []
  solid : ∀ c ∈ word, isBlank c = false
  placed : ∃ blanks behind, text = blanks ++ word ++ behind ∧ (∀ c ∈ blanks, isBlank c = true) ∧
    ∀ c ∈ behind.head?, isBlank c = true

variable {text word : List Char}

theorem firstWord_of_opensWith (h : OpensWith text word) : firstWord text = word := by
  obtain ⟨blanks, behind, rfl, hblanks, hbehind⟩ := h.placed
  obtain ⟨c, word, rfl⟩ := List.exists_cons_of_ne_nil h.nonempty
  have hdrop : (blanks ++ c :: word ++ behind).dropWhile isBlank = c :: word ++ behind := by
    rw [List.append_assoc, List.dropWhile_append_of_pos hblanks, List.cons_append,
      List.dropWhile_cons_of_neg (by simp [h.solid c])]
  have hstop : behind.takeWhile (fun c => !isBlank c) = [] := by
    cases behind with
    | nil => rfl
    | cons b behind => exact List.takeWhile_cons_of_neg (by simp [hbehind b rfl])
  rw [firstWord, hdrop, List.takeWhile_append_of_pos (by simpa using h.solid), hstop,
    List.append_nil]

/-- What counts as the first word is the first word. -/
theorem opensWith_firstWord (h : firstWord text ≠ []) : OpensWith text (firstWord text) where
  nonempty := h
  solid := fun c hc => by simpa using List.mem_takeWhile_imp hc
  placed := by
    refine ⟨text.takeWhile isBlank, (text.dropWhile isBlank).dropWhile fun c => !isBlank c, ?_,
      fun c hc => List.mem_takeWhile_imp hc, fun c hc => ?_⟩
    · rw [firstWord, List.append_assoc, List.takeWhile_append_dropWhile,
        List.takeWhile_append_dropWhile]
    · have hhead := List.head?_dropWhile_not (fun c => !isBlank c) (text.dropWhile isBlank)
      rw [Option.mem_def.mp hc] at hhead
      simpa using hhead

end Text

/-- The first word of a text is one of the two that switch a connection to pushing, in any case of
its ASCII letters. -/
def SwitchesToPush (text : String) : Prop :=
  ∃ word, Text.OpensWith text.toList word ∧
    (word.map Text.lowerAscii = "notify".toList ∨ word.map Text.lowerAscii = "vu".toList)

/-- The command has no place on a command session. -/
def Unfit (command : String) : Prop :=
  SwitchesToPush command ∨ '\n' ∈ command.toList ∨ '\r' ∈ command.toList

theorem sameIgnoringCase_iff {a b : List Char} :
    Text.sameIgnoringCase a b = true ↔ b.map Text.lowerAscii = a.map Text.lowerAscii := by
  rw [Text.sameIgnoringCase, beq_iff_eq, eq_comm]

theorem isReserved_iff (command : String) : isReserved command = true ↔ SwitchesToPush command := by
  have hnotify : notifyWord.toList.map Text.lowerAscii = "notify".toList := by decide
  have hvu : meterWord.toList.map Text.lowerAscii = "vu".toList := by decide
  have hreserved : isReserved command = true ↔
      (Text.firstWord command.toList).map Text.lowerAscii = "notify".toList ∨
        (Text.firstWord command.toList).map Text.lowerAscii = "vu".toList := by
    rw [isReserved, reservedWords, List.any_cons, List.any_cons, List.any_nil, Bool.or_false,
      Bool.or_eq_true, sameIgnoringCase_iff, sameIgnoringCase_iff, hnotify, hvu]
  rw [hreserved]
  constructor
  · intro h
    refine ⟨Text.firstWord command.toList, Text.opensWith_firstWord fun hnil => ?_, h⟩
    rw [hnil] at h
    rcases h with h | h <;> contradiction
  · rintro ⟨word, hword, h⟩
    rw [Text.firstWord_of_opensWith hword]
    exact h

theorem breaksLine_iff (command : String) :
    breaksLine command = true ↔ '\n' ∈ command.toList ∨ '\r' ∈ command.toList := by
  rw [breaksLine, List.any_eq_true]
  constructor
  · rintro ⟨c, hc, h⟩
    rcases Bool.or_eq_true_iff.mp h with h | h
    · exact .inl (beq_iff_eq.mp h ▸ hc)
    · exact .inr (beq_iff_eq.mp h ▸ hc)
  · rintro (h | h)
    · exact ⟨_, h, rfl⟩
    · exact ⟨_, h, rfl⟩

theorem unfit_iff (command : String) :
    Unfit command ↔ (isReserved command || breaksLine command) = true := by
  rw [Unfit, ← isReserved_iff, ← breaksLine_iff, Bool.or_eq_true]

/-- A batch is refused for its first unfit command. -/
theorem sessionPayload_of_unfit {before after : List String} {bad : String}
    (hbefore : ∀ command ∈ before, ¬ Unfit command) (hbad : Unfit bad) :
    sessionPayload (before ++ bad :: after) = .error (.protocolMisuse bad) := by
  have hfind : (before ++ bad :: after).find? (fun c => isReserved c || breaksLine c) =
      some bad := by
    refine List.find?_eq_some_iff_append.mpr
      ⟨(unfit_iff bad).mp hbad, before, after, rfl, fun command hmem => ?_⟩
    have hfit := hbefore command hmem
    rw [unfit_iff, Bool.not_eq_true] at hfit
    rw [hfit]
    rfl
  rw [sessionPayload, hfind]

/-- A batch that is accepted has no unfit command. -/
theorem fit_of_sessionPayload {commands : List String} {bytes : Bytes}
    (h : sessionPayload commands = .ok bytes) {command : String} (hmem : command ∈ commands) :
    ¬ Unfit command := by
  intro hunfit
  rw [sessionPayload] at h
  split at h
  · contradiction
  · rename_i hnone
    exact List.find?_eq_none.mp hnone command hmem ((unfit_iff command).mp hunfit)

namespace Session

/-- An idle session refuses a batch for its first unfit command, at whatever position. -/
theorem send_of_unfit {s : Session} (hidle : s.state = .idle) {before after : List String}
    {bad : String} (hbefore : ∀ command ∈ before, ¬ Unfit command) (hbad : Unfit bad) :
    s.send (before ++ bad :: after) = .over (.error (.protocolMisuse bad)) := by
  rw [send, hidle, sessionPayload_of_unfit hbefore hbad]

end Session

end BroadcastLink
