import BroadcastLink.Command

/-!
# Lines on the wire

A server answers complete lines, and a line is complete once its line break is written. Commands
that a session accepts contain no line break of their own, so a batch puts exactly one line on the
wire for each of its commands.
-/

namespace BroadcastLink

/-- How many complete lines there are. -/
def lineCount (bytes : Bytes) : Nat := bytes.count 0x0A

/-- The last line is complete. -/
def EndsLine (bytes : Bytes) : Prop := ∀ last ∈ bytes.getLast?, last = 0x0A

@[simp] theorem lineCount_nil : lineCount [] = 0 := rfl

@[simp] theorem lineCount_append (front back : Bytes) :
    lineCount (front ++ back) = lineCount front + lineCount back :=
  List.count_append

theorem endsLine_nil : EndsLine [] := by
  intro last h
  simp at h

theorem EndsLine.append {front back : Bytes} (hfront : EndsLine front) (hback : EndsLine back) :
    EndsLine (front ++ back) := by
  intro last h
  rw [List.getLast?_append, Option.mem_def] at h
  cases hlast : back.getLast? with
  | none =>
    rw [hlast, Option.none_or] at h
    exact hfront last h
  | some b =>
    rw [hlast, Option.some_or] at h
    exact hback last (hlast.trans h)

theorem endsLine_snoc (front : Bytes) : EndsLine (front ++ [0x0A]) := by
  intro last h
  simpa [eq_comm] using h

theorem ofNat_ne_newline {n : Nat} (hlow : 0x80 ≤ n) (hhigh : n < 0x100) :
    (0x0A : UInt8) ≠ UInt8.ofNat n := by
  intro h
  have hn := congrArg UInt8.toNat h
  rw [UInt8.toNat_ofNat', Nat.mod_eq_of_lt hhigh] at hn
  have : (0x0A : UInt8).toNat = 10 := rfl
  omega

/-- Only the line break is encoded with the byte of a line break: a character of several bytes has
none below `0x80`. -/
theorem eq_newline_of_mem_utf8EncodeChar {c : Char} (h : (0x0A : UInt8) ∈ String.utf8EncodeChar c) :
    c = '\n' := by
  simp only [String.utf8EncodeChar] at h
  split at h
  · have hval := congrArg UInt8.toNat (List.mem_singleton.mp h)
    rw [UInt8.toNat_ofNat', Nat.mod_eq_of_lt (by omega)] at hval
    exact Char.ext (UInt32.toNat_inj.mp hval.symm)
  · -- The bytes of a longer encoding are all at least `0x80`.
    exfalso
    split at h
    · simp only [List.mem_cons, List.not_mem_nil, or_false] at h
      rcases h with h | h <;> exact ofNat_ne_newline (by omega) (by omega) h
    · split at h
      · simp only [List.mem_cons, List.not_mem_nil, or_false] at h
        rcases h with h | h | h <;> exact ofNat_ne_newline (by omega) (by omega) h
      · simp only [List.mem_cons, List.not_mem_nil, or_false] at h
        rcases h with h | h | h | h <;> exact ofNat_ne_newline (by omega) (by omega) h

theorem newline_not_mem_encode {command : String} (h : breaksLine command = false) :
    (0x0A : UInt8) ∉ Text.encode command := by
  intro hmem
  obtain ⟨c, hc, hbyte⟩ := List.mem_flatMap.mp hmem
  rw [eq_newline_of_mem_utf8EncodeChar hbyte] at hc
  have hbreaks : breaksLine command = true :=
    List.any_eq_true.mpr ⟨'\n', hc, by decide⟩
  rw [h] at hbreaks
  contradiction

theorem lineCount_lineBytes {commands : List String}
    (h : ∀ command ∈ commands, breaksLine command = false) :
    lineCount (lineBytes commands) = commands.length := by
  induction commands with
  | nil => rfl
  | cons command rest ih =>
    have hfirst : lineCount (Text.encode command) = 0 :=
      List.count_eq_zero.mpr (newline_not_mem_encode (h command (by simp)))
    have hrest := ih fun c hc => h c (List.mem_cons_of_mem command hc)
    rw [show lineBytes (command :: rest) = Text.encode command ++ [0x0A] ++ lineBytes rest from rfl,
      lineCount_append, lineCount_append, hfirst, hrest, List.length_cons]
    show 0 + 1 + rest.length = rest.length + 1
    omega

theorem endsLine_lineBytes (commands : List String) : EndsLine (lineBytes commands) := by
  induction commands with
  | nil => exact endsLine_nil
  | cons command rest ih => exact (endsLine_snoc (Text.encode command)).append ih

/-- What a session accepts is its commands' lines, one for each. -/
theorem lines_of_sessionPayload {commands : List String} {bytes : Bytes}
    (h : sessionPayload commands = .ok bytes) :
    bytes = lineBytes commands ∧ lineCount bytes = commands.length := by
  rw [sessionPayload] at h
  split at h
  · contradiction
  · rename_i hnone
    obtain rfl : lineBytes commands = bytes := Except.ok.inj h
    refine ⟨rfl, lineCount_lineBytes fun command hmem => ?_⟩
    have hclean := List.find?_eq_none.mp hnone command hmem
    rw [Bool.not_eq_true, Bool.or_eq_false_iff] at hclean
    exact hclean.2

end BroadcastLink
