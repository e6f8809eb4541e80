import BroadcastLink.Text.Utf8

/-!
# Text comes back from its bytes

The reader that never fails loses nothing of bytes that are the encoding of a text: it steps over
the bytes of one character and has that character read, and nothing begun.
-/

namespace BroadcastLink.Text

namespace Utf8Reader

variable {text : List Char} {n : Nat}

theorem toNat_ofNat_byte (h : n < 0x100) : (UInt8.ofNat n).toNat = n := by
  rw [UInt8.toNat_ofNat', Nat.mod_eq_of_lt h]

/-- Between characters a byte is a first byte. -/
theorem step_between (h : n < 0x100) : step ⟨none, text⟩ (.ofNat n) = start ⟨none, text⟩ n := by
  rw [step, toNat_ofNat_byte h]

/-- Inside a character a byte within the bounds goes on with it. -/
theorem step_inside {p : Utf8Part} (h : n < 0x100) (hlow : p.low ≤ n) (hhigh : n ≤ p.high) :
    step ⟨some p, text⟩ (.ofNat n) =
      match p.owed with
      | 0 => ⟨none, Char.ofNat (p.code * 64 + (n - 0x80)) :: text⟩
      | owed + 1 => ⟨some ⟨owed, 0x80, 0xBF, p.code * 64 + (n - 0x80)⟩, text⟩ := by
  rw [step, toNat_ofNat_byte h]
  exact if_pos ⟨hlow, hhigh⟩

/-- The last byte of a character makes it the newest one read. -/
theorem step_last {low high code : Nat} (h : n < 0x100) (hlow : low ≤ n) (hhigh : n ≤ high) :
    step ⟨some ⟨0, low, high, code⟩, text⟩ (.ofNat n) =
      ⟨none, Char.ofNat (code * 64 + (n - 0x80)) :: text⟩ :=
  step_inside h hlow hhigh

/-- A byte before the last one is gathered, and the next one is any that continues. -/
theorem step_middle {owed low high code : Nat} (h : n < 0x100) (hlow : low ≤ n) (hhigh : n ≤ high) :
    step ⟨some ⟨owed + 1, low, high, code⟩, text⟩ (.ofNat n) =
      ⟨some ⟨owed, 0x80, 0xBF, code * 64 + (n - 0x80)⟩, text⟩ :=
  step_inside h hlow hhigh

/-- A first byte that begins a character. -/
theorem step_begin {p : Utf8Part} (h : n < 0x100) (hfirst : utf8First n = some (.inr p)) :
    step ⟨none, text⟩ (.ofNat n) = ⟨some p, text⟩ := by
  rw [step_between h, start, hfirst]

end Utf8Reader

/-! ## First bytes -/

variable {v : Nat}

theorem utf8First_two (hlow : 0x7F < v) (hhigh : v ≤ 0x7FF) :
    utf8First (v / 64 % 0x20 + 0xC0) = some (.inr ⟨0, 0x80, 0xBF, v / 64⟩) := by
  have hvalue : v / 64 % 0x20 + 0xC0 - 0xC0 = v / 64 := by omega
  rw [utf8First, if_neg (by omega), if_pos (by omega), hvalue]

/-- The first byte of three: the bounds it sets leave out longer forms of shorter characters and
the surrogates, and no character. -/
theorem utf8First_three (hlow : 0x7FF < v) (hhigh : v ≤ 0xFFFF) (hvalid : v < 0xD800 ∨ 0xDFFF < v) :
    ∃ low high, utf8First (v / 4096 % 0x10 + 0xE0) = some (.inr ⟨1, low, high, v / 4096⟩) ∧
      low ≤ v / 64 % 0x40 + 0x80 ∧ v / 64 % 0x40 + 0x80 ≤ high := by
  have hvalue : v / 4096 % 0x10 + 0xE0 - 0xE0 = v / 4096 := by omega
  rw [utf8First, if_neg (by omega), if_neg (by omega)]
  by_cases hzero : v / 4096 = 0
  · rw [if_pos (by omega), hzero]
    exact ⟨_, _, rfl, by omega, by omega⟩
  · rw [if_neg (by omega)]
    by_cases hsurrogate : v / 4096 = 0xD
    · rw [if_pos (by omega), hsurrogate]
      exact ⟨_, _, rfl, by omega, by omega⟩
    · rw [if_neg (by omega), if_pos (by omega), hvalue]
      exact ⟨_, _, rfl, by omega, by omega⟩

theorem utf8First_four (hlow : 0xFFFF < v) (hhigh : v < 0x110000) :
    ∃ low high, utf8First (v / 262144 % 0x08 + 0xF0) = some (.inr ⟨2, low, high, v / 262144⟩) ∧
      low ≤ v / 4096 % 0x40 + 0x80 ∧ v / 4096 % 0x40 + 0x80 ≤ high := by
  have hvalue : v / 262144 % 0x08 + 0xF0 - 0xF0 = v / 262144 := by omega
  rw [utf8First, if_neg (by omega), if_neg (by omega), if_neg (by omega), if_neg (by omega),
    if_neg (by omega)]
  by_cases hzero : v / 262144 = 0
  · rw [if_pos (by omega), hzero]
    exact ⟨_, _, rfl, by omega, by omega⟩
  · rw [if_neg (by omega)]
    by_cases htop : v / 262144 = 4
    · rw [if_neg (by omega), if_pos (by omega), htop]
      exact ⟨_, _, rfl, by omega, by omega⟩
    · rw [if_pos (by omega), hvalue]
      exact ⟨_, _, rfl, by omega, by omega⟩

/-! ## Characters and texts -/

/-- The bytes of a character are read as that character. -/
theorem foldl_step_utf8EncodeChar (text : List Char) (c : Char) :
    (String.utf8EncodeChar c).foldl Utf8Reader.step ⟨none, text⟩ = ⟨none, c :: text⟩ := by
  have hchar : Char.ofNat c.val.toNat = c := Char.ofNat_toNat c
  have hvalid : c.val.toNat < 0xD800 ∨ 0xDFFF < c.val.toNat ∧ c.val.toNat < 0x110000 := c.valid
  rw [String.utf8EncodeChar]
  generalize c.val.toNat = v at hchar hvalid
  -- By how many bytes the character takes.
  split
  · rw [List.foldl_cons, List.foldl_nil, Utf8Reader.step_between (by omega), Utf8Reader.start,
      utf8First, if_pos (by assumption), hchar]
  · split
    · have hcode : v / 64 * 64 + (v % 0x40 + 0x80 - 0x80) = v := by omega
      rw [List.foldl_cons, List.foldl_cons, List.foldl_nil,
        Utf8Reader.step_begin (by omega) (utf8First_two (by omega) (by omega)),
        Utf8Reader.step_last (by omega) (by omega) (by omega), hcode, hchar]
    · split
      · obtain ⟨low, high, hfirst, hlow, hhigh⟩ :=
          utf8First_three (v := v) (by omega) (by omega) (by omega)
        have hcode : (v / 4096 * 64 + (v / 64 % 0x40 + 0x80 - 0x80)) * 64 +
            (v % 0x40 + 0x80 - 0x80) = v := by omega
        rw [List.foldl_cons, List.foldl_cons, List.foldl_cons, List.foldl_nil,
          Utf8Reader.step_begin (by omega) hfirst, Utf8Reader.step_middle (by omega) hlow hhigh,
          Utf8Reader.step_last (by omega) (by omega) (by omega), hcode, hchar]
      · obtain ⟨low, high, hfirst, hlow, hhigh⟩ := utf8First_four (v := v) (by omega) (by omega)
        have hcode : ((v / 262144 * 64 + (v / 4096 % 0x40 + 0x80 - 0x80)) * 64 +
            (v / 64 % 0x40 + 0x80 - 0x80)) * 64 + (v % 0x40 + 0x80 - 0x80) = v := by omega
        rw [List.foldl_cons, List.foldl_cons, List.foldl_cons, List.foldl_cons, List.foldl_nil,
          Utf8Reader.step_begin (by omega) hfirst, Utf8Reader.step_middle (by omega) hlow hhigh,
          Utf8Reader.step_middle (by omega) (by omega) (by omega),
          Utf8Reader.step_last (by omega) (by omega) (by omega), hcode, hchar]

theorem foldl_step_encodeChars (text cs : List Char) :
    (encodeChars cs).foldl Utf8Reader.step ⟨none, text⟩ = ⟨none, cs.reverse ++ text⟩ := by
  induction cs generalizing text with
  | nil => rfl
  | cons c cs ih =>
    rw [encodeChars, List.flatMap_cons, List.foldl_append, foldl_step_utf8EncodeChar]
    rw [encodeChars] at ih
    rw [ih, List.reverse_cons, List.append_assoc]
    rfl

/-- A text comes back from its bytes. -/
theorem decodeLossy_encode (s : String) : decodeLossy (encode s) = s := by
  have hread : decodeLossyChars (encode s) = s.toList := by
    rw [decodeLossyChars, encode, foldl_step_encodeChars, List.append_nil]
    exact List.reverse_reverse s.toList
  rw [decodeLossy, hread, String.ofList_toList]

end BroadcastLink.Text
