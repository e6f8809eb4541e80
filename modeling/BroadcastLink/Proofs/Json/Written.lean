import BroadcastLink.Json.Quoted
import BroadcastLink.Json.Shape
import Mathlib.Data.List.Basic

/-!
# What is written is read back

Strings, naturals, truth values and objects, each written by one function and read by another. A
value inside an object is read with the rest of the document behind it. Only the end of a number
depends on that rest: behind a value of an object stands a comma or a closing brace, and no number
goes on with either.
-/

namespace BroadcastLink.Json

variable {seen rest cs : List Char}

/-! ## Strings -/

theorem unescape?_shortEscape? {c e : Char} (h : shortEscape? c = some e) :
    e ≠ 'u' ∧ unescape? e = some c := by
  unfold shortEscape? at h
  repeat' split at h
  all_goals first
    | (cases h; subst_vars; exact ⟨by decide, by decide⟩)
    | contradiction

theorem hexValue?_digits : ∀ n < 0x20,
    hexValue? '0' '0' (Text.Hex.digit (n / 16)) (Text.Hex.digit (n % 16)) = some n := by decide

/-- A character without a short escape does not end a string and starts no escape. -/
theorem plain_of_shortEscape? {c : Char} (h : shortEscape? c = none) :
    c ≠ '\x22' ∧ c ≠ '\\' := by
  constructor
  · rintro rfl
    contradiction
  · rintro rfl
    contradiction

/-- What is written for a character stands for that character. -/
theorem stringRest_escapeChar (seen : List Char) (c : Char) (rest : List Char) :
    stringRest seen (escapeChar c ++ rest) = stringRest (c :: seen) rest := by
  unfold escapeChar
  split
  · rename_i e hshort
    obtain ⟨hu, hback⟩ := unescape?_shortEscape? hshort
    show stringRest seen ('\\' :: e :: rest) = _
    rw [stringRest]
    · simp only [hback]
    · intro a b c d more hunicode
      exact absurd hunicode hu
    · intro hunicode
      exact absurd hunicode hu
  · rename_i hshort
    obtain ⟨hquote, hback⟩ := plain_of_shortEscape? hshort
    split
    · rename_i hcontrol
      have hlow : isLowHalf c.toNat = false := by simp [isLowHalf]; omega
      have hhigh : isHighHalf c.toNat = false := by simp [isHighHalf]; omega
      show stringRest seen ('\\' :: 'u' :: '0' :: '0' :: _ :: _ :: rest) = _
      rw [stringRest, hexValue?_digits c.toNat hcontrol]
      simp [hlow, hhigh, Char.ofNat_toNat]
    · rename_i hcontrol
      show stringRest seen (c :: rest) = _
      rw [stringRest]
      · rw [if_neg hquote, if_neg hback, if_neg hcontrol]
      all_goals
        intros
        contradiction

theorem stringRest_flatMap (seen cs rest : List Char) :
    stringRest seen (cs.flatMap escapeChar ++ '\x22' :: rest) =
      .ok (String.ofList (seen.reverse ++ cs), rest) := by
  induction cs generalizing seen with
  | nil =>
    show stringRest seen ('\x22' :: rest) = _
    rw [stringRest] <;> simp
  | cons c cs ih =>
    rw [List.flatMap_cons, List.append_assoc, stringRest_escapeChar, ih, List.reverse_cons,
      List.append_assoc, List.singleton_append]

theorem toList_quote (s : String) :
    (quote s).toList = '\x22' :: (s.toList.flatMap escapeChar ++ ['\x22']) := String.toList_ofList

/-- A string is read back behind its opening quote, whatever stands behind it. -/
theorem stringRest_quote (s : String) (rest : List Char) :
    (quote s).toList ++ rest = '\x22' :: ((quote s).toList.tail ++ rest) ∧
      stringRest [] ((quote s).toList.tail ++ rest) = .ok (s, rest) := by
  rw [toList_quote]
  refine ⟨rfl, ?_⟩
  rw [List.tail_cons, List.append_assoc, List.singleton_append, stringRest_flatMap]
  simp

theorem quote_inj {s t : String} : quote s = quote t ↔ s = t := by
  refine ⟨fun h => ?_, fun h => h ▸ rfl⟩
  have hread := (stringRest_quote s []).2
  rw [h, (stringRest_quote t []).2] at hread
  exact (Prod.mk.inj (Except.ok.inj hread)).1.symm

/-! ## What may stand behind a value -/

/-- The document behind a value of an object: it goes on with a comma or the end of the object. -/
inductive Behind : List Char → Prop where
  | comma (rest : List Char) : Behind (',' :: rest)
  | brace (rest : List Char) : Behind ('\x7d' :: rest)

/-- A text that a reader takes for a value, in the place of a value of an object. -/
def Reads {α : Type} (read : Reader α) (text : String) (a : α) : Prop :=
  ∀ rest, Behind rest → read (text.toList ++ rest) = .ok (a, rest)

theorem skipGaps_cons {c : Char} (h : isGap c = false) (rest : List Char) :
    skipGaps (c :: rest) = c :: rest := by
  rw [skipGaps, List.dropWhile_cons, h]
  rfl

theorem reads_string (s : String) : Reads readString (quote s) s := by
  intro rest _
  obtain ⟨hopen, hread⟩ := stringRest_quote s rest
  rw [hopen, readString, skipGaps_cons (by decide)]
  exact hread

/-! ## Naturals -/

theorem ne_of_isDigit {c d : Char} (hc : c.isDigit = true) (hd : d.isDigit = false) : c ≠ d := by
  rintro rfl
  exact Bool.false_ne_true (hd.symm.trans hc)

theorem isGap_of_isDigit {c : Char} (h : c.isDigit = true) : isGap c = false := by
  simp only [isGap, Bool.or_eq_false_iff, beq_eq_false_iff_ne]
  refine ⟨⟨⟨?_, ?_⟩, ?_⟩, ?_⟩
  all_goals exact ne_of_isDigit h (by decide)

/-- The digits of a positive number start with another digit than zero. -/
theorem digitChars_of_ne_zero {n : Nat} (h : n ≠ 0) :
    ∃ c ds, Decimal.digitChars n = c :: ds ∧ c ≠ '0' := by
  induction n using Nat.strongRecOn with
  | _ n ih =>
    rw [Decimal.digitChars, Nat.toDigits_eq_if (by decide)]
    split
    · rename_i hsmall
      have hdigit : ∀ m < 10, m ≠ 0 → m.digitChar ≠ '0' := by decide
      exact ⟨n.digitChar, [], rfl, hdigit n hsmall h⟩
    · obtain ⟨c, ds, hfront, hc⟩ := ih (n / 10) (by omega) (by omega)
      rw [Decimal.digitChars] at hfront
      exact ⟨c, ds ++ [(n % 10).digitChar], by rw [hfront]; rfl, hc⟩

theorem isDigit_of_mem_digitChars {n : Nat} {c : Char} (h : c ∈ Decimal.digitChars n) :
    c.isDigit = true := Nat.isDigit_of_mem_toDigits (by decide) (by decide) h

/-- More digits do not make a number smaller. -/
theorem le_ofDigitChars (ds : List Char) (s : Nat) : s ≤ Nat.ofDigitChars 10 ds s := by
  induction ds generalizing s with
  | nil => exact Nat.le_refl s
  | cons c ds ih =>
    rw [Nat.ofDigitChars_cons]
    exact Nat.le_trans (by omega) (ih _)

theorem wholeDigits_append {ds : List Char} (hdigits : ∀ c ∈ ds, c.isDigit = true) (s : Nat)
    (hfits : Nat.ofDigitChars 10 ds s < wordLimit) (hrest : Behind rest) :
    wholeDigits s (ds ++ rest) = (Nat.ofDigitChars 10 ds s, 0, rest) := by
  induction ds generalizing s with
  | nil => cases hrest <;> rfl
  | cons c ds ih =>
    rw [Nat.ofDigitChars_cons] at hfits ⊢
    have hnext : 10 * s + digitValue c < wordLimit :=
      Nat.lt_of_le_of_lt (le_ofDigitChars ds _) hfits
    rw [List.cons_append, wholeDigits, if_pos (hdigits c List.mem_cons_self),
      if_neg (Nat.not_le.mpr hnext)]
    exact ih (fun d hd => hdigits d (List.mem_cons_of_mem c hd)) _ hfits

/-- A natural of sixty-four bits is read back. -/
theorem numberAt_digitChars {n : Nat} (hfits : n < wordLimit) (hrest : Behind rest) :
    numberAt false (Decimal.digitChars n ++ rest) = .ok (.natural n, rest) := by
  by_cases hzero : n = 0
  · subst hzero
    cases hrest <;> rfl
  obtain ⟨c, ds, hdigits, hc⟩ := digitChars_of_ne_zero hzero
  have hdigit : ∀ d ∈ c :: ds, d.isDigit = true := fun d hd =>
    isDigit_of_mem_digitChars (hdigits ▸ hd)
  have hvalue : Nat.ofDigitChars 10 ds (digitValue c) = n := by
    have hall : Nat.ofDigitChars 10 (Decimal.digitChars n) 0 = n :=
      Nat.ofDigitChars_toDigits (by decide) (by decide)
    rw [hdigits, Nat.ofDigitChars_cons] at hall
    simpa [digitValue] using hall
  have hwhole : wholeDigits (digitValue c) (ds ++ rest) = (n, 0, rest) := by
    rw [wholeDigits_append (fun d hd => hdigit d (List.mem_cons_of_mem c hd)) _
      (hvalue.symm ▸ hfits) hrest, hvalue]
  rw [hdigits, List.cons_append, numberAt]
  · rw [if_pos (hdigit c List.mem_cons_self), hwhole]
    cases hrest <;> rfl
  · exact hc

theorem reads_natural {n limit : Nat} (name : String) (h : n < limit) (hlimit : limit ≤ wordLimit) :
    Reads (readNatural limit name) (Decimal.natText n) n := by
  intro rest hrest
  have hnumber := numberAt_digitChars (Nat.lt_of_lt_of_le h hlimit) hrest
  obtain ⟨c, ds, hdigits⟩ : ∃ c ds, Decimal.digitChars n = c :: ds :=
    List.exists_cons_of_ne_nil Nat.toDigits_ne_nil
  have hdigit : c.isDigit = true :=
    isDigit_of_mem_digitChars (hdigits.symm ▸ List.mem_cons_self)
  rw [hdigits, List.cons_append] at hnumber
  rw [Decimal.natText, String.toList_ofList, hdigits, List.cons_append, readNatural,
    skipGaps_cons (isGap_of_isDigit hdigit)]
  simp only [if_neg (ne_of_isDigit hdigit (d := '-') (by decide)), if_pos hdigit, hnumber]
  show (if n < limit then _ else _) = _
  rw [if_pos h]

/-! ## Objects -/

/-- Fields that a function takes in one after another, each at its value. -/
inductive Takes {σ : Type} (take : σ → String → Reader σ) :
    σ → List (String × String) → σ → Prop where
  | nil (acc : σ) : Takes take acc [] acc
  | cons {acc next last : σ} {key text : String} {fields : List (String × String)}
    (first : ∀ rest, Behind rest →
      take acc key (':' :: (text.toList ++ rest)) = .ok (next, rest))
    (others : Takes take next fields last) : Takes take acc ((key, text) :: fields) last

/-- A member of an object. -/
def memberChars (f : String × String) : List Char := (quote f.1).toList ++ ':' :: f.2.toList

/-- The members of an object behind its first one. -/
def laterChars (fields : List (String × String)) : List Char :=
  fields.flatMap fun f => ',' :: memberChars f

theorem toList_commas (s : String) (rest : List String) :
    (commas (s :: rest)).toList = s.toList ++ rest.flatMap fun t => ',' :: t.toList := by
  induction rest generalizing s with
  | nil => simp [commas]
  | cons t rest ih =>
    rw [commas, String.toList_append, String.toList_append, ih t]
    · simp
    · simp

theorem toList_object_cons (f : String × String) (fields : List (String × String)) :
    (object (f :: fields)).toList =
      '\x7b' :: (memberChars f ++ (laterChars fields ++ ['\x7d'])) := by
  rw [object, String.toList_append, String.toList_append, List.map_cons, toList_commas,
    List.flatMap_map]
  simp [memberChars, laterChars]

theorem behind_laterChars (fields : List (String × String)) (rest : List Char) :
    Behind (laterChars fields ++ '\x7d' :: rest) := by
  cases fields with
  | nil => exact .brace rest
  | cons f fields => exact .comma _

theorem length_le_laterChars (fields : List (String × String)) :
    fields.length ≤ (laterChars fields).length := by
  induction fields with
  | nil => exact Nat.le_refl 0
  | cons f fields ih =>
    rw [laterChars] at ih
    rw [laterChars, List.flatMap_cons, List.length_append, List.length_cons, List.length_cons]
    omega

/-- The key of a first member is read up to its colon. -/
theorem readKey_memberChars (f : String × String) (rest : List Char) :
    readKey true (memberChars f ++ rest) = .ok (some f.1, ':' :: (f.2.toList ++ rest)) := by
  obtain ⟨hopen, hread⟩ := stringRest_quote f.1 (':' :: (f.2.toList ++ rest))
  rw [memberChars, List.append_assoc, List.cons_append, hopen, readKey,
    skipGaps_cons (by decide)]
  simp only [hread]
  rfl

/-- The key of a later member is read behind its comma. -/
theorem readKey_comma (f : String × String) (rest : List Char) :
    readKey false (',' :: (memberChars f ++ rest)) =
      .ok (some f.1, ':' :: (f.2.toList ++ rest)) := by
  obtain ⟨hopen, hread⟩ := stringRest_quote f.1 (':' :: (f.2.toList ++ rest))
  rw [memberChars, List.append_assoc, List.cons_append, hopen, readKey,
    skipGaps_cons (by decide)]
  simp only [skipGaps_cons (c := '\x22') (by decide), hread]
  rfl

section Members

variable {σ : Type} {take : σ → String → Reader σ} {acc last : σ} {fields : List (String × String)}

theorem readMembers_end (take : σ → String → Reader σ) (fuel : Nat) (first : Bool) (acc : σ)
    (rest : List Char) :
    readMembers take (fuel + 1) first acc ('\x7d' :: rest) = .ok (acc, rest) := by
  rw [readMembers, readKey, skipGaps_cons (by decide)]
  rfl

/-- A member whose key and value are read is taken in. -/
theorem readMembers_step {fuel : Nat} {first : Bool} {next : σ} {key : String}
    {value later : List Char} (hkey : readKey first cs = .ok (some key, value))
    (htake : take acc key value = .ok (next, later)) :
    readMembers take (fuel + 1) first acc cs = readMembers take fuel false next later := by
  rw [readMembers, hkey]
  show (take acc key value >>= _) = _
  rw [htake]
  rfl

theorem readMembers_laterChars (h : Takes take acc fields last) {fuel : Nat}
    (hfuel : fields.length < fuel) (rest : List Char) :
    readMembers take fuel false acc (laterChars fields ++ '\x7d' :: rest) = .ok (last, rest) := by
  induction h generalizing fuel with
  | nil acc =>
    obtain ⟨fuel, rfl⟩ := Nat.exists_eq_add_of_lt hfuel
    exact readMembers_end take _ false acc rest
  | @cons acc next last key text fields first others ih =>
    rw [List.length_cons] at hfuel
    obtain ⟨fuel, rfl⟩ := Nat.exists_eq_add_of_lt hfuel
    have hkey := readKey_comma (key, text) (laterChars fields ++ '\x7d' :: rest)
    have hlater : laterChars ((key, text) :: fields) ++ '\x7d' :: rest =
        ',' :: (memberChars (key, text) ++ (laterChars fields ++ '\x7d' :: rest)) := by
      simp [laterChars]
    rw [hlater, readMembers_step hkey (first _ (behind_laterChars fields rest))]
    exact ih (by omega)

/-- An object is read back behind its opening brace, whatever stands behind it. -/
theorem readMembers_object (h : Takes take acc fields last) (rest : List Char) :
    ∃ cs, (object fields).toList ++ rest = '\x7b' :: cs ∧
      readMembers take (cs.length + 1) true acc cs = .ok (last, rest) := by
  cases h with
  | nil acc => exact ⟨'\x7d' :: rest, rfl, readMembers_end take _ true acc rest⟩
  | @cons acc next last key text fields first others =>
    refine ⟨memberChars (key, text) ++ (laterChars fields ++ '\x7d' :: rest), ?_, ?_⟩
    · simp [toList_object_cons]
    · have hlong : fields.length <
          (memberChars (key, text) ++ (laterChars fields ++ '\x7d' :: rest)).length := by
        have hlater := length_le_laterChars fields
        simp only [List.length_append, List.length_cons]
        omega
      rw [readMembers_step (readKey_memberChars (key, text) _)
        (first _ (behind_laterChars fields rest))]
      exact readMembers_laterChars others hlong rest

end Members

end BroadcastLink.Json
