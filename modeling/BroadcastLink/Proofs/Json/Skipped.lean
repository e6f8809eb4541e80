import BroadcastLink.Proofs.Json.Written

/-!
# Objects seen from outside

A reader that knows nothing about an object but the grammar finds its keys, and behind each the text
of one value. Strings, numerals and `null` are values to it.
-/

namespace BroadcastLink.Json

variable {rest cs tail : List Char}

/-! ## Strings -/

/-- What is written for a character is part of a string. -/
theorem skipString_escapeChar (c : Char) (rest : List Char) :
    skipString (escapeChar c ++ rest) = skipString rest := by
  unfold escapeChar
  split
  · rename_i e hshort
    obtain ⟨hu, hback⟩ := unescape?_shortEscape? hshort
    show skipString ('\\' :: e :: rest) = _
    rw [skipString]
    · simp only [hback, Option.isSome_some, if_true]
    · intro a b c d more hunicode
      exact absurd hunicode hu
    · intro hunicode
      exact absurd hunicode hu
  · rename_i hshort
    obtain ⟨hquote, hback⟩ := plain_of_shortEscape? hshort
    split
    · rename_i hcontrol
      show skipString ('\\' :: 'u' :: '0' :: '0' :: _ :: _ :: rest) = _
      rw [skipString, hexValue?_digits c.toNat hcontrol]
    · rename_i hcontrol
      show skipString (c :: rest) = _
      rw [skipString]
      · rw [if_neg hquote, if_neg hback, if_neg hcontrol]
      all_goals
        intros
        contradiction

theorem skipString_flatMap (cs rest : List Char) :
    skipString (cs.flatMap escapeChar ++ '\x22' :: rest) = .ok rest := by
  induction cs with
  | nil =>
    show skipString ('\x22' :: rest) = _
    rw [skipString] <;> simp
  | cons c cs ih => rw [List.flatMap_cons, List.append_assoc, skipString_escapeChar, ih]

/-! ## Numerals -/

/-- At least one digit, and nothing else. -/
structure IsDigits (ds : List Char) : Prop where
  some : ds ≠ []
  all : ∀ c ∈ ds, c.isDigit = true

/-- The whole part of a numeral, which does not start with a zero in front of another digit. -/
structure IsWhole (ds : List Char) : Prop where
  digits : IsDigits ds
  zero : ds.head? = some '0' → ds = ['0']

/-- The fraction of a numeral, which may be absent. -/
inductive IsFraction : List Char → Prop where
  | absent : IsFraction []
  | present {ds : List Char} (h : IsDigits ds) : IsFraction ('.' :: ds)

/-- The exponent of a numeral, which may be absent and else has a sign. -/
inductive IsExponent : List Char → Prop where
  | absent : IsExponent []
  | plus {ds : List Char} (h : IsDigits ds) : IsExponent ('e' :: '+' :: ds)
  | minus {ds : List Char} (h : IsDigits ds) : IsExponent ('e' :: '-' :: ds)

/-- A numeral without sign. -/
inductive IsNumeral : List Char → Prop where
  | of {whole fraction exponent : List Char} (hwhole : IsWhole whole)
    (hfraction : IsFraction fraction) (hexponent : IsExponent exponent) :
    IsNumeral (whole ++ (fraction ++ exponent))

theorem isDigits_zero : IsDigits ['0'] := by
  refine ⟨List.cons_ne_nil _ _, fun c hc => ?_⟩
  rw [List.mem_singleton.mp hc]
  rfl

theorem isWhole_zero : IsWhole ['0'] := ⟨isDigits_zero, fun _ => rfl⟩

/-- The document goes on with something else than a digit. -/
def EndsDigits (cs : List Char) : Prop := ∃ c more, cs = c :: more ∧ c.isDigit = false

theorem endsDigits_of_behind (h : Behind rest) : EndsDigits rest := by
  cases h with
  | comma rest => exact ⟨',', rest, rfl, by decide⟩
  | brace rest => exact ⟨'\x7d', rest, rfl, by decide⟩

theorem IsExponent.endsDigits (h : IsExponent cs) (hrest : Behind rest) :
    EndsDigits (cs ++ rest) := by
  cases h with
  | absent => exact endsDigits_of_behind hrest
  | plus _ => exact ⟨'e', _, rfl, by decide⟩
  | minus _ => exact ⟨'e', _, rfl, by decide⟩

theorem IsFraction.endsDigits (h : IsFraction cs) (htail : EndsDigits tail) :
    EndsDigits (cs ++ tail) := by
  cases h with
  | absent => exact htail
  | present _ => exact ⟨'.', _, rfl, by decide⟩

theorem skipDigits_append {ds : List Char} (h : ∀ c ∈ ds, c.isDigit = true)
    (htail : EndsDigits tail) : skipDigits (ds ++ tail) = tail := by
  obtain ⟨c, more, rfl, hc⟩ := htail
  rw [skipDigits, List.dropWhile_append_of_pos h, List.dropWhile_cons, hc]
  rfl

theorem IsDigits.exists_cons {ds : List Char} (h : IsDigits ds) :
    ∃ d more, ds = d :: more ∧ d.isDigit = true ∧ ∀ c ∈ more, c.isDigit = true := by
  obtain ⟨d, more, rfl⟩ := List.exists_cons_of_ne_nil h.some
  exact ⟨d, more, rfl, h.all d List.mem_cons_self, fun c hc => h.all c (List.mem_cons_of_mem d hc)⟩

theorem skipExponent_append {sign : Char} {ds : List Char} (hsign : sign = '+' ∨ sign = '-')
    (h : IsDigits ds) (hrest : Behind rest) : skipExponent (sign :: (ds ++ rest)) = .ok rest := by
  obtain ⟨d, more, rfl, hd, hmore⟩ := h.exists_cons
  have hskip := skipDigits_append hmore (endsDigits_of_behind hrest)
  rcases hsign with rfl | rfl
  all_goals
    show (if d.isDigit then Except.ok (skipDigits (more ++ rest)) else _) = _
    rw [if_pos hd, hskip]

/-- An exponent is skipped behind a whole part. -/
theorem skipFraction_exponent (h : IsExponent cs) (hrest : Behind rest) :
    skipFraction (cs ++ rest) = .ok rest := by
  cases h with
  | absent => cases hrest <;> rfl
  | plus h => exact skipExponent_append (.inl rfl) h hrest
  | minus h => exact skipExponent_append (.inr rfl) h hrest

theorem skipFraction_append {exponent : List Char} (h : IsFraction cs)
    (hexponent : IsExponent exponent) (hrest : Behind rest) :
    skipFraction (cs ++ (exponent ++ rest)) = .ok rest := by
  cases h with
  | absent => exact skipFraction_exponent hexponent hrest
  | present h =>
    obtain ⟨d, more, rfl, hd, hmore⟩ := h.exists_cons
    have hskip := skipDigits_append hmore (hexponent.endsDigits hrest)
    rw [List.cons_append, List.cons_append, skipFraction, if_pos hd, hskip]
    cases hexponent with
    | absent => cases hrest <;> rfl
    | plus h => exact skipExponent_append (.inl rfl) h hrest
    | minus h => exact skipExponent_append (.inr rfl) h hrest

theorem skipNumber_whole (h : IsWhole cs) (htail : EndsDigits tail) :
    skipNumber (cs ++ tail) = skipFraction tail := by
  obtain ⟨d, more, rfl, hd, hmore⟩ := h.digits.exists_cons
  by_cases hzero : d = '0'
  · subst hzero
    obtain rfl : more = [] := List.cons.inj (h.zero rfl) |>.2
    obtain ⟨c, rest, rfl, hc⟩ := htail
    show (if c.isDigit then _ else _) = _
    rw [hc]
    rfl
  · rw [List.cons_append, skipNumber, if_pos hd, skipDigits_append hmore htail]
    exact fun _ _ hfront _ => hzero hfront

theorem skipNumber_numeral (h : IsNumeral cs) (hrest : Behind rest) :
    skipNumber (cs ++ rest) = .ok rest := by
  obtain ⟨hwhole, hfraction, hexponent⟩ := h
  rw [List.append_assoc, List.append_assoc,
    skipNumber_whole hwhole (hfraction.endsDigits (hexponent.endsDigits hrest)),
    skipFraction_append hfraction hexponent hrest]

theorem IsNumeral.exists_cons (h : IsNumeral cs) :
    ∃ c more, cs = c :: more ∧ c.isDigit = true := by
  obtain ⟨hwhole, -, -⟩ := h
  obtain ⟨d, more, rfl, hd, -⟩ := hwhole.digits.exists_cons
  exact ⟨d, _, rfl, hd⟩

/-! ## Values -/

/-- A text that is one value, in the place of a value of an object. -/
def Skips (text : String) : Prop :=
  ∀ rest, Behind rest → skipValue (text.toList ++ rest) = .ok rest

theorem skips_quote (s : String) : Skips (quote s) := by
  intro rest _
  have hskip := skipString_flatMap s.toList rest
  rw [toList_quote, List.cons_append, List.append_assoc, List.singleton_append, skipValue,
    List.length_cons, skipIn, skipGaps_cons (by decide)]
  show (skipString _ >>= _) = _
  rw [hskip]
  rfl

theorem skips_null : Skips "null" := by
  intro rest _
  show skipValue ('n' :: 'u' :: 'l' :: 'l' :: rest) = _
  rw [skipValue, List.length_cons, skipIn, skipGaps_cons (by decide)]
  rfl

theorem skips_numeral {s : String} (h : IsNumeral s.toList) : Skips s := by
  intro rest hrest
  have hskip := skipNumber_numeral h hrest
  obtain ⟨c, cs, hfront, hc⟩ := h.exists_cons
  rw [hfront, List.cons_append] at hskip ⊢
  rw [skipValue, List.length_cons, skipIn, skipGaps_cons (isGap_of_isDigit hc)]
  simp only [if_neg (ne_of_isDigit hc (d := 'n') (by decide)),
    if_neg (ne_of_isDigit hc (d := 't') (by decide)),
    if_neg (ne_of_isDigit hc (d := 'f') (by decide)),
    if_neg (ne_of_isDigit hc (d := '-') (by decide)), if_pos hc, hskip]
  rfl

theorem skips_negative {s : String} (h : IsNumeral s.toList) : Skips ("-" ++ s) := by
  intro rest hrest
  have hskip := skipNumber_numeral h hrest
  rw [String.toList_append]
  show skipValue ('-' :: (s.toList ++ rest)) = _
  rw [skipValue, List.length_cons, skipIn, skipGaps_cons (by decide)]
  show (skipNumber _ >>= _) = _
  rw [hskip]
  rfl

/-! ## Members -/

/-- The characters of a document in front of what remains of it. -/
def textBefore (cs rest : List Char) : String := String.ofList (cs.take (cs.length - rest.length))

/-- Take in a member with the text of its value. -/
def rawMember (seen : List (String × String)) (key : String) (cs : List Char) :
    Except ReadFault (Reading (List (String × String))) := do
  let cs ← readColon cs
  let rest ← skipValue cs
  return (seen ++ [(key, textBefore cs rest)], rest)

/-- An object with the texts of its values. -/
def rawObject (cs : List Char) : Except ReadFault (Reading (List (String × String))) :=
  match skipGaps cs with
  | '\x7b' :: rest => readMembers rawMember (rest.length + 1) true [] rest
  | cs => .error (unexpected "a map" cs)

/-- The members of a document that is one object, each with its key and the text of its value. -/
def membersOf (text : String) : Except ReadFault (List (String × String)) :=
  readDocument rawObject text.toList

theorem textBefore_append (text : String) (rest : List Char) :
    textBefore (text.toList ++ rest) rest = text := by
  rw [textBefore, List.length_append, Nat.add_sub_cancel, List.take_left, String.ofList_toList]

theorem takes_rawMember (seen : List (String × String)) {fields : List (String × String)}
    (h : ∀ f ∈ fields, Skips f.2) : Takes rawMember seen fields (seen ++ fields) := by
  induction fields generalizing seen with
  | nil =>
    rw [List.append_nil]
    exact .nil seen
  | cons f fields ih =>
    have hothers := ih (seen ++ [f]) fun g hg => h g (List.mem_cons_of_mem f hg)
    rw [List.append_assoc, List.singleton_append] at hothers
    refine .cons (fun rest hrest => ?_) hothers
    have hskip := h f List.mem_cons_self rest hrest
    rw [rawMember, readColon, skipGaps_cons (by decide)]
    show (skipValue (f.2.toList ++ rest) >>= _) = _
    rw [hskip]
    show Except.ok (seen ++ [(f.1, textBefore (f.2.toList ++ rest) rest)], rest) = _
    rw [textBefore_append]

/-- An object is seen as it was written, if each of its texts is one value. -/
theorem membersOf_object {fields : List (String × String)} (h : ∀ f ∈ fields, Skips f.2) :
    membersOf (object fields) = .ok fields := by
  obtain ⟨cs, hopen, hmembers⟩ := readMembers_object (takes_rawMember [] h) []
  rw [List.append_nil] at hopen
  rw [membersOf, hopen, readDocument, rawObject, skipGaps_cons (by decide)]
  show (readMembers rawMember (cs.length + 1) true [] cs >>= _) = _
  rw [hmembers]
  rfl

end BroadcastLink.Json
