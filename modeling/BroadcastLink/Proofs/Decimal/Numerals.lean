import BroadcastLink.Proofs.Json.Skipped

/-!
# Decimal texts are numerals

The text of a number is a numeral in either layout. The digits of a number other than zero start
with another digit than zero, and zeros are put behind such digits only: where the search for a
shortest decimal ends with the coefficient zero, the number is below one and the search has gone
down to fractions.
-/

namespace BroadcastLink.Decimal

open Json (IsDigits IsWhole IsFraction IsExponent IsNumeral Skips isDigits_zero isWhole_zero)

/-! ## Digits -/

theorem isDigits_digitChars (n : Nat) : IsDigits (digitChars n) :=
  ⟨Nat.toDigits_ne_nil, fun _ => Json.isDigit_of_mem_digitChars⟩

theorem isDigit_of_mem_zeros {n : Nat} {c : Char} (h : c ∈ zeros n) : c.isDigit = true := by
  obtain rfl := List.eq_of_mem_replicate h
  rfl

/-- Digits in front of further ones. -/
theorem isDigits_append {ds es : List Char} (hds : IsDigits ds)
    (hes : ∀ c ∈ es, c.isDigit = true) : IsDigits (ds ++ es) := by
  refine ⟨List.append_ne_nil_of_left_ne_nil hds.some es, fun c hc => ?_⟩
  rcases List.mem_append.mp hc with hc | hc
  · exact hds.all c hc
  · exact hes c hc

/-- The digits of a number are a whole part, also with more digits behind if the number is not
zero. -/
theorem isWhole_digitChars_append {n : Nat} {es : List Char} (h : n ≠ 0 ∨ es = [])
    (hes : ∀ c ∈ es, c.isDigit = true) : IsWhole (digitChars n ++ es) := by
  refine ⟨isDigits_append (isDigits_digitChars n) hes, fun hzero => ?_⟩
  by_cases hn : n = 0
  · obtain rfl : es = [] := h.resolve_left (fun hne => hne hn)
    rw [hn]
    rfl
  · obtain ⟨c, ds, hdigits, hc⟩ := Json.digitChars_of_ne_zero hn
    rw [hdigits] at hzero
    exact absurd (Option.some.inj hzero) hc

/-- The first digits of a number are a whole part. -/
theorem isWhole_take_digitChars {n k : Nat} (hn : n ≠ 0) (hk : 0 < k) :
    IsWhole ((digitChars n).take k) := by
  obtain ⟨c, ds, hdigits, hc⟩ := Json.digitChars_of_ne_zero hn
  obtain ⟨k, rfl⟩ := Nat.exists_eq_succ_of_ne_zero (Nat.ne_of_gt hk)
  rw [hdigits, List.take_succ_cons]
  refine ⟨⟨List.cons_ne_nil c _, fun d hd => ?_⟩, fun hzero => ?_⟩
  · refine Json.isDigit_of_mem_digitChars (n := n) ?_
    rw [hdigits]
    rcases List.mem_cons.mp hd with rfl | hd
    · exact List.mem_cons_self
    · exact List.mem_cons_of_mem c (List.mem_of_mem_take hd)
  · exact absurd (Option.some.inj hzero) hc

/-- A single digit is a whole part, whichever it is. -/
theorem isWhole_take_one (n : Nat) : IsWhole ((digitChars n).take 1) := by
  obtain ⟨c, ds, hdigits⟩ := List.exists_cons_of_ne_nil (isDigits_digitChars n).some
  refine ⟨⟨by simp [hdigits], fun d hd => (isDigits_digitChars n).all d (List.mem_of_mem_take hd)⟩,
    fun hzero => ?_⟩
  rw [hdigits] at hzero ⊢
  obtain rfl : c = '0' := Option.some.inj hzero
  rfl

theorem isDigits_drop_digitChars {n k : Nat} (hk : k < (digitChars n).length) :
    IsDigits ((digitChars n).drop k) := by
  refine ⟨fun hnil => ?_, fun c hc => (isDigits_digitChars n).all c (List.mem_of_mem_drop hc)⟩
  have hlen := congrArg List.length hnil
  rw [List.length_drop, List.length_nil] at hlen
  omega

/-! ## Naturals -/

theorem natText_inj {m n : Nat} : natText m = natText n ↔ m = n := by
  refine ⟨fun h => ?_, fun h => h ▸ rfl⟩
  have hdigits : digitChars m = digitChars n := String.ofList_injective h
  have hvalue (k : Nat) : Nat.ofDigitChars 10 (digitChars k) 0 = k :=
    Nat.ofDigitChars_toDigits (by decide) (by decide)
  rw [← hvalue m, hdigits, hvalue n]

/-- The text of a natural is one value of a document. -/
theorem skips_natText (n : Nat) : Skips (natText n) := by
  refine Json.skips_numeral ?_
  have hwhole := isWhole_digitChars_append (n := n) (.inr rfl) (by simp)
  have hnumeral := IsNumeral.of hwhole .absent .absent
  rwa [List.append_nil, List.append_nil, List.append_nil,
    ← String.toList_ofList (l := digitChars n)] at hnumeral

/-! ## Layouts -/

namespace Layout

theorem isNumeral_positional {n : Nat} {exponent : Int} (h : n ≠ 0 ∨ exponent ≤ 0) :
    IsNumeral (positional (digitChars n) exponent) := by
  unfold positional
  dsimp only
  split
  · -- Zeros stand behind all the digits, none behind the digit zero.
    rename_i hexponent
    have hwhole : IsWhole (digitChars n ++ zeros exponent.toNat) := by
      refine isWhole_digitChars_append (h.imp_right fun hle => ?_) fun _ => isDigit_of_mem_zeros
      obtain rfl : exponent = 0 := by omega
      rfl
    exact .of hwhole (.present isDigits_zero) .absent
  · rename_i hexponent
    split
    · rename_i hleading
      -- The digit zero alone would have to stand in front of the point.
      have hn : n ≠ 0 := by
        rintro rfl
        have hone : (digitChars 0).length = 1 := rfl
        omega
      have hwhole := isWhole_take_digitChars (k := (exponent + (digitChars n).length - 1 + 1).toNat)
        hn (by omega)
      have hfraction := IsFraction.present (isDigits_drop_digitChars (n := n)
        (k := (exponent + (digitChars n).length - 1 + 1).toNat) (by omega))
      have hnumeral := IsNumeral.of hwhole hfraction .absent
      rwa [List.append_nil] at hnumeral
    · have hdigits : IsDigits (zeros (-(exponent + (digitChars n).length - 1) - 1).toNat ++
          digitChars n) := by
        refine ⟨List.append_ne_nil_of_right_ne_nil _ (isDigits_digitChars n).some, fun c hc => ?_⟩
        rcases List.mem_append.mp hc with hc | hc
        · exact isDigit_of_mem_zeros hc
        · exact (isDigits_digitChars n).all c hc
      have hnumeral := IsNumeral.of isWhole_zero (.present hdigits) .absent
      rwa [List.append_nil] at hnumeral

theorem isNumeral_scientific (n : Nat) (exponent : Int) :
    IsNumeral (scientific (digitChars n) exponent) := by
  have hexponent (leading : Int) :
      IsExponent ('e' :: (if leading < 0 then '-' else '+') :: digitChars leading.natAbs) := by
    split
    · exact .minus (isDigits_digitChars _)
    · exact .plus (isDigits_digitChars _)
  unfold scientific
  dsimp only
  rw [List.append_assoc]
  refine .of (isWhole_take_one n) ?_ (hexponent _)
  split
  · exact .absent
  · rename_i hmore
    refine .present (isDigits_drop_digitChars (n := n) (k := 1) ?_)
    by_contra hshort
    exact hmore (List.drop_eq_nil_of_le (Nat.le_of_not_lt hshort))

theorem isNumeral_unsigned (l : Layout) {d : Digits} (h : d.coefficient ≠ 0 ∨ d.exponent ≤ 0) :
    IsNumeral (l.unsigned d) := by
  unfold unsigned
  dsimp only
  split
  · exact isNumeral_positional h
  · exact isNumeral_scientific _ _

end Layout

/-! ## Shortest decimals -/

namespace Neighbourhood

variable {n : Neighbourhood} {k : Int} {c : Nat}

/-- Does the multiple `c · 10 ^ k` lie in the interval? -/
def inside (n : Neighbourhood) (k : Int) (c : Nat) : Bool :=
  let up := Nat.pow 10 (-k).toNat
  let unit := n.den * Nat.pow 10 k.toNat
  if n.ends then n.low * up ≤ c * unit && c * unit ≤ n.high * up
  else n.low * up < c * unit && c * unit < n.high * up

theorem inside_of_onGrid (h : n.onGrid k = some c) : n.inside k c = true := by
  unfold onGrid at h
  dsimp only at h
  generalize hleast : n.value * Nat.pow 10 (-k).toNat / (n.den * Nat.pow 10 k.toNat) = least at h
  split at h
  · contradiction
  · rename_i hin _
    cases h
    exact hin
  · rename_i _ hin
    cases h
    exact hin
  · rename_i hin hnext
    -- Of two candidates either one lies in the interval.
    repeat' split at h
    all_goals
      cases h
      assumption

theorem inside_zero (hlow : 0 < n.low) : n.inside k 0 = false := by
  have hreach : 0 < n.low * Nat.pow 10 (-k).toNat := Nat.mul_pos hlow (Nat.pow_pos (by decide))
  unfold inside
  dsimp only
  rw [Nat.zero_mul]
  split
  · rw [decide_eq_false (by omega), Bool.false_and]
  · rw [decide_eq_false (by omega), Bool.false_and]

/-- A search ends with a coefficient other than zero, or else with the whole part of the number on
the last grid. -/
theorem search_spec (hlow : 0 < n.low) (steps : Nat) (k : Int) :
    (n.search steps k).coefficient ≠ 0 ∨ n.search steps k = ⟨n.value / n.den, k - steps⟩ := by
  induction steps generalizing k with
  | zero =>
    right
    simp [search]
  | succ steps ih =>
    rw [search]
    split
    · rename_i c hgrid
      left
      rintro rfl
      exact Bool.false_ne_true ((inside_zero hlow).symm.trans (inside_of_onGrid hgrid))
    · rcases ih (k - 1) with hfound | hlast
      · exact .inl hfound
      · right
        rw [hlast]
        congr 1
        omega

end Neighbourhood

theorem low_neighbourhood_pos (f : BinaryFormat) {m : Nat} (q : Int) (hm : m ≠ 0) :
    0 < (neighbourhood f m q).low := by
  have hscale : 0 < (BinaryFormat.powerOfTwo q).1 := Nat.pow_pos (by decide)
  refine Nat.mul_pos ?_ hscale
  split <;> omega

/-- A number whose whole part is zero has its leading bit behind the point. -/
theorem leading_nonpos {f : BinaryFormat} {m : Nat} {q : Int} (hm : m ≠ 0)
    (hzero : (neighbourhood f m q).value / (neighbourhood f m q).den = 0) :
    (Nat.log2 m : Int) + 1 + q ≤ 0 := by
  have hden : 0 < (neighbourhood f m q).den :=
    Nat.mul_pos (by decide) (Nat.pow_pos (by decide))
  have hsmall : 4 * m * 2 ^ q.toNat < 4 * 2 ^ (-q).toNat :=
    (Nat.div_eq_zero_iff_lt hden).mp hzero
  by_cases hq : 0 ≤ q
  · have hone : 4 * m * 1 ≤ 4 * m * 2 ^ q.toNat :=
      Nat.mul_le_mul_left _ (Nat.one_le_two_pow)
    have hnone : (-q).toNat = 0 := by omega
    rw [hnone] at hsmall
    omega
  · have hnone : q.toNat = 0 := by omega
    rw [hnone] at hsmall
    have hlog : Nat.log2 m < (-q).toNat := (Nat.log2_lt hm).mpr (by omega)
    omega

/-- The shortest decimal of a number other than zero has a coefficient other than zero or no zeros
behind it. -/
theorem shortest_spec (f : BinaryFormat) {m : Nat} (q : Int) (hm : m ≠ 0) :
    (shortest f m q).coefficient ≠ 0 ∨ (shortest f m q).exponent ≤ 0 := by
  unfold shortest
  dsimp only
  rcases Neighbourhood.search_spec (low_neighbourhood_pos f q hm) (f.fraction + 8)
    (((Nat.log2 m : Int) + 1 + q) * 30103 / 100000 + 2) with hfound | hlast
  · exact .inl hfound
  by_cases hzero : (neighbourhood f m q).value / (neighbourhood f m q).den = 0
  · right
    rw [hlast]
    show ((Nat.log2 m : Int) + 1 + q) * 30103 / 100000 + 2 - ((f.fraction + 8 : Nat) : Int) ≤ 0
    have hleading := leading_nonpos hm hzero
    omega
  · left
    rw [hlast]
    exact hzero

/-! ## Single precision -/

/-- The text of a single-precision number is one value of a document. -/
theorem skips_singleText (bits : Nat) : Skips (singleText bits) := by
  unfold singleText
  split
  · rename_i cs htext
    cases hvalue : single.decode bits with
    | undefined =>
      rw [hvalue] at htext
      contradiction
    | infinite negative =>
      rw [hvalue] at htext
      contradiction
    | finite negative m q =>
      rw [hvalue] at htext
      have hnumeral : IsNumeral (if m = 0 then ['0', '.', '0']
          else singleLayout.unsigned (shortest single m q)) := by
        split
        · exact .of isWhole_zero (.present isDigits_zero) .absent
        · rename_i hm
          exact Layout.isNumeral_unsigned _ (shortest_spec single q hm)
      obtain rfl := Option.some.inj htext
      cases negative with
      | true =>
        rw [if_pos rfl, String.ofList_append]
        exact Json.skips_negative (by rwa [String.toList_ofList])
      | false => exact Json.skips_numeral (by rwa [String.toList_ofList])
  · exact Json.skips_null

end BroadcastLink.Decimal
