import CoffeeCloud.Library.Decimal

/-!
The number a decimal stands for, and what the context makes of it: a result keeps
28 digits and no place below the tiny exponent, what is dropped is rounded half to
even, and it is exact where only zeros are dropped.
-/
namespace Library.Decimal
variable {d r : Decimal} {n k : Nat}

section Digits

theorem numDigits_pos : 0 < numDigits n := Nat.length_toDigits_pos

theorem numDigits_le_iff (h : 0 < k) : numDigits n ≤ k ↔ n < 10 ^ k :=
  Nat.length_toDigits_le_iff (by decide) h

theorem lt_pow_numDigits : n < 10 ^ numDigits n := (numDigits_le_iff numDigits_pos).mp le_rfl

theorem pow_le_of_lt_numDigits (h : k < numDigits n) (pos : 0 < n) : 10 ^ k ≤ n := by
  by_contra small
  rw [not_le] at small
  cases k with
  | zero => omega
  | succ k => exact absurd ((numDigits_le_iff k.succ_pos).mpr small) (not_le.mpr h)

end Digits

section Value

def value (d : Decimal) : Rat :=
  (if d.negative then -1 else 1) * d.coefficient * 10 ^ d.exponent

theorem isPositive_iff : d.isPositive = true ↔ 0 < d.value := by
  have scale : (0 : Rat) < 10 ^ d.exponent := zpow_pos (by norm_num) _
  simp only [isPositive, value]
  cases d.negative with
  | true =>
      have low : -1 * (d.coefficient : Rat) * 10 ^ d.exponent ≤ 0 := by
        have : (0 : Rat) ≤ d.coefficient * 10 ^ d.exponent := by positivity
        linarith
      simpa using low
  | false =>
      have pos : (0 : Rat) < 1 * d.coefficient * 10 ^ d.exponent ↔ 0 < d.coefficient := by
        rw [one_mul, mul_pos_iff_of_pos_right scale, Nat.cast_pos]
      simpa [Nat.pos_iff_ne_zero] using pos.symm

/-- A number of decimal places is whole where the places below the point are zeros. -/
theorem whole_iff {c : Nat} {e : Int} :
    (∃ z : Int, (c : Rat) * 10 ^ e = z) ↔ 0 ≤ e ∨ 10 ^ (-e).toNat ∣ c := by
  by_cases high : 0 ≤ e
  · obtain ⟨k, rfl⟩ := Int.eq_ofNat_of_zero_le high
    refine iff_of_true ⟨c * 10 ^ k, ?_⟩ (.inl high)
    push_cast
    rw [zpow_natCast]
  · obtain ⟨k, hk⟩ := Int.eq_ofNat_of_zero_le (a := -e) (by omega)
    have down : e = -(k : Int) := by omega
    have scale : (10 : Rat) ^ k ≠ 0 := by positivity
    rw [or_iff_right high, down, neg_neg, Int.toNat_natCast, zpow_neg, zpow_natCast]
    constructor
    · rintro ⟨z, hz⟩
      rw [← div_eq_mul_inv, div_eq_iff scale] at hz
      have whole : (c : Int) = z * 10 ^ k := by exact_mod_cast hz
      have divides : ((10 ^ k : Nat) : Int) ∣ c := ⟨z, by push_cast; rw [whole, mul_comm]⟩
      exact Int.natCast_dvd_natCast.mp divides
    · rintro ⟨q, rfl⟩
      refine ⟨q, ?_⟩
      push_cast
      field_simp

/-- A decimal is whole where its places below the point are zeros. -/
theorem isIntegral_iff : d.isIntegral = true ↔
    0 ≤ d.exponent ∨ 10 ^ (-d.exponent).toNat ∣ d.coefficient := by
  simp only [isIntegral, Bool.or_eq_true, Bool.and_eq_true, decide_eq_true_eq]
  constructor
  · rintro ((high | zero) | ⟨-, whole⟩)
    · exact .inl high
    · exact .inr (by simp [zero])
    · exact .inr (Nat.dvd_of_mod_eq_zero whole)
  · rintro (high | whole)
    · exact .inl (.inl high)
    · by_cases zero : d.coefficient = 0
      · exact .inl (.inr zero)
      · refine .inr ⟨?_, Nat.mod_eq_zero_of_dvd whole⟩
        have fits := (Nat.le_of_dvd (Nat.pos_of_ne_zero zero) whole).trans_lt lt_pow_numDigits
        exact (Nat.pow_lt_pow_iff_right (by decide)).mp fits

theorem isIntegral_iff_value : d.isIntegral = true ↔ ∃ z : Int, d.value = z := by
  rw [isIntegral_iff, ← whole_iff]
  simp only [value]
  cases d.negative with
  | false => simp
  | true =>
      simp only [if_true, neg_mul, one_mul]
      constructor
      · rintro ⟨z, hz⟩
        exact ⟨-z, by rw [hz]; push_cast; ring⟩
      · rintro ⟨z, hz⟩
        refine ⟨-z, ?_⟩
        push_cast
        rw [← hz, neg_neg]

theorem toInt_value (whole : d.isIntegral = true) : (d.toInt : Rat) = d.value := by
  have magnitude : ((if 0 ≤ d.exponent then (d.coefficient * 10 ^ d.exponent.toNat : Int)
      else if d.coefficient = 0 then 0
      else d.coefficient / 10 ^ (-d.exponent).toNat : Int) : Rat) =
        d.coefficient * 10 ^ d.exponent := by
    split
    · rename_i high
      obtain ⟨e, he⟩ := Int.eq_ofNat_of_zero_le high
      rw [he, Int.toNat_natCast, zpow_natCast]
      push_cast
      ring
    · rename_i low
      split
      · rename_i zero
        simp [zero]
      · obtain ⟨e, he⟩ := Int.eq_ofNat_of_zero_le (a := -d.exponent) (by omega)
        have divides := (isIntegral_iff.mp whole).resolve_left low
        rw [he, Int.toNat_natCast] at divides ⊢
        obtain ⟨q, hq⟩ := divides
        have down : d.exponent = -(e : Int) := by omega
        rw [down, zpow_neg, zpow_natCast, hq]
        have cancel : ((10 ^ e * q : Nat) : Int) / 10 ^ e = q := by
          push_cast
          exact Int.mul_ediv_cancel_left _ (by positivity)
        rw [cancel]
        push_cast
        field_simp
  simp only [toInt, value]
  cases d.negative with
  | true =>
      simp only [if_true]
      push_cast at magnitude ⊢
      rw [magnitude]
      ring
  | false =>
      simp only [Bool.false_eq_true, if_false]
      rw [magnitude]
      ring

end Value

section Context

theorem roundHalfEven_mul (n k : Nat) : roundHalfEven (n * 10 ^ k) k = n := by
  simp [roundHalfEven]

/-- Rounding is exact where only zeros are dropped. -/
theorem roundHalfEven_exact_iff : roundHalfEven n k * 10 ^ k = n ↔ 10 ^ k ∣ n := by
  constructor
  · intro exact
    exact ⟨roundHalfEven n k, by rw [mul_comm]; exact exact.symm⟩
  · rintro ⟨q, rfl⟩
    rw [mul_comm (10 ^ k) q, roundHalfEven_mul]

theorem roundHalfEven_small (h : numDigits n < k) : roundHalfEven n k = 0 := by
  have digits : n < 10 ^ numDigits n := lt_pow_numDigits
  have tenth : 10 ^ numDigits n * 10 ≤ 10 ^ k := by
    rw [← pow_succ]
    exact Nat.pow_le_pow_right (by decide) h
  have small : n < 10 ^ k := by omega
  simp only [roundHalfEven, Nat.div_eq_of_lt small, Nat.mod_eq_of_lt small]
  rw [if_pos (by omega)]

/-- How many of its lowest digits a result loses to the context. -/
def dropped (d : Decimal) : Nat :=
  (max (numDigits d.coefficient + d.exponent - precision) tinyExponent - d.exponent).toNat

/-- The digits a result keeps. -/
def kept (d : Decimal) : Nat := roundHalfEven d.coefficient d.dropped

/-- A result above the largest exponent is none. -/
def Overflows (d : Decimal) : Prop :=
  maxExponent < numDigits d.kept + d.exponent + d.dropped - 1

theorem kept_of_dropped_zero (h : d.dropped = 0) : d.kept = d.coefficient := by
  simp only [kept, h]
  simpa using roundHalfEven_mul d.coefficient 0

theorem div_le_roundHalfEven : n / 10 ^ k ≤ roundHalfEven n k ∧ roundHalfEven n k ≤ n / 10 ^ k + 1 := by
  simp only [roundHalfEven]
  split
  · omega
  · split
    · omega
    · split <;> omega

/-- At most 28 digits are kept, or the first number of 29. -/
theorem kept_le : d.kept ≤ 10 ^ precision := by
  have fits : d.coefficient < 10 ^ (precision + d.dropped) := by
    refine lt_pow_numDigits.trans_le (Nat.pow_le_pow_right (by decide) ?_)
    simp only [dropped]
    omega
  have quotient : d.coefficient / 10 ^ d.dropped < 10 ^ precision := by
    rw [Nat.div_lt_iff_lt_mul (by positivity), ← pow_add]
    exact fits
  have near : d.kept ≤ d.coefficient / 10 ^ d.dropped + 1 := div_le_roundHalfEven.2
  omega

/-- A result above the tiny exponent that loses digits keeps at least 28. -/
theorem precision_le_numDigits_kept (pos : d.coefficient ≠ 0)
    (long : d.dropped + precision = numDigits d.coefficient) : precision ≤ numDigits d.kept := by
  have large : 10 ^ (precision - 1 + d.dropped) ≤ d.coefficient :=
    pow_le_of_lt_numDigits (by rw [← long, precision]; omega) (Nat.pos_of_ne_zero pos)
  have quotient : 10 ^ (precision - 1) ≤ d.coefficient / 10 ^ d.dropped := by
    rw [Nat.le_div_iff_mul_le (by positivity), ← pow_add]
    exact large
  have few : ¬ numDigits d.kept ≤ precision - 1 := by
    rw [numDigits_le_iff (by decide)]
    exact not_lt.mpr (quotient.trans div_le_roundHalfEven.1)
  omega

theorem numDigits_kept_le : numDigits d.kept ≤ precision + 1 := by
  rw [numDigits_le_iff (by omega)]
  exact kept_le.trans_lt (Nat.pow_lt_pow_right (by decide) (by omega))

/-- What the context makes of a number: none above its range, else the kept digits in their
place. -/
theorem fix_cases (pos : d.coefficient ≠ 0) :
    (d.Overflows ∧ fix d = none) ∨ (¬ d.Overflows ∧ ∃ r, fix d = some r ∧
      r.value = (if d.negative then -1 else 1) * d.kept * 10 ^ (d.exponent + d.dropped)) := by
  have drop : (d.dropped : Int) =
      max (max (numDigits d.coefficient + d.exponent - precision) tinyExponent - d.exponent) 0 := by
    simp only [dropped]
    omega
  have top : topExponent = maxExponent - precision + 1 := rfl
  have bottom : tinyExponent ≤ topExponent := by decide
  have most := d.numDigits_kept_le
  have wide : 1 ≤ precision := by decide
  simp only [Overflows, fix, if_neg pos]
  split
  · rename_i above
    refine .inl ⟨?_, rfl⟩
    by_cases long : d.dropped = 0
    · rw [kept_of_dropped_zero long, long]
      omega
    · have digits := precision_le_numDigits_kept pos (by omega)
      omega
  · rename_i under
    split
    · rename_i loses
      have shift : (max (numDigits d.coefficient + d.exponent - precision) tinyExponent -
          d.exponent).toNat = d.dropped := rfl
      have place : max (numDigits d.coefficient + d.exponent - precision : Int) tinyExponent =
          d.exponent + d.dropped := by omega
      have same : (if numDigits d.coefficient < d.dropped then 0
          else roundHalfEven d.coefficient d.dropped) = d.kept := by
        split
        · rename_i short
          exact (roundHalfEven_small short).symm
        · rfl
      rw [shift, same, place]
      split
      · rename_i longer
        have full : d.kept = 10 ^ precision := by
          refine le_antisymm kept_le ?_
          have big := mt (numDigits_le_iff (n := d.kept) wide).mpr (by omega)
          exact not_lt.mp big
        split
        · exact .inl ⟨by omega, rfl⟩
        · refine .inr ⟨by omega, _, rfl, ?_⟩
          simp only [value, full]
          rw [zpow_add₀ (by norm_num), zpow_one]
          have tenth : (((10 ^ precision / 10 : Nat) : Rat)) * 10 = ((10 ^ precision : Nat) : Rat) := by
            norm_num [precision]
          rw [← tenth]
          ring
      · exact .inr ⟨by omega, _, rfl, rfl⟩
    · rename_i fits
      have none : d.dropped = 0 := by omega
      refine .inr ⟨?_, d, rfl, ?_⟩
      · rw [kept_of_dropped_zero none, none]
        omega
      · rw [kept_of_dropped_zero none, none]
        simp [value]

end Context

end Library.Decimal
