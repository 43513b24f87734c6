import CoffeeCloud.Library.Significand
import Mathlib.Tactic.GCongr

/-!
A part of a total, computed by way of the average: the average is kept to `p` digits,
so is its product with the part, and the result is rounded half up. The error of the
product is tiny, a proper part is never more than the total, and whether the rounding
agrees with that of the exact part is a matter of one comparison.
-/
namespace Library

/-- The nearest whole number, and the larger of two that are equally near. -/
def halfUp (x : Rat) : Int := ⌊x + 1 / 2⌋

/-- A part of a total by way of the average of the whole, each step to `p` digits. -/
def portion (p : Nat) (total whole part : Rat) : Rat := keep p (part * keep p (total / whole))

namespace Average
open Significand
variable {p : Nat} {x y total whole part : Rat} {n : Int}

section HalfUp

theorem halfUp_le (le : x ≤ n) : halfUp x ≤ n := by
  have below : x + 1 / 2 < ((n + 1 : Int) : Rat) := by
    push_cast
    linarith
  have floor : halfUp x < n + 1 := Int.floor_lt.mpr below
  omega

theorem le_halfUp (le : (n : Rat) ≤ x) : n ≤ halfUp x := by
  refine Int.le_floor.mpr ?_
  linarith

theorem abs_halfUp_sub_le (x : Rat) : |(halfUp x : Rat) - x| ≤ 1 / 2 := by
  have low := Int.floor_le (x + 1 / 2)
  have high := Int.lt_floor_add_one (x + 1 / 2)
  rw [abs_le]
  constructor <;> rw [halfUp] <;> linarith

/-- Near a number, rounding takes its floor or the next one, by the half between them. -/
theorem halfUp_near (near : |y - x| < 1 / 2) :
    halfUp y = if (⌊x⌋ : Rat) + 1 / 2 ≤ y then ⌊x⌋ + 1 else ⌊x⌋ := by
  have low := Int.floor_le x
  have high := Int.lt_floor_add_one x
  have bounds := abs_lt.mp near
  split
  · rename_i reached
    refine Int.floor_eq_iff.mpr ?_
    push_cast
    constructor <;> linarith
  · rename_i short
    refine Int.floor_eq_iff.mpr ?_
    constructor <;> linarith [not_le.mp short]

end HalfUp

section Portion

theorem portion_nonneg (total_nonneg : 0 ≤ total) (whole_pos : 0 < whole) (part_nonneg : 0 ≤ part) :
    0 ≤ portion p total whole part :=
  keep_nonneg (mul_nonneg part_nonneg (keep_nonneg (div_nonneg total_nonneg whole_pos.le)))

/-- The average that is kept, times the part, beside the exact part. -/
theorem abs_mul_keep_sub_le (total_nonneg : 0 ≤ total) (whole_pos : 0 < whole)
    (part_nonneg : 0 ≤ part) :
    |part * keep p (total / whole) - part * total / whole|
      ≤ part * total / whole * 10 ^ (1 - p : Int) / 2 := by
  have error := abs_keep_sub_le (p := p) (div_nonneg total_nonneg whole_pos.le)
  have split : part * keep p (total / whole) - part * total / whole =
      part * (keep p (total / whole) - total / whole) := by ring
  rw [split, abs_mul, abs_of_nonneg part_nonneg]
  calc part * |keep p (total / whole) - total / whole|
      ≤ part * (total / whole * 10 ^ (1 - p : Int) / 2) :=
        mul_le_mul_of_nonneg_left error part_nonneg
    _ = part * total / whole * 10 ^ (1 - p : Int) / 2 := by ring

theorem unit_le_one (digits : 0 < p) : (10 : Rat) ^ (1 - p : Int) ≤ 1 :=
  zpow_le_one_of_nonpos₀ (by norm_num) (by omega)

/-- Both roundings together move the exact part by less than two units of its last place. -/
theorem abs_portion_sub_le (digits : 0 < p) (total_nonneg : 0 ≤ total) (whole_pos : 0 < whole)
    (part_nonneg : 0 ≤ part) :
    |portion p total whole part - part * total / whole|
      ≤ 2 * (part * total / whole) * 10 ^ (1 - p : Int) := by
  have exact_nonneg : 0 ≤ part * total / whole :=
    div_nonneg (mul_nonneg part_nonneg total_nonneg) whole_pos.le
  have unit_pos : (0 : Rat) < 10 ^ (1 - p : Int) := zpow_pos (by norm_num) _
  have unit_small := unit_le_one digits
  have first := abs_mul_keep_sub_le (p := p) total_nonneg whole_pos part_nonneg
  have product_nonneg : 0 ≤ part * keep p (total / whole) :=
    mul_nonneg part_nonneg (keep_nonneg (div_nonneg total_nonneg whole_pos.le))
  have second := abs_keep_sub_le (p := p) product_nonneg
  have product_le : part * keep p (total / whole) ≤ 2 * (part * total / whole) := by
    have half : part * total / whole * 10 ^ (1 - p : Int) ≤ part * total / whole :=
      mul_le_of_le_one_right exact_nonneg unit_small
    have upper := (abs_le.mp first).2
    linarith
  have scaled : part * keep p (total / whole) * 10 ^ (1 - p : Int)
      ≤ 2 * (part * total / whole) * 10 ^ (1 - p : Int) :=
    mul_le_mul_of_nonneg_right product_le unit_pos.le
  have sum := abs_sub_le (portion p total whole part) (part * keep p (total / whole))
    (part * total / whole)
  have error : |portion p total whole part - part * keep p (total / whole)|
      ≤ part * keep p (total / whole) * 10 ^ (1 - p : Int) / 2 := second
  have less : 0 ≤ part * total / whole * 10 ^ (1 - p : Int) :=
    mul_nonneg exact_nonneg unit_pos.le
  linarith

/-- A part that leaves more than the last place of the whole is never more than the total. -/
theorem portion_le (digits : 0 < p) (total_nonneg : 0 ≤ total) (whole_pos : 0 < whole)
    (part_nonneg : 0 ≤ part) (left : part + 2 * part * 10 ^ (1 - p : Int) ≤ whole) :
    portion p total whole part ≤ total := by
  have error := (abs_le.mp
    (abs_portion_sub_le digits total_nonneg whole_pos part_nonneg)).2
  have share : (part + 2 * part * 10 ^ (1 - p : Int)) * total / whole ≤ total := by
    rw [div_le_iff₀ whole_pos, mul_comm total]
    exact mul_le_mul_of_nonneg_right left total_nonneg
  have split : (part + 2 * part * 10 ^ (1 - p : Int)) * total / whole =
      part * total / whole + 2 * (part * total / whole) * 10 ^ (1 - p : Int) := by ring
  linarith

end Portion

section Halves

/-- A half is an even number of last places, where there are two digits to spare. -/
theorem half_even {m k : Nat} (size : (m : Rat) + 1 / 2 < 10 ^ k) (spare : k + 2 ≤ p) :
    ∃ n : Int, (m : Rat) + 1 / 2 = n * lastPlace p (m + 1 / 2) ∧ n % 2 = 0 := by
  have pos : (0 : Rat) < m + 1 / 2 := by positivity
  have log : Int.log 10 ((m : Rat) + 1 / 2) < k := by
    refine (Int.lt_zpow_iff_log_lt (by norm_num) pos).mp ?_
    exact_mod_cast size
  obtain ⟨d, places⟩ :
      ∃ d : Nat, (Int.log 10 ((m : Rat) + 1 / 2) + 1 - p : Int) = -((d + 2 : Nat) : Int) :=
    ⟨((p : Int) - 2 - (Int.log 10 ((m : Rat) + 1 / 2) + 1)).toNat, by omega⟩
  refine ⟨(2 * m + 1) * 5 * 10 ^ (d + 1), ?_, ?_⟩
  · rw [lastPlace, abs_of_pos pos, places, zpow_neg, zpow_natCast]
    have power : (10 : Rat) ^ (d + 2) ≠ 0 := by positivity
    field_simp
    push_cast
    ring
  · exact Int.emod_eq_zero_of_dvd ⟨(2 * m + 1) * 25 * 10 ^ d, by ring⟩

/-- No half is a power of ten. -/
theorem half_not_pow (m : Nat) (k : Int) : (10 : Rat) ^ k ≠ m + 1 / 2 := by
  intro eq
  rcases le_or_gt 0 k with nonneg | neg
  · lift k to Nat using nonneg
    rw [zpow_natCast] at eq
    have doubled : (2 : Rat) * 10 ^ k = 2 * m + 1 := by
      rw [eq]
      ring
    have doubled : 2 * 10 ^ k = 2 * m + 1 := by exact_mod_cast doubled
    omega
  · have small : (10 : Rat) ^ k ≤ 10 ^ (-1 : Int) := zpow_le_zpow_right₀ (by norm_num) (by omega)
    have tenth : (10 : Rat) ^ (-1 : Int) = 1 / 10 := by norm_num
    have nonneg : (0 : Rat) ≤ m := Nat.cast_nonneg m
    rw [eq, tenth] at small
    linarith

/-- When the rounding by way of the average is that of the exact part: the half that decides is
on the same side of both, where the product may fall short of it by half a last place. -/
theorem halfUp_portion_iff {k : Nat} (digits : k + 2 ≤ p) (total_nonneg : 0 ≤ total)
    (whole_pos : 0 < whole) (part_nonneg : 0 ≤ part)
    (size : part * total / whole + 1 < 10 ^ k)
    (near : 2 * (part * total / whole) * 10 ^ (1 - p : Int) < 1 / 2) :
    halfUp (portion p total whole part) = halfUp (part * total / whole) ↔
      ((⌊part * total / whole⌋ : Rat) + 1 / 2 ≤ part * total / whole ↔
        (⌊part * total / whole⌋ : Rat) + 1 / 2
            - lastPlace p (⌊part * total / whole⌋ + 1 / 2) / 2 ≤
          part * keep p (total / whole)) := by
  have positive : 0 < p := by omega
  have exact_nonneg : 0 ≤ part * total / whole :=
    div_nonneg (mul_nonneg part_nonneg total_nonneg) whole_pos.le
  have close := lt_of_le_of_lt (abs_portion_sub_le positive total_nonneg whole_pos part_nonneg) near
  obtain ⟨m, floor⟩ : ∃ m : Nat, ⌊part * total / whole⌋ = m :=
    ⟨_, (Int.toNat_of_nonneg (Int.floor_nonneg.mpr exact_nonneg)).symm⟩
  have below : (m : Rat) ≤ part * total / whole := by
    have le := Int.floor_le (part * total / whole)
    rw [floor] at le
    exact_mod_cast le
  obtain ⟨n, places, even⟩ := half_even (p := p) (m := m) (k := k) (by linarith) digits
  have kept : (m : Rat) + 1 / 2 ≤ portion p total whole part ↔
      (m : Rat) + 1 / 2 - lastPlace p (m + 1 / 2) / 2 ≤ part * keep p (total / whole) :=
    le_keep_iff positive (by positivity) _ (half_not_pow m _) places even
  rw [halfUp_near close, halfUp_near (x := part * total / whole) (y := part * total / whole)
    (by simp), floor]
  push_cast
  rw [← kept]
  by_cases reached : (m : Rat) + 1 / 2 ≤ portion p total whole part <;>
    by_cases due : (m : Rat) + 1 / 2 ≤ part * total / whole <;>
    simp only [reached, due, ↓reduceIte] <;> simp

end Halves

end Average
end Library
