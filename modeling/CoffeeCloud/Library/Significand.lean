import Mathlib.Algebra.Order.Floor.Semifield
import Mathlib.Algebra.Order.Round
import Mathlib.Data.Int.Log
import Mathlib.Data.Rat.Floor
import Mathlib.Tactic.FieldSimp
import Mathlib.Tactic.Linarith
import Mathlib.Tactic.Positivity
import Mathlib.Tactic.Ring

/-!
Numbers kept to so many significant decimal digits. What is dropped is rounded half
to even; the error is at most half a unit in the last place, and a number of the
grid is reached from half a place below it.
-/
namespace Library

/-- The nearest whole number, and the even one of two that are equally near. -/
def nearestEven (x : Rat) : Int :=
  if x - ⌊x⌋ < 1 / 2 then ⌊x⌋
  else if 1 / 2 < x - ⌊x⌋ then ⌊x⌋ + 1
  else if ⌊x⌋ % 2 = 0 then ⌊x⌋ else ⌊x⌋ + 1

/-- The unit in the last of `p` significant digits. -/
def lastPlace (p : Nat) (x : Rat) : Rat := 10 ^ (Int.log 10 |x| + 1 - p)

/-- A number with its first `p` significant digits. -/
def keep (p : Nat) (x : Rat) : Rat := nearestEven (x / lastPlace p x) * lastPlace p x

namespace Significand
variable {p : Nat} {x z h : Rat} {n k : Int}

section Nearest

theorem nearestEven_cases (x : Rat) :
    (nearestEven x = ⌊x⌋ ∧ x - ⌊x⌋ ≤ 1 / 2) ∨ (nearestEven x = ⌊x⌋ + 1 ∧ 1 / 2 ≤ x - ⌊x⌋) := by
  unfold nearestEven
  split
  · rename_i below
    exact .inl ⟨rfl, below.le⟩
  · rename_i high
    have high : 1 / 2 ≤ x - ⌊x⌋ := not_lt.mp high
    split
    · exact .inr ⟨rfl, high⟩
    · rename_i low
      split
      · exact .inl ⟨rfl, not_lt.mp low⟩
      · exact .inr ⟨rfl, high⟩

theorem abs_nearestEven_sub (x : Rat) : |(nearestEven x : Rat) - x| ≤ 1 / 2 := by
  have low := Int.floor_le x
  have high := Int.lt_floor_add_one x
  rw [abs_le]
  rcases nearestEven_cases x with ⟨rounded, near⟩ | ⟨rounded, near⟩
  · rw [rounded]
    constructor <;> linarith
  · rw [rounded]
    push_cast
    constructor <;> linarith

theorem le_nearestEven_of_le (le : (n : Rat) ≤ x) : n ≤ nearestEven x := by
  have floor : n ≤ ⌊x⌋ := Int.le_floor.mpr le
  rcases nearestEven_cases x with ⟨rounded, -⟩ | ⟨rounded, -⟩ <;> omega

theorem nearestEven_le_of_le (le : x ≤ n) : nearestEven x ≤ n := by
  rcases nearestEven_cases x with ⟨rounded, -⟩ | ⟨rounded, near⟩
  · rw [rounded]
    exact_mod_cast (Int.floor_le x).trans le
  · have floor : ((⌊x⌋ : Int) : Rat) < n := by linarith
    have floor : ⌊x⌋ < n := by exact_mod_cast floor
    omega

/-- An even number is reached from half below it. -/
theorem even_le_nearestEven_iff (even : n % 2 = 0) :
    n ≤ nearestEven x ↔ (n : Rat) - 1 / 2 ≤ x := by
  have near := abs_le.mp (abs_nearestEven_sub x)
  constructor
  · intro reached
    have reached : (n : Rat) ≤ nearestEven x := by exact_mod_cast reached
    linarith
  · intro above
    by_contra short
    have short : nearestEven x ≤ n - 1 := by omega
    have short' : ((nearestEven x : Int) : Rat) ≤ n - 1 := by exact_mod_cast short
    -- The number is half way between an odd number and the even one above it.
    have half : x = (n : Rat) - 1 / 2 := by linarith
    have floor : ⌊x⌋ = n - 1 := by
      rw [Int.floor_eq_iff, half]
      push_cast
      constructor <;> linarith
    have fraction : x - ((n - 1 : Int) : Rat) = 1 / 2 := by
      rw [half]
      push_cast
      ring
    have odd : ¬ (n - 1) % 2 = 0 := by omega
    simp only [nearestEven, floor, fraction, lt_irrefl, if_false, odd] at short
    omega

end Nearest

section Keep

theorem lastPlace_pos : 0 < lastPlace p x := zpow_pos (by norm_num) _

theorem keep_zero : keep p 0 = 0 := by
  simp [keep, nearestEven]

/-- The error is at most half a unit in the last place. -/
theorem abs_keep_sub (x : Rat) : |keep p x - x| ≤ lastPlace p x / 2 := by
  have place := lastPlace_pos (p := p) (x := x)
  have split : keep p x - x = (nearestEven (x / lastPlace p x) - x / lastPlace p x) * lastPlace p x := by
    rw [keep, sub_mul, div_mul_cancel₀ _ place.ne']
  rw [split, abs_mul, abs_of_pos place]
  calc |(nearestEven (x / lastPlace p x) : Rat) - x / lastPlace p x| * lastPlace p x
      ≤ 1 / 2 * lastPlace p x :=
        mul_le_mul_of_nonneg_right (abs_nearestEven_sub _) place.le
    _ = lastPlace p x / 2 := one_div_mul_eq_div _ _

/-- The last place of a number is small beside it. -/
theorem lastPlace_le (pos : 0 < x) : lastPlace p x ≤ x * 10 ^ (1 - p : Int) := by
  have top : (10 : Rat) ^ Int.log 10 x ≤ x := Int.zpow_log_le_self (by norm_num) pos
  rw [lastPlace, abs_of_pos pos, add_sub_assoc, zpow_add₀ (by norm_num)]
  exact mul_le_mul_of_nonneg_right top (zpow_pos (by norm_num) _).le

theorem abs_keep_sub_le (nonneg : 0 ≤ x) : |keep p x - x| ≤ x * 10 ^ (1 - p : Int) / 2 := by
  rcases nonneg.eq_or_lt with zero | pos
  · simp [← zero, keep_zero]
  · have small := lastPlace_le (p := p) pos
    have error := abs_keep_sub (p := p) x
    linarith

theorem pow_log_eq (digits : 0 < p) (pos : 0 < x) :
    (10 : Rat) ^ Int.log 10 x = ((10 ^ (p - 1) : Int) : Rat) * lastPlace p x := by
  rw [lastPlace, abs_of_pos pos]
  push_cast
  rw [← zpow_natCast, ← zpow_add₀ (by norm_num)]
  congr 1
  omega

/-- A power of ten that a number reaches is reached by what is kept of it. -/
theorem pow_le_keep (digits : 0 < p) (pos : 0 < x) (le : (10 : Rat) ^ k ≤ x) :
    (10 : Rat) ^ k ≤ keep p x := by
  have place := lastPlace_pos (p := p) (x := x)
  have log : k ≤ Int.log 10 x := (Int.zpow_le_iff_le_log (by norm_num) pos).mp le
  have top : (10 : Rat) ^ Int.log 10 x ≤ x := Int.zpow_log_le_self (by norm_num) pos
  have whole := pow_log_eq digits pos
  have reached : ((10 ^ (p - 1) : Int) : Rat) ≤ x / lastPlace p x := by
    rw [le_div_iff₀ place, ← whole]
    exact top
  calc (10 : Rat) ^ k ≤ 10 ^ Int.log 10 x := zpow_le_zpow_right₀ (by norm_num) log
    _ = ((10 ^ (p - 1) : Int) : Rat) * lastPlace p x := whole
    _ ≤ nearestEven (x / lastPlace p x) * lastPlace p x := by
        refine mul_le_mul_of_nonneg_right ?_ place.le
        exact_mod_cast le_nearestEven_of_le reached

/-- What is kept of a number below a power of ten is at most that power. -/
theorem keep_le_pow (pos : 0 < x) (lt : x < (10 : Rat) ^ k) :
    keep p x ≤ (10 : Rat) ^ k := by
  have place := lastPlace_pos (p := p) (x := x)
  have log : Int.log 10 x + 1 ≤ k := (Int.lt_zpow_iff_log_lt (by norm_num) pos).mp lt
  have next : x < (10 : Rat) ^ (Int.log 10 x + 1) := Int.lt_zpow_succ_log_self (by norm_num) x
  have whole : (10 : Rat) ^ (Int.log 10 x + 1) = ((10 ^ p : Int) : Rat) * lastPlace p x := by
    rw [lastPlace, abs_of_pos pos]
    push_cast
    rw [← zpow_natCast, ← zpow_add₀ (by norm_num)]
    congr 1
    omega
  have under : x / lastPlace p x ≤ ((10 ^ p : Int) : Rat) := by
    rw [div_le_iff₀ place, ← whole]
    exact next.le
  calc keep p x ≤ ((10 ^ p : Int) : Rat) * lastPlace p x := by
        refine mul_le_mul_of_nonneg_right ?_ place.le
        exact_mod_cast nearestEven_le_of_le under
    _ = 10 ^ (Int.log 10 x + 1) := whole.symm
    _ ≤ 10 ^ k := zpow_le_zpow_right₀ (by norm_num) log

theorem keep_nonpos (nonpos : z ≤ 0) : keep p z ≤ 0 := by
  have place := lastPlace_pos (p := p) (x := z)
  have under : z / lastPlace p z ≤ ((0 : Int) : Rat) := by
    rw [Int.cast_zero]
    exact div_nonpos_of_nonpos_of_nonneg nonpos place.le
  have rounded : ((nearestEven (z / lastPlace p z) : Int) : Rat) ≤ 0 := by
    exact_mod_cast nearestEven_le_of_le under
  exact mul_nonpos_of_nonpos_of_nonneg rounded place.le

theorem keep_nonneg (nonneg : 0 ≤ z) : 0 ≤ keep p z := by
  have place := lastPlace_pos (p := p) (x := z)
  have above : ((0 : Int) : Rat) ≤ z / lastPlace p z := by
    rw [Int.cast_zero]
    exact div_nonneg nonneg place.le
  have rounded : (0 : Rat) ≤ nearestEven (z / lastPlace p z) := by
    exact_mod_cast le_nearestEven_of_le above
  exact mul_nonneg rounded place.le

/-- Between a power of ten and the next number kept there is a whole place. -/
theorem pow_add_lastPlace_le (digits : 0 < p) (pos : 0 < h) (above : 10 ^ Int.log 10 h ≠ h)
    (whole : h = n * lastPlace p h) : (10 : Rat) ^ Int.log 10 h + lastPlace p h ≤ h := by
  have place := lastPlace_pos (p := p) (x := h)
  have top : (10 : Rat) ^ Int.log 10 h ≤ h := Int.zpow_log_le_self (by norm_num) pos
  have larger : ((10 ^ (p - 1) : Int) : Rat) * lastPlace p h < n * lastPlace p h := by
    rw [← pow_log_eq digits pos, ← whole]
    exact lt_of_le_of_ne top above
  have larger : ((10 ^ (p - 1) : Int) : Rat) < n := lt_of_mul_lt_mul_right larger place.le
  have larger : (10 ^ (p - 1) : Int) + 1 ≤ n := by exact_mod_cast larger
  have larger : (((10 ^ (p - 1) : Int) : Rat) + 1) ≤ n := by exact_mod_cast larger
  calc (10 : Rat) ^ Int.log 10 h + lastPlace p h
      = (((10 ^ (p - 1) : Int) : Rat) + 1) * lastPlace p h := by
        rw [pow_log_eq digits pos]
        ring
    _ ≤ n * lastPlace p h := mul_le_mul_of_nonneg_right larger place.le
    _ = h := whole.symm

/-- A number of even last digit that is no power of ten is reached from half a place below it. -/
theorem le_keep_iff (digits : 0 < p) (pos : 0 < h) (z : Rat) (above : 10 ^ Int.log 10 h ≠ h)
    (whole : h = n * lastPlace p h) (even : n % 2 = 0) :
    h ≤ keep p z ↔ h - lastPlace p h / 2 ≤ z := by
  have place := lastPlace_pos (p := p) (x := h)
  have top : (10 : Rat) ^ Int.log 10 h ≤ h := Int.zpow_log_le_self (by norm_num) pos
  have next : h < (10 : Rat) ^ (Int.log 10 h + 1) := Int.lt_zpow_succ_log_self (by norm_num) h
  have first : (10 : Rat) ^ Int.log 10 h + lastPlace p h ≤ h := pow_add_lastPlace_le digits pos above whole
  have size : (0 : Rat) < 10 ^ Int.log 10 h := zpow_pos (by norm_num) _
  rcases le_or_gt z 0 with nonpos | zpos
  · have kept := keep_nonpos (p := p) nonpos
    constructor <;> intro reached <;> linarith
  · rcases lt_trichotomy (Int.log 10 z) (Int.log 10 h) with lower | same | higher
    · have small : z < (10 : Rat) ^ Int.log 10 h := (Int.lt_zpow_iff_log_lt (by norm_num) zpos).mpr lower
      have kept := keep_le_pow (p := p) zpos small
      constructor <;> intro reached <;> linarith
    · have places : lastPlace p z = lastPlace p h := by
        rw [lastPlace, lastPlace, abs_of_pos zpos, abs_of_pos pos, same]
      have scaled : (n : Rat) - 1 / 2 ≤ z / lastPlace p h ↔ h - lastPlace p h / 2 ≤ z := by
        rw [le_div_iff₀ place, sub_mul, ← whole, one_div_mul_eq_div]
      rw [keep, places, ← scaled, ← even_le_nearestEven_iff even]
      calc h ≤ nearestEven (z / lastPlace p h) * lastPlace p h
          ↔ n * lastPlace p h ≤ nearestEven (z / lastPlace p h) * lastPlace p h := by rw [← whole]
        _ ↔ (n : Rat) ≤ nearestEven (z / lastPlace p h) := mul_le_mul_iff_left₀ place
        _ ↔ n ≤ nearestEven (z / lastPlace p h) := Int.cast_le
    · have large : (10 : Rat) ^ (Int.log 10 h + 1) ≤ z :=
        (Int.zpow_le_iff_le_log (by norm_num) zpos).mpr higher
      have kept := pow_le_keep digits zpos large
      constructor <;> intro <;> linarith

end Keep
end Significand
end Library
