import Mathlib.Algebra.BigOperators.Group.List.Basic
import Mathlib.Tactic.Linarith
import Mathlib.Tactic.Ring

/-!
A whole amount split in equal shares: each gets the quotient, and as many of the
first as the remainder one more. They add up to the amount, and no two differ by
more than one.
-/
namespace Library

/-- The share of one of `count`, counted from zero. -/
def share (amount : Int) (count i : Nat) : Int :=
  amount / count + if (i : Int) < amount % count then 1 else 0

namespace Shares
variable {amount : Int} {count : Nat}

/-- The first shares take from the remainder what there is. -/
theorem sum_share_upTo (nonneg : 0 ≤ amount % count) (n : Nat) :
    ((List.range n).map (share amount count)).sum =
      n * (amount / count) + min (n : Int) (amount % count) := by
  induction n with
  | zero => simp [nonneg]
  | succ n ih =>
      rw [List.range_succ, List.map_append, List.sum_append, ih, List.map_singleton,
        List.sum_singleton, share]
      have next : min ((n + 1 : Nat) : Int) (amount % count) =
          min (n : Int) (amount % count) + if (n : Int) < amount % count then 1 else 0 := by
        split <;> omega
      rw [next, Nat.cast_succ]
      ring

theorem sum_share (pos : 0 < count) :
    ((List.range count).map (share amount count)).sum = amount := by
  have divisor : (0 : Int) < count := Int.natCast_pos.mpr pos
  have small := Int.emod_lt_of_pos amount divisor
  rw [sum_share_upTo (Int.emod_nonneg _ divisor.ne'), min_eq_right small.le]
  exact Int.mul_ediv_add_emod amount count

theorem share_le (i j : Nat) : share amount count i ≤ share amount count j + 1 := by
  simp only [share]
  split <;> split <;> omega

end Shares
end Library
