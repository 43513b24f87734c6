import Mathlib

/-!
Numbers as lists of a fixed number of digits, the highest one first.
-/
namespace Library.Positional

variable {b k n : Nat}

/-- The last `k` digits of a number in base `b`. -/
def fixed (b : Nat) : Nat → Nat → List Nat
  | 0, _ => []
  | k + 1, n => fixed b k (n / b) ++ [n % b]

def ofDigits (b : Nat) (ds : List Nat) : Nat := ds.foldl (fun n d => b * n + d) 0

@[simp] theorem length_fixed : (fixed b k n).length = k := by
  induction k generalizing n with
  | zero => rfl
  | succ k ih => rw [fixed, List.length_append, ih, List.length_singleton]

theorem fixed_lt (pos : 0 < b) : ∀ d ∈ fixed b k n, d < b := by
  induction k generalizing n with
  | zero => exact fun d mem => absurd mem List.not_mem_nil
  | succ k ih =>
      intro d mem
      rw [fixed, List.mem_append, List.mem_singleton] at mem
      cases mem with
      | inl before => exact ih d before
      | inr last => exact last ▸ Nat.mod_lt n pos

theorem ofDigits_fixed : ofDigits b (fixed b k n) = n % b ^ k := by
  induction k generalizing n with
  | zero => rw [Nat.pow_zero, Nat.mod_one]; rfl
  | succ k ih =>
      rw [fixed, ofDigits, List.foldl_append, ← ofDigits, ih, List.foldl_cons, List.foldl_nil,
        Nat.pow_succ', Nat.mod_mul, Nat.add_comm]

theorem ofDigits_fixed_of_lt (small : n < b ^ k) : ofDigits b (fixed b k n) = n := by
  rw [ofDigits_fixed, Nat.mod_eq_of_lt small]

end Library.Positional
