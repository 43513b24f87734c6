import Mathlib

/-!
Sorted sets: members with a score each, read in the order of their scores and,
where two are alike, of the members.
-/
namespace Library

abbrev SortedSet (κ ν : Type) := AList fun _ : κ => ν

namespace SortedSet
variable {κ ν : Type} [LinearOrder κ] {z : SortedSet κ ν} {k j : κ} {n m : ν}

/-- Scores the member where it is not one yet. -/
def addNew (z : SortedSet κ ν) (n : ν) (k : κ) : SortedSet κ ν :=
  if k ∈ z then z else z.insert k n

@[simp] theorem mem_addNew : j ∈ z.addNew n k ↔ j = k ∨ j ∈ z := by
  rw [addNew]
  split
  · constructor
    · exact Or.inr
    · intro either
      cases either with
      | inl same => exact same ▸ ‹k ∈ z›
      | inr there => exact there
  · exact AList.mem_insert z

/-- Scoring members makes them ones, and leaves the others. -/
theorem mem_foldl_insert {scores : List (κ × ν)} :
    j ∈ scores.foldl (fun z s => z.insert s.1 s.2) z ↔ j ∈ scores.map Prod.fst ∨ j ∈ z := by
  induction scores generalizing z with
  | nil => simp
  | cons s scores ih => simp only [List.foldl_cons, ih, AList.mem_insert, List.map_cons,
      List.mem_cons, or_left_comm, or_assoc]

variable [LinearOrder ν]

def range (z : SortedSet κ ν) : List κ :=
  (z.entries.mergeSort fun a b => a.2 < b.2 ∨ a.2 = b.2 ∧ a.1 ≤ b.1).map Sigma.fst

/-- The members scored at most `n`. -/
def upTo (z : SortedSet κ ν) (n : ν) : List κ :=
  z.range.filter fun k => (z.lookup k).any (· ≤ n)

@[simp] theorem mem_range : k ∈ z.range ↔ k ∈ z := by
  rw [AList.mem_keys, range, AList.keys, List.keys, List.mem_map, List.mem_map]
  simp only [List.mem_mergeSort]

theorem mem_upTo : k ∈ z.upTo n ↔ ∃ m, z.lookup k = some m ∧ m ≤ n := by
  rw [upTo, List.mem_filter, mem_range, ← AList.lookup_isSome]
  cases z.lookup k <;> simp

end SortedSet
end Library
