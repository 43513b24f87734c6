import Mathlib.Data.Finset.Card
import Mathlib.Data.Finset.Image
import Mathlib.Order.Lattice

/-!
A line of tickets, served from its least one on. The rank of a ticket is how many
stand before it; it is what a server works off before it comes to the ticket, and
two orders of the same people agree where their ranks do.
-/
namespace Library.Line
variable {α : Type} [LinearOrder α] {s t : Finset α} {x y m : α}

def rank (s : Finset α) (x : α) : Nat := (s.filter (· < x)).card

theorem rank_least (least : ∀ y ∈ s, m ≤ y) : rank s m = 0 := by
  rw [rank, Finset.card_eq_zero, Finset.filter_eq_empty_iff]
  intro y mem
  exact not_lt.mpr (least y mem)

theorem rank_erase (mem : m ∈ s) (before : m < x) : rank s x = rank (s.erase m) x + 1 := by
  have here : m ∈ s.filter (· < x) := Finset.mem_filter.mpr ⟨mem, before⟩
  rw [rank, rank, Finset.filter_erase, Finset.card_erase_of_mem here]
  have positive : 0 < (s.filter (· < x)).card := Finset.card_pos.mpr ⟨m, here⟩
  omega

theorem rank_lt (mem : x ∈ s) (lt : x < y) : rank s x < rank s y := by
  refine Finset.card_lt_card (Finset.ssubset_iff_of_subset ?_ |>.mpr ⟨x, ?_, ?_⟩)
  · intro z hz
    rw [Finset.mem_filter] at hz ⊢
    exact ⟨hz.1, hz.2.trans lt⟩
  · exact Finset.mem_filter.mpr ⟨mem, lt⟩
  · simp

theorem le_of_rank_le (mem : y ∈ s) (le : rank s x ≤ rank s y) : x ≤ y := by
  by_contra later
  rw [not_le] at later
  exact absurd (rank_lt mem later) (not_lt.mpr le)

/-- The tickets served one after the other, the least one each time. -/
inductive Served : Finset α → List α → Finset α → Prop where
  | stop (s : Finset α) : Served s [] s
  | next {s t : Finset α} {m : α} {xs : List α} (mem : m ∈ s) (least : ∀ y ∈ s, m ≤ y)
      (rest : Served (s.erase m) xs t) : Served s (m :: xs) t

theorem Served.mem {xs : List α} (served : Served s xs t) : ∀ x ∈ xs, x ∈ s := by
  induction served with
  | stop s => simp
  | next mem least rest ih =>
      intro x hx
      rcases List.mem_cons.mp hx with rfl | hx
      · exact mem
      · exact Finset.mem_of_mem_erase (ih x hx)

/-- As many are served before a ticket as stand before it. -/
theorem Served.before {zs xs ys : List α} (served : Served s zs t) (split : zs = xs ++ x :: ys) :
    xs.length = rank s x := by
  induction served generalizing xs with
  | stop s => simp at split
  | next mem least rest ih =>
      cases xs with
      | nil =>
          cases split
          rw [rank_least least]
          rfl
      | cons z xs =>
          cases split
          obtain ⟨other, member⟩ := Finset.mem_erase.mp (rest.mem x (by simp))
          rw [List.length_cons, ih rfl, rank_erase mem (lt_of_le_of_ne (least x member) other.symm)]

section Agreement
variable {ι β : Type} [DecidableEq ι] [LinearOrder β] {w : Finset ι} {c : ι → β} {k : ι → α}

omit [DecidableEq ι] in
theorem rank_image (injective : Set.InjOn k w) (o : ι) :
    rank (w.image k) (k o) = (w.filter fun q => k q < k o).card := by
  rw [rank, Finset.filter_image, Finset.card_image_of_injOn]
  exact injective.mono (Finset.coe_subset.mpr (Finset.filter_subset _ _))

/-- Counting those no later by one order gives the rank by another exactly where the two orders
agree. -/
theorem counts_iff (injective : Set.InjOn k w) :
    (∀ o ∈ w, (w.filter fun q => c q ≤ c o).card = rank (w.image k) (k o) + 1) ↔
      ∀ q ∈ w, ∀ o ∈ w, c q ≤ c o ↔ k q ≤ k o := by
  constructor
  · intro counts q hq o ho
    constructor
    · intro le
      have fewer : (w.filter fun p => c p ≤ c q).card ≤ (w.filter fun p => c p ≤ c o).card := by
        refine Finset.card_le_card fun p hp => ?_
        rw [Finset.mem_filter] at hp ⊢
        exact ⟨hp.1, hp.2.trans le⟩
      rw [counts q hq, counts o ho] at fewer
      exact le_of_rank_le (Finset.mem_image_of_mem k ho) (Nat.le_of_succ_le_succ fewer)
    · intro le
      by_contra later
      rw [not_le] at later
      have fewer : (w.filter fun p => c p ≤ c o).card < (w.filter fun p => c p ≤ c q).card := by
        refine Finset.card_lt_card (Finset.ssubset_iff_of_subset ?_ |>.mpr ⟨q, ?_, ?_⟩)
        · intro p hp
          rw [Finset.mem_filter] at hp ⊢
          exact ⟨hp.1, hp.2.trans later.le⟩
        · exact Finset.mem_filter.mpr ⟨hq, le_rfl⟩
        · simp [later]
      rw [counts q hq, counts o ho] at fewer
      have back : k o ≤ k q := le_of_rank_le (Finset.mem_image_of_mem k hq) (by omega)
      have same : q = o := injective hq ho (le_antisymm le back)
      exact absurd later (by simp [same])
  · intro agree o ho
    have upTo : (w.filter fun q => c q ≤ c o) = insert o (w.filter fun q => k q < k o) := by
      ext q
      rw [Finset.mem_insert, Finset.mem_filter, Finset.mem_filter]
      constructor
      · rintro ⟨hq, le⟩
        rcases ((agree q hq o ho).mp le).lt_or_eq with lt | same
        · exact .inr ⟨hq, lt⟩
        · exact .inl (injective hq ho same)
      · rintro (rfl | ⟨hq, lt⟩)
        · exact ⟨ho, le_rfl⟩
        · exact ⟨hq, (agree q hq o ho).mpr lt.le⟩
    rw [upTo, rank_image injective, Finset.card_insert_of_notMem]
    simp

end Agreement

end Library.Line
