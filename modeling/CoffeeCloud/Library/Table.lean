import Mathlib
import CoffeeCloud.Library.PartialMap

/-!
Tables of rows with a primary key, as a relational store keeps them.
The rows stand in insertion order and no two of them share a key; that fact is
a field of the table, so no operation can build a table without it. Updates are
read back through `find?`, deletions and insertions through the rows, and aggregates
through `sumWhere`.
-/
namespace Library

/-- The primary key of a row. -/
class Keyed (ρ : Type) (κ : outParam Type) where
  key : ρ → κ

structure Table (ρ : Type) {κ : Type} [Keyed ρ κ] where
  rows : List ρ
  distinct : (rows.map Keyed.key).Nodup

namespace Table
variable {ρ κ : Type} [Keyed ρ κ]

def empty : Table ρ := ⟨[], List.nodup_nil⟩

/-- `update t set ... where p`. -/
def modifyWhere (t : Table ρ) (p : ρ → Bool) (f : ρ → ρ)
    (hf : ∀ r, Keyed.key (f r) = Keyed.key r := by intro; rfl) : Table ρ :=
  ⟨t.rows.map fun r => if p r then f r else r, by
    have keys : (t.rows.map fun r => if p r then f r else r).map Keyed.key =
        t.rows.map Keyed.key := by
      rw [List.map_map]
      apply List.map_congr_left
      intro r _
      simp only [Function.comp_apply]
      split
      · exact hf r
      · rfl
    rw [keys]
    exact t.distinct⟩

/-- `delete from t where p`. -/
def deleteWhere (t : Table ρ) (p : ρ → Bool) : Table ρ :=
  ⟨t.rows.filter fun r => !p r, (t.distinct.sublist (List.filter_sublist.map _))⟩

/-- `select * from t where p`, at most one row, on columns that identify one. -/
def first? (t : Table ρ) (p : ρ → Bool) : Option ρ := t.rows.find? p

/-- `select * from t where p order by le`. -/
def select (t : Table ρ) (p : ρ → Bool) (le : ρ → ρ → Bool) : List ρ :=
  (t.rows.filter p).insertionSort fun a b => le a b

/-- `select sum(amount) from t where p`. -/
def sumWhere (t : Table ρ) (p : ρ → Bool) (amount : ρ → Int) : Int :=
  ((t.rows.filter p).map amount).sum

@[simp] theorem rows_empty : (empty : Table ρ).rows = [] := rfl

@[simp] theorem sumWhere_empty (p : ρ → Bool) (amount : ρ → Int) :
    (empty : Table ρ).sumWhere p amount = 0 := rfl

theorem first?_some {t : Table ρ} {p : ρ → Bool} {r : ρ} (h : t.first? p = some r) :
    r ∈ t.rows ∧ p r :=
  ⟨List.mem_of_find?_eq_some h, List.find?_some h⟩

theorem first?_none {t : Table ρ} {p : ρ → Bool} :
    t.first? p = none ↔ ∀ r ∈ t.rows, p r = false := by
  simp [first?]

/-- An update of columns that a query does not read leaves the query's choice as it is. -/
theorem first?_modifyWhere (t : Table ρ) {p q : ρ → Bool} {f : ρ → ρ}
    (hf : ∀ r, Keyed.key (f r) = Keyed.key r) (h : ∀ r, q (f r) = q r) :
    (t.modifyWhere p f hf).first? q = (t.first? q).map fun r => if p r then f r else r := by
  obtain ⟨rows, distinct⟩ := t
  simp only [first?, modifyWhere]
  clear distinct
  induction rows with
  | nil => rfl
  | cons x xs ih =>
      have same : q (if p x then f x else x) = q x := by
        split
        · exact h x
        · rfl
      rw [List.map_cons, List.find?_cons, List.find?_cons, ih, same]
      cases q x <;> rfl

theorem mem_select {t : Table ρ} {p : ρ → Bool} {le : ρ → ρ → Bool} {r : ρ} :
    r ∈ t.select p le ↔ r ∈ t.rows ∧ p r := by
  simp [select, List.mem_insertionSort]

/-- A query by ascending key gives strictly ascending keys. -/
theorem select_ascending [LinearOrder κ] (t : Table ρ) (p : ρ → Bool) :
    (t.select p fun a b => Keyed.key a ≤ Keyed.key b).Pairwise
      fun a b => Keyed.key a < Keyed.key b := by
  have total : Std.Total fun a b : ρ => decide (Keyed.key a ≤ Keyed.key b) = true :=
    ⟨fun a b => by simpa using le_total (Keyed.key a) (Keyed.key b)⟩
  have trans : IsTrans ρ fun a b => decide (Keyed.key a ≤ Keyed.key b) = true := by
    refine ⟨fun a b c hab hbc => ?_⟩
    rw [decide_eq_true_eq] at hab hbc ⊢
    exact hab.trans hbc
  have sorted := List.pairwise_insertionSort
    (fun a b : ρ => decide (Keyed.key a ≤ Keyed.key b) = true) (t.rows.filter p)
  have distinct : ((t.rows.filter p).insertionSort
      fun a b => decide (Keyed.key a ≤ Keyed.key b) = true).Pairwise
        fun a b => Keyed.key a ≠ Keyed.key b := by
    have perm := List.perm_insertionSort
      (fun a b : ρ => decide (Keyed.key a ≤ Keyed.key b) = true) (t.rows.filter p)
    have rows : (t.rows.filter p).Pairwise fun a b => Keyed.key a ≠ Keyed.key b :=
      (List.pairwise_map.mp t.distinct).sublist List.filter_sublist
    exact (perm.pairwise_iff fun h => h.symm).mpr rows
  refine (sorted.and distinct).imp ?_
  rintro a b ⟨le, ne⟩
  exact lt_of_le_of_ne (by simpa using le) ne

/-- Where a query in ascending order is cut off, a row it leaves out comes after those it has. -/
theorem mem_take_or_after {xs : List ρ} {lt : ρ → ρ → Prop} (ascending : xs.Pairwise lt) {x : ρ}
    (mem : x ∈ xs) (n : Nat) : x ∈ xs.take n ∨ ∀ y ∈ xs.take n, lt y x := by
  rw [← List.take_append_drop n xs, List.mem_append] at mem
  rcases mem with mem | mem
  · exact .inl mem
  · rw [← List.take_append_drop n xs, List.pairwise_append] at ascending
    exact .inr fun y hy => ascending.2.2 y hy x mem

theorem head?_select_some {t : Table ρ} {p : ρ → Bool} {le : ρ → ρ → Bool} {r : ρ}
    (h : (t.select p le).head? = some r) : r ∈ t.rows ∧ p r :=
  mem_select.mp (List.mem_of_head? h)

theorem head?_select_none {t : Table ρ} {p : ρ → Bool} {le : ρ → ρ → Bool}
    (h : (t.select p le).head? = none) : ∀ r ∈ t.rows, p r = false := by
  intro r hr
  by_contra hp
  have : r ∈ t.select p le := mem_select.mpr ⟨hr, by simpa using hp⟩
  rw [List.head?_eq_none_iff] at h
  simp [h] at this

theorem sumWhere_eq_zero (t : Table ρ) (p : ρ → Bool) (amount : ρ → Int)
    (h : ∀ r ∈ t.rows, p r = false) : t.sumWhere p amount = 0 := by
  have : t.rows.filter p = [] := List.filter_eq_nil_iff.mpr fun r hr => by simp [h r hr]
  simp [sumWhere, this]

theorem sumWhere_congr {t : Table ρ} {p q : ρ → Bool} (amount : ρ → Int)
    (h : ∀ r ∈ t.rows, p r = q r) : t.sumWhere p amount = t.sumWhere q amount := by
  rw [sumWhere, sumWhere, List.filter_congr h]

/-- One selected row with a nonnegative rest is at most the whole. -/
theorem le_sumWhere {t : Table ρ} {r : ρ} {p : ρ → Bool} {amount : ρ → Int}
    (hr : r ∈ t.rows) (hp : p r) (h : ∀ x ∈ t.rows, p x → 0 ≤ amount x) :
    amount r ≤ t.sumWhere p amount := by
  apply List.single_le_sum
  · intro x hx
    obtain ⟨y, hy, rfl⟩ := List.mem_map.mp hx
    exact h y (List.mem_filter.mp hy).1 (List.mem_filter.mp hy).2
  · exact List.mem_map_of_mem (List.mem_filter.mpr ⟨hr, hp⟩)

/-- An aggregate splits along any further condition. -/
theorem sumWhere_split (t : Table ρ) (p q : ρ → Bool) (amount : ρ → Int) :
    t.sumWhere p amount =
      t.sumWhere (fun r => p r && q r) amount + t.sumWhere (fun r => p r && !q r) amount := by
  obtain ⟨rows, distinct⟩ := t
  simp only [sumWhere]
  clear distinct
  induction rows with
  | nil => simp
  | cons x xs ih => by_cases hp : p x <;> by_cases hq : q x <;> simp [hp, hq] <;> omega

section Lookup
variable [DecidableEq κ]

/-- `select * from t where key = k`. -/
def find? (t : Table ρ) (k : κ) : Option ρ :=
  t.rows.find? fun r => Keyed.key r = k

/-- `insert into t values (r)`, a no-op where the key is taken. -/
def insert (t : Table ρ) (r : ρ) : Table ρ :=
  if h : (t.find? (Keyed.key r)).isSome then t
  else
    ⟨t.rows ++ [r], by
      have fresh : ∀ x ∈ t.rows, Keyed.key x ≠ Keyed.key r := by
        simpa [find?] using h
      rw [List.map_append, List.nodup_append]
      refine ⟨t.distinct, by simp, ?_⟩
      intro a ha b hb
      obtain ⟨x, hx, rfl⟩ := List.mem_map.mp ha
      simp only [List.map_cons, List.map_nil, List.mem_singleton] at hb
      exact hb ▸ fresh x hx⟩

/-- `update t set ... where key = k`. -/
def modify (t : Table ρ) (k : κ) (f : ρ → ρ)
    (hf : ∀ r, Keyed.key (f r) = Keyed.key r := by intro; rfl) : Table ρ :=
  t.modifyWhere (fun r => Keyed.key r = k) f hf

theorem key_of_find? {t : Table ρ} {k : κ} {r : ρ} (h : t.find? k = some r) :
    Keyed.key r = k := by
  simpa using List.find?_some h

theorem mem_of_find? {t : Table ρ} {k : κ} {r : ρ} (h : t.find? k = some r) :
    r ∈ t.rows :=
  List.mem_of_find?_eq_some h

theorem find?_of_mem {t : Table ρ} {r : ρ} (h : r ∈ t.rows) :
    t.find? (Keyed.key r) = some r := by
  obtain ⟨rows, distinct⟩ := t
  simp only [find?] at h ⊢
  induction rows with
  | nil => simp at h
  | cons x xs ih =>
      rw [List.map_cons, List.nodup_cons] at distinct
      rw [List.find?_cons]
      by_cases hx : Keyed.key x = Keyed.key r
      · rcases List.mem_cons.mp h with rfl | hr
        · simp
        · exact absurd (hx ▸ List.mem_map_of_mem hr) distinct.1
      · rcases List.mem_cons.mp h with rfl | hr
        · exact absurd rfl hx
        · simpa [hx] using ih distinct.2 hr

@[simp] theorem find?_empty (k : κ) : (empty : Table ρ).find? k = none := rfl

theorem find?_insert (t : Table ρ) (r : ρ) (k : κ) (fresh : t.find? (Keyed.key r) = none) :
    (t.insert r).find? k = if k = Keyed.key r then some r else t.find? k := by
  have hrows : (t.insert r).rows = t.rows ++ [r] := by simp [insert, fresh]
  rw [find?, hrows, List.find?_append]
  split
  · rename_i hk
    subst hk
    change (t.find? (Keyed.key r)).or _ = _
    simp [fresh]
  · rename_i hk
    have : ¬ Keyed.key r = k := fun h => hk h.symm
    simp [this, find?]

theorem find?_insert_of_some {t : Table ρ} {r x : ρ} {k : κ} (h : t.find? k = some x) :
    (t.insert r).find? k = some x := by
  by_cases fresh : t.find? (Keyed.key r) = none
  · rw [find?_insert t r k fresh, if_neg, h]
    rintro rfl
    simp [fresh] at h
  · have : (t.find? (Keyed.key r)).isSome := by
      cases hr : t.find? (Keyed.key r) <;> simp_all
    simp [insert, this, h]

theorem insert_of_taken {t : Table ρ} {r : ρ} (taken : t.find? (Keyed.key r) ≠ none) :
    t.insert r = t :=
  dif_pos (Option.isSome_iff_ne_none.mpr taken)

/-- What is found after an insert was there before, or it is the new row. -/
theorem find?_insert_cases {t : Table ρ} {r x : ρ} {k : κ} (found : (t.insert r).find? k = some x) :
    t.find? k = some x ∨ x = r ∧ k = Keyed.key r := by
  cases fresh : t.find? (Keyed.key r) with
  | none =>
      rw [find?_insert t r k fresh] at found
      split at found
      · next same => exact .inr ⟨(Option.some.inj found).symm, same⟩
      · exact .inl found
  | some other =>
      rw [insert_of_taken (by simp [fresh])] at found
      exact .inl found

theorem rows_insert (t : Table ρ) (r : ρ) (fresh : t.find? (Keyed.key r) = none) :
    (t.insert r).rows = t.rows ++ [r] := by
  simp [insert, fresh]

/-- New rows with keys of their own are all appended. -/
theorem rows_foldl_insert {t : Table ρ} {rs : List ρ}
    (fresh : ∀ r ∈ rs, t.find? (Keyed.key r) = none) (distinct : (rs.map Keyed.key).Nodup) :
    (rs.foldl insert t).rows = t.rows ++ rs := by
  induction rs generalizing t with
  | nil => simp
  | cons r rs ih =>
      rw [List.map_cons, List.nodup_cons] at distinct
      rw [List.foldl_cons, ih ?_ distinct.2, rows_insert t r (fresh r (by simp))]
      · simp
      · intro x mem
        rw [find?_insert t r _ (fresh r (by simp)), if_neg, fresh x (by simp [mem])]
        intro same
        exact distinct.1 (List.mem_map.mpr ⟨x, mem, same⟩)

theorem find?_modifyWhere (t : Table ρ) (p : ρ → Bool) (k : κ) (f : ρ → ρ)
    (hf : ∀ r, Keyed.key (f r) = Keyed.key r) :
    (t.modifyWhere p f hf).find? k = (t.find? k).map fun r => if p r then f r else r := by
  obtain ⟨rows, distinct⟩ := t
  simp only [find?, modifyWhere]
  clear distinct
  induction rows with
  | nil => simp
  | cons x xs ih =>
      rw [List.map_cons, List.find?_cons, List.find?_cons, ih]
      have hkey : Keyed.key (if p x then f x else x) = Keyed.key x := by
        split
        · exact hf x
        · rfl
      rw [hkey]
      by_cases hx : Keyed.key x = k <;> simp [hx]

theorem find?_modify (t : Table ρ) (k k' : κ) (f : ρ → ρ)
    (hf : ∀ r, Keyed.key (f r) = Keyed.key r) :
    (t.modify k f hf).find? k' = if k' = k then (t.find? k').map f else t.find? k' := by
  rw [modify, find?_modifyWhere]
  cases h : t.find? k' with
  | none => simp
  | some r => simp [key_of_find? h]; split <;> rfl

theorem find?_deleteWhere (t : Table ρ) (p : ρ → Bool) (k : κ) :
    (t.deleteWhere p).find? k = (t.find? k).filter fun r => !p r := by
  cases h : t.find? k with
  | none =>
      rw [Option.filter_none]
      simp only [find?, deleteWhere, List.find?_eq_none, List.mem_filter] at h ⊢
      exact fun r hr => h r hr.1
  | some r =>
      have hk := key_of_find? h
      by_cases hp : p r
      · simp only [Option.filter, hp, Bool.not_true, Bool.false_eq_true, if_false]
        simp only [find?, deleteWhere, List.find?_eq_none, List.mem_filter]
        intro x hx
        simp only [decide_eq_true_eq]
        intro hxk
        have := find?_of_mem hx.1
        rw [hxk, h, Option.some.injEq] at this
        subst this
        simp [hp] at hx
      · simp only [Option.filter, hp, Bool.not_false, if_true]
        have hmem : r ∈ (t.deleteWhere p).rows :=
          List.mem_filter.mpr ⟨mem_of_find? h, by simp [hp]⟩
        rw [← hk]
        exact find?_of_mem hmem

/-- Two updates that agree on the addressed row give the same table. -/
theorem modify_congr {t : Table ρ} {k : κ} {f g : ρ → ρ}
    (hf : ∀ r, Keyed.key (f r) = Keyed.key r) (hg : ∀ r, Keyed.key (g r) = Keyed.key r)
    (h : ∀ r, t.find? k = some r → f r = g r) :
    t.modify k f hf = t.modify k g hg := by
  simp only [modify, modifyWhere, mk.injEq]
  apply List.map_congr_left
  intro r hr
  by_cases hk : Keyed.key r = k
  · simp only [hk, decide_true, if_true]
    exact h r (hk ▸ find?_of_mem hr)
  · simp [hk]

/-- An update that leaves the addressed row as it is leaves the table as it is. -/
theorem modify_eq_self {t : Table ρ} {k : κ} {f : ρ → ρ}
    (hf : ∀ r, Keyed.key (f r) = Keyed.key r) (h : ∀ r, t.find? k = some r → f r = r) :
    t.modify k f hf = t := by
  rw [modify_congr hf (g := id) (fun _ => rfl) h]
  simp [modify, modifyWhere]

theorem first?_modify_none {t : Table ρ} {k : κ} {f : ρ → ρ} {q : ρ → Bool}
    (hf : ∀ r, Keyed.key (f r) = Keyed.key r) (h : ∀ r, q (f r) = q r) :
    (t.modify k f hf).first? q = none ↔ t.first? q = none := by
  rw [modify, first?_modifyWhere t hf h, Option.map_eq_none_iff]

theorem sumWhere_insert (t : Table ρ) (r : ρ) (p : ρ → Bool) (amount : ρ → Int)
    (fresh : t.find? (Keyed.key r) = none) :
    (t.insert r).sumWhere p amount =
      t.sumWhere p amount + if p r then amount r else 0 := by
  simp only [sumWhere, rows_insert t r fresh, List.filter_append, List.map_append, List.sum_append]
  by_cases hr : p r <;> simp [hr]

/-- An update moves an aggregate by the change of the one row it touches. -/
theorem sumWhere_modify {t : Table ρ} {k : κ} {r : ρ} {f : ρ → ρ} (p : ρ → Bool)
    (amount : ρ → Int) (hf : ∀ r, Keyed.key (f r) = Keyed.key r) (h : t.find? k = some r) :
    (t.modify k f hf).sumWhere p amount + (if p r then amount r else 0) =
      t.sumWhere p amount + if p (f r) then amount (f r) else 0 := by
  obtain ⟨rows, distinct⟩ := t
  simp only [find?, modify, modifyWhere, sumWhere] at h ⊢
  induction rows with
  | nil => simp at h
  | cons x xs ih =>
      rw [List.map_cons, List.nodup_cons] at distinct
      rw [List.find?_cons] at h
      by_cases hx : Keyed.key x = k
      · simp only [hx, decide_true, Option.some.injEq] at h
        subst h
        have rest : xs.map (fun r => if decide (Keyed.key r = k) then f r else r) = xs := by
          conv_rhs => rw [← List.map_id xs]
          apply List.map_congr_left
          intro y hy
          have : Keyed.key y ≠ k := fun hyk => distinct.1 (hx ▸ hyk ▸ List.mem_map_of_mem hy)
          simp [this]
        rw [List.map_cons, rest, if_pos (by simp [hx])]
        by_cases hp : p x <;> by_cases hq : p (f x) <;> simp [hp, hq] <;> omega
      · simp only [hx, decide_false] at h
        have rest := ih distinct.2 h
        rw [List.map_cons, if_neg (by simp [hx])]
        by_cases hp : p x <;> simp [hp] at rest ⊢ <;> omega

section View
variable {β : Type} (entry : ρ → β)

/-- What an observer that sees `entry` of each row sees of the table. -/
def view (t : Table ρ) (k : κ) : Option β := (t.find? k).map entry

theorem view_of_find? {t : Table ρ} {k : κ} {r : ρ} (h : t.find? k = some r) :
    t.view entry k = some (entry r) := by
  simp [view, h]

theorem view_eq_some {t : Table ρ} {k : κ} {b : β} :
    t.view entry k = some b ↔ ∃ r, t.find? k = some r ∧ entry r = b := by
  simp [view]

@[simp] theorem view_eq_none {t : Table ρ} {k : κ} : t.view entry k = none ↔ t.find? k = none := by
  simp [view]

theorem view_modify {t : Table ρ} {k : κ} {f : ρ → ρ} (g : β → β)
    (hf : ∀ r, Keyed.key (f r) = Keyed.key r) (h : ∀ r, entry (f r) = g (entry r)) :
    (t.modify k f hf).view entry = adjust (t.view entry) k g := by
  funext i
  by_cases hi : i = k
  · subst hi
    cases hr : t.find? i <;> simp [view, adjust, find?_modify, hr, h]
  · simp [view, adjust, find?_modify, hi]

theorem view_modify_of_some {t : Table ρ} {k : κ} {r : ρ} {f : ρ → ρ}
    (hf : ∀ r, Keyed.key (f r) = Keyed.key r) (h : t.find? k = some r) :
    (t.modify k f hf).view entry = put (t.view entry) k (entry (f r)) := by
  funext i
  by_cases hi : i = k
  · subst hi
    simp [view, put, find?_modify, h]
  · simp [view, put, find?_modify, hi]

/-- An update below what the observer sees. -/
theorem view_modify_same {t : Table ρ} {k : κ} {f : ρ → ρ}
    (hf : ∀ r, Keyed.key (f r) = Keyed.key r)
    (h : ∀ r, t.find? k = some r → entry (f r) = entry r) :
    (t.modify k f hf).view entry = t.view entry := by
  funext i
  by_cases hi : i = k
  · subst hi
    cases hr : t.find? i with
    | none => simp [view, find?_modify, hr]
    | some r => simp [view, find?_modify, hr, h r hr]
  · simp [view, find?_modify, hi]

theorem view_insert {t : Table ρ} {r : ρ} (fresh : t.find? (Keyed.key r) = none) :
    (t.insert r).view entry = put (t.view entry) (Keyed.key r) (entry r) := by
  funext i
  simp only [view, put, find?_insert t r i fresh]
  split <;> rfl

theorem view_modifyWhere (t : Table ρ) (p : ρ → Bool) (f : ρ → ρ)
    (hf : ∀ r, Keyed.key (f r) = Keyed.key r) (k : κ) :
    (t.modifyWhere p f hf).view entry k =
      (t.find? k).map fun r => entry (if p r then f r else r) := by
  rw [view, find?_modifyWhere, Option.map_map]
  rfl

/-- The keys of the rows that satisfy `p`. -/
def keysWhere (t : Table ρ) (p : ρ → Bool) : List κ := (t.rows.filter p).map Keyed.key

theorem mem_keysWhere {t : Table ρ} {p : ρ → Bool} {k : κ} :
    k ∈ t.keysWhere p ↔ ∃ r, t.find? k = some r ∧ p r = true := by
  simp only [keysWhere, List.mem_map, List.mem_filter]
  constructor
  · rintro ⟨r, ⟨mem, satisfies⟩, rfl⟩
    exact ⟨r, find?_of_mem mem, satisfies⟩
  · rintro ⟨r, found, satisfies⟩
    exact ⟨r, ⟨mem_of_find? found, satisfies⟩, key_of_find? found⟩

omit [DecidableEq κ] in
theorem nodup_keysWhere (t : Table ρ) (p : ρ → Bool) : (t.keysWhere p).Nodup :=
  t.distinct.sublist (List.filter_sublist.map _)

omit [DecidableEq κ] in
theorem length_keysWhere (t : Table ρ) (p : ρ → Bool) :
    (t.keysWhere p).length = (t.rows.filter p).length := List.length_map _

theorem view_deleteWhere (t : Table ρ) (p : ρ → Bool) :
    (t.deleteWhere p).view entry = (t.keysWhere p).foldl drop (t.view entry) := by
  funext k
  rw [foldl_drop, view, find?_deleteWhere]
  cases found : t.find? k with
  | none => simp [view, found]
  | some r =>
      by_cases gone : p r = true
      · have mem : k ∈ t.keysWhere p := mem_keysWhere.mpr ⟨r, found, gone⟩
        simp [mem, gone]
      · have kept : k ∉ t.keysWhere p := fun mem => by
          obtain ⟨r', found', gone'⟩ := mem_keysWhere.mp mem
          cases found.symm.trans found'
          exact gone gone'
        simp [kept, gone, view, found]

end View

end Lookup

end Table
end Library
