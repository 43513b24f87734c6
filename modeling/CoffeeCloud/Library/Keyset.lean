import Mathlib

/-!
Reading a list in pages by the position of the last row that was read. The list is
ordered by position, the highest first, and no two rows share one; a page is cut from
what is below a position, and one row more is looked at to know whether another page
follows.
-/
namespace Library.Keyset

section Order
variable {ρ K : Type} [LinearOrder K] (pos : ρ → K)

def newest (rows : List ρ) : List ρ := rows.mergeSort fun a b => pos b ≤ pos a

def Descending (rows : List ρ) : Prop := rows.Pairwise fun a b => pos b < pos a

/-- The rows below a position, or all of them. -/
def below (rows : List ρ) (c : Option K) : List ρ := rows.filter fun r => c.all fun k => pos r < k

/-- A page of `n` rows, and its last one if more rows follow. -/
def page (n : Nat) (rows : List ρ) (c : Option K) : List ρ × Option ρ :=
  let found := (below pos rows c).take (n + 1)
  (found.take n, if n < found.length then found[n - 1]? else none)

variable {pos} {rows : List ρ}

theorem newest_perm : (newest pos rows).Perm rows := List.mergeSort_perm _ _

theorem newest_pairwise : (newest pos rows).Pairwise fun a b => pos b ≤ pos a := by
  refine (List.pairwise_mergeSort ?_ ?_ rows).imp fun h => of_decide_eq_true h
  · intro a b c ab bc
    exact decide_eq_true ((of_decide_eq_true bc).trans (of_decide_eq_true ab))
  · intro a b
    rw [Bool.or_eq_true, decide_eq_true_eq, decide_eq_true_eq]
    exact (le_total (pos b) (pos a))

/-- Rows that are apart are ordered strictly. -/
theorem descending_newest (apart : (rows.map pos).Nodup) : Descending pos (newest pos rows) := by
  have different : (newest pos rows).Pairwise fun a b => pos a ≠ pos b :=
    List.pairwise_map.mp ((newest_perm.map pos).nodup_iff.mpr apart)
  exact (newest_pairwise.and different).imp fun h => lt_of_le_of_ne h.1 h.2.symm

theorem Descending.nodup (h : Descending pos rows) : rows.Nodup :=
  h.imp fun lt same => absurd (same ▸ lt) (lt_irrefl _)

theorem Descending.sublist {rows' : List ρ} (h : Descending pos rows) (sub : rows'.Sublist rows) :
    Descending pos rows' := List.Pairwise.sublist sub h

/-- It makes no difference whether rows are left out before or after they are ordered. -/
theorem newest_filter (apart : (rows.map pos).Nodup) (p : ρ → Bool) :
    newest pos (rows.filter p) = (newest pos rows).filter p := by
  have kept : Descending pos (newest pos (rows.filter p)) :=
    descending_newest (apart.sublist (List.filter_sublist.map pos))
  have whole := (descending_newest apart).sublist (List.filter_sublist (p := p))
  refine List.Perm.eq_of_pairwise (fun a b _ _ ab ba => absurd ab (lt_asymm ba)) kept whole ?_
  exact newest_perm.trans (newest_perm.filter p).symm

end Order

section Pages
variable {ρ K : Type} [LinearOrder K] {pos : ρ → K} {rows : List ρ} {n : Nat} {c : Option K}

theorem page_last (few : (below pos rows c).length ≤ n) :
    page pos n rows c = (below pos rows c, none) := by
  have all : (below pos rows c).take (n + 1) = below pos rows c :=
    List.take_of_length_le (few.trans (Nat.le_succ n))
  simp only [page, all, if_neg (not_lt.mpr few), List.take_of_length_le few]

/-- The rows below the last one of a page are the ones the page left. -/
theorem page_more (descending : Descending pos rows) (pos_n : 0 < n)
    (many : n < (below pos rows c).length) :
    ∃ r ∈ rows, page pos n rows c = ((below pos rows c).take n, some r) ∧
      below pos rows (some (pos r)) = (below pos rows c).drop n := by
  have last : n - 1 < (below pos rows c).length := by omega
  have cut : below pos rows c = (below pos rows c).take (n - 1) ++
      (below pos rows c)[n - 1] :: (below pos rows c).drop n := by
    have next : n - 1 + 1 = n := by omega
    have tail := List.drop_eq_getElem_cons last
    rw [next] at tail
    rw [← tail, List.take_append_drop]
  have ordered : Descending pos (below pos rows c) := descending.sublist List.filter_sublist
  have found : (below pos rows c)[n - 1] ∈ below pos rows c := List.getElem_mem last
  have within := List.mem_filter.mp found
  refine ⟨(below pos rows c)[n - 1], within.1, ?_, ?_⟩
  · have longer : n < ((below pos rows c).take (n + 1)).length := by
      rw [List.length_take]
      omega
    have there : ((below pos rows c).take (n + 1))[n - 1]? = some (below pos rows c)[n - 1] := by
      rw [List.getElem?_take_of_lt (by omega), List.getElem?_eq_getElem last]
    have taken : ((below pos rows c).take (n + 1)).take n = (below pos rows c).take n := by
      rw [List.take_take, Nat.min_eq_left (Nat.le_succ n)]
    simp only [page, if_pos longer, there, taken]
  · generalize (below pos rows c)[n - 1] = r at cut within
    have inner : below pos rows (some (pos r)) = below pos (below pos rows c) (some (pos r)) := by
      rw [below, below, below, List.filter_filter]
      apply List.filter_congr
      intro x _
      rw [Bool.eq_iff_iff, Bool.and_eq_true]
      refine ⟨fun lt => ⟨lt, ?_⟩, fun h => h.1⟩
      cases c with
      | none => rfl
      | some k =>
          have rk : pos r < k := of_decide_eq_true within.2
          have xr : pos x < pos r := of_decide_eq_true lt
          exact decide_eq_true (xr.trans rk)
    rw [cut, Descending, List.pairwise_append, List.pairwise_cons] at ordered
    obtain ⟨-, ⟨after, -⟩, before⟩ := ordered
    rw [inner]
    conv_lhs => rw [cut]
    rw [below, List.filter_append, List.filter_cons]
    have none : ((below pos rows c).take (n - 1)).filter
        (fun x => (some (pos r)).all fun k => decide (pos x < k)) = [] := by
      refine List.filter_eq_nil_iff.mpr fun x mem lt => ?_
      exact absurd (of_decide_eq_true lt) (lt_asymm (before x mem r List.mem_cons_self))
    have all : ((below pos rows c).drop n).filter
        (fun x => (some (pos r)).all fun k => decide (pos x < k)) = (below pos rows c).drop n :=
      List.filter_eq_self.mpr fun x mem => decide_eq_true (after x mem)
    rw [none, all]
    simp

end Pages

section Reader
variable {ρ K τ ε : Type} [LinearOrder K] {pos : ρ → K} {rows : List ρ} {n : Nat}

/-- A reader that follows the token of each page, for at most so many pages. -/
def collect (fetch : Option τ → Except ε (List ρ × Option τ)) :
    Nat → Option τ → Except ε (Option (List ρ))
  | 0, _ => .ok none
  | m + 1, token => do
      let (found, next) ← fetch token
      match next with
      | none => .ok (some found)
      | some t => do
          let rest ← collect fetch m (some t)
          .ok (rest.map (found ++ ·))

/-- Following the tokens reads every row below the position it starts from, in order. -/
theorem collect_below {fetch : Option τ → Except ε (List ρ × Option τ)} {token : ρ → τ}
    {Means : Option τ → Option K → Prop}
    (fetches : ∀ t c, Means t c →
      fetch t = .ok ((page pos n rows c).1, (page pos n rows c).2.map token))
    (means : ∀ r ∈ rows, Means (some (token r)) (some (pos r)))
    (descending : Descending pos rows) (pos_n : 0 < n) {m : Nat} {t : Option τ} {c : Option K}
    (start : Means t c) (enough : (below pos rows c).length < m) :
    collect fetch m t = .ok (some (below pos rows c)) := by
  induction m generalizing t c with
  | zero => exact absurd enough (Nat.not_lt_zero _)
  | succ m ih =>
      rw [collect, fetches t c start]
      rcases le_or_gt (below pos rows c).length n with few | many
      · rw [page_last few]
        rfl
      · obtain ⟨r, mem, cut, rest⟩ := page_more descending pos_n many
        have shorter : (below pos rows (some (pos r))).length < m := by
          rw [rest, List.length_drop]
          omega
        rw [cut]
        change (collect fetch m (some (token r)) >>= _) = _
        rw [ih (means r mem) shorter, rest]
        change Except.ok (some ((below pos rows c).take n ++ (below pos rows c).drop n)) = _
        rw [List.take_append_drop]

end Reader

end Library.Keyset
