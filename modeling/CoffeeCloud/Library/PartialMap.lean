/-!
Partial maps as functions: an entry put in place, an entry changed in place.
-/
namespace Library
variable {κ β : Type} [DecidableEq κ]

/-- `m` with `b` at `k`. -/
def put (m : κ → Option β) (k : κ) (b : β) : κ → Option β :=
  fun i => if i = k then some b else m i

/-- `m` with the entry at `k` changed by `g`; nothing happens where there is none. -/
def adjust (m : κ → Option β) (k : κ) (g : β → β) : κ → Option β :=
  fun i => if i = k then (m i).map g else m i

/-- `m` without the entry at `k`. -/
def drop (m : κ → Option β) (k : κ) : κ → Option β :=
  fun i => if i = k then none else m i

theorem put_apply (m : κ → Option β) (k i : κ) (b : β) :
    put m k b i = if i = k then some b else m i := rfl

@[simp] theorem put_same (m : κ → Option β) (k : κ) (b : β) : put m k b k = some b := by
  simp [put]

theorem put_of_ne {m : κ → Option β} {k i : κ} {b : β} (h : i ≠ k) : put m k b i = m i := by
  simp [put, h]

/-- What is found in a map with an entry put in place is that entry or was there before. -/
theorem put_some {m : κ → Option β} {k i : κ} {b c : β} (found : put m k b i = some c) :
    i = k ∧ c = b ∨ i ≠ k ∧ m i = some c := by
  by_cases same : i = k
  · subst same
    rw [put_same, Option.some.injEq] at found
    exact .inl ⟨rfl, found.symm⟩
  · exact .inr ⟨same, (put_of_ne same).symm.trans found⟩

theorem adjust_apply (m : κ → Option β) (k i : κ) (g : β → β) :
    adjust m k g i = if i = k then (m i).map g else m i := rfl

theorem adjust_of_ne {m : κ → Option β} {k i : κ} {g : β → β} (h : i ≠ k) :
    adjust m k g i = m i := by
  simp [adjust, h]

theorem adjust_of_some {m : κ → Option β} {k : κ} {g : β → β} {b : β} (h : m k = some b) :
    adjust m k g = put m k (g b) := by
  funext i
  by_cases hi : i = k
  · subst hi
    simp [adjust, put, h]
  · simp [adjust, put, hi]

/-- A change that leaves the entry as it is changes nothing. -/
theorem adjust_eq_self {m : κ → Option β} {k : κ} {g : β → β}
    (h : ∀ b, m k = some b → g b = b) : adjust m k g = m := by
  funext i
  by_cases hi : i = k
  · subst hi
    cases hm : m i with
    | none => simp [adjust, hm]
    | some b => simp [adjust, hm, h b hm]
  · simp [adjust, hi]

@[simp] theorem adjust_id (m : κ → Option β) (k : κ) : adjust m k (fun b => b) = m :=
  adjust_eq_self fun _ _ => rfl

theorem adjust_adjust (m : κ → Option β) (k : κ) (f g : β → β) :
    adjust (adjust m k f) k g = adjust m k fun b => g (f b) := by
  funext i
  by_cases hi : i = k
  · subst hi
    cases hm : m i <;> simp [adjust, hm]
  · simp [adjust, hi]

theorem put_put (m : κ → Option β) (k : κ) (b c : β) : put (put m k b) k c = put m k c := by
  funext i
  by_cases hi : i = k <;> simp [put, hi]

@[simp] theorem adjust_put (m : κ → Option β) (k : κ) (b : β) (g : β → β) :
    adjust (put m k b) k g = put m k (g b) := by
  rw [adjust_of_some (put_same m k b), put_put]

theorem adjust_some_iff {m : κ → Option β} {k i : κ} {g : β → β} {c : β} :
    adjust m k g i = some c ↔ ∃ b, m i = some b ∧ c = if i = k then g b else b := by
  by_cases hi : i = k
  · subst hi
    cases hm : m i with
    | none => simp [adjust, hm]
    | some b => simp [adjust, hm, eq_comm]
  · cases hm : m i with
    | none => simp [adjust, hi, hm]
    | some b => simp [adjust, hi, hm, eq_comm]

theorem drop_of_ne {m : κ → Option β} {k i : κ} (h : i ≠ k) : drop m k i = m i := by
  simp [drop, h]

theorem drop_eq_self {m : κ → Option β} {k : κ} (h : m k = none) : drop m k = m := by
  funext i
  by_cases hi : i = k
  · simp [drop, hi, h]
  · simp [drop, hi]

theorem foldl_drop (m : κ → Option β) (ks : List κ) (i : κ) :
    ks.foldl drop m i = if i ∈ ks then none else m i := by
  induction ks generalizing m with
  | nil => simp
  | cons k ks ih =>
      rw [List.foldl_cons, ih]
      by_cases later : i ∈ ks
      · simp [later]
      · simp [later, drop]

theorem drop_some {m : κ → Option β} {k i : κ} {b : β} (h : drop m k i = some b) :
    m i = some b := by
  by_cases hi : i = k
  · simp [drop, hi] at h
  · simpa [drop, hi] using h

end Library
