import Mathlib.Data.List.Basic

/-!
Machines whose every choice is in the action: `next` gives the new state and
what the action answers. A run is a list of actions. `Along` speaks about each
step of a run, `Always` about each state it visits, and the two rules below turn
a fact about one step into a fact about a whole run.
-/
namespace Library

/-- Replacing one entry of a list loses no other value. -/
theorem mem_set_of_ne {α : Type} {xs : List α} {i : Nat} {x y z : α} (mem : x ∈ xs)
    (there : xs[i]? = some y) (ne : x ≠ y) : x ∈ xs.set i z := by
  obtain ⟨j, bound, rfl⟩ := List.getElem_of_mem mem
  have other : i ≠ j := by
    rintro rfl
    rw [List.getElem?_eq_getElem bound, Option.some.injEq] at there
    exact ne there
  rw [List.mem_iff_getElem?]
  exact ⟨j, by rw [List.getElem?_set_ne other, List.getElem?_eq_getElem bound]⟩

theorem getElem?_set_of_some {α : Type} {xs : List α} {i : Nat} {y : α} (there : xs[i]? = some y)
    (z : α) (j : Nat) : (xs.set i z)[j]? = if j = i then some z else xs[j]? := by
  rw [List.getElem?_set]
  by_cases same : i = j
  · subst same
    simp [(List.getElem?_eq_some_iff.mp there).1]
  · have other : ¬ j = i := fun h => same h.symm
    simp [same, other]

structure Machine (σ α ο : Type) where
  next : σ → α → σ × ο

namespace Machine
variable {σ α ο : Type} (M : Machine σ α ο)

def step (s : σ) (a : α) : σ := (M.next s a).1

def answer (s : σ) (a : α) : ο := (M.next s a).2

def run (s : σ) : List α → σ
  | [] => s
  | a :: as => run (M.step s a) as

/-- `P` holds of every step of the run, taken at the state it starts from. -/
def Along (P : σ → α → Prop) (s : σ) : List α → Prop
  | [] => True
  | a :: as => P s a ∧ Along P (M.step s a) as

instance decidableAlong {P : σ → α → Prop} [decide : ∀ s a, Decidable (P s a)] (s : σ) :
    (as : List α) → Decidable (M.Along P s as)
  | [] => isTrue trivial
  | a :: as => @instDecidableAnd _ _ (decide s a) (decidableAlong (M.step s a) as)

/-- `Q` holds of every state the run visits. -/
def Always (Q : σ → Prop) (s : σ) : List α → Prop
  | [] => Q s
  | a :: as => Q s ∧ Always Q (M.step s a) as

instance decidableAlways {Q : σ → Prop} [decide : ∀ s, Decidable (Q s)] (s : σ) :
    (as : List α) → Decidable (M.Always Q s as)
  | [] => decide s
  | a :: as => @instDecidableAnd _ _ (decide s) (decidableAlways (M.step s a) as)

/-- How much the steps of a run add up to. -/
def total (w : σ → α → Nat) (s : σ) : List α → Nat
  | [] => 0
  | a :: as => w s a + total w (M.step s a) as

/-- The states runs from `s₀` arrive in. -/
def Reachable (s₀ s : σ) : Prop := ∃ as, M.run s₀ as = s

/-- The states runs arrive in whose every step satisfies `P`. -/
def ReachableBy (P : σ → α → Prop) (s₀ s : σ) : Prop :=
  ∃ as, M.Along P s₀ as ∧ M.run s₀ as = s

@[simp] theorem run_nil (s : σ) : M.run s [] = s := rfl

@[simp] theorem run_cons (s : σ) (a : α) (as : List α) :
    M.run s (a :: as) = M.run (M.step s a) as := rfl

theorem run_append (s : σ) (as bs : List α) :
    M.run s (as ++ bs) = M.run (M.run s as) bs := by
  induction as generalizing s with
  | nil => rfl
  | cons a as ih => exact ih (M.step s a)

theorem along_append {P : σ → α → Prop} (s : σ) (as bs : List α) :
    M.Along P s (as ++ bs) ↔ M.Along P s as ∧ M.Along P (M.run s as) bs := by
  induction as generalizing s with
  | nil => simp [Along]
  | cons a as ih => simp only [List.cons_append, Along, run_cons, ih, and_assoc]

theorem along_mono {P Q : σ → α → Prop} (h : ∀ s a, P s a → Q s a) {s : σ} {as : List α}
    (along : M.Along P s as) : M.Along Q s as := by
  induction as generalizing s with
  | nil => trivial
  | cons a as ih => exact ⟨h s a along.1, ih along.2⟩

/-- A condition along a run, read off at each place of the run. -/
theorem along_iff {P : σ → α → Prop} {s : σ} {as : List α} :
    M.Along P s as ↔ ∀ p a q, as = p ++ a :: q → P (M.run s p) a := by
  induction as generalizing s with
  | nil => simp [Along]
  | cons b as ih =>
      constructor
      · rintro ⟨here, later⟩ p a q eq
        cases p with
        | nil =>
            cases eq
            exact here
        | cons c p =>
            cases eq
            exact ih.mp later p a q rfl
      · intro h
        refine ⟨h [] b as rfl, ih.mpr ?_⟩
        rintro p a q rfl
        exact h (b :: p) a q rfl

theorem always_iff {Q : σ → Prop} {s : σ} {as : List α} :
    M.Always Q s as ↔ ∀ p q, as = p ++ q → Q (M.run s p) := by
  induction as generalizing s with
  | nil =>
      constructor
      · intro h p q eq
        obtain ⟨rfl, rfl⟩ := List.append_eq_nil_iff.mp eq.symm
        exact h
      · intro h
        exact h [] [] rfl
  | cons b as ih =>
      constructor
      · rintro ⟨here, later⟩ p q eq
        cases p with
        | nil => exact here
        | cons c p =>
            cases eq
            exact ih.mp later p q rfl
      · intro h
        refine ⟨h [] (b :: as) rfl, ih.mpr ?_⟩
        rintro p q rfl
        exact h (b :: p) q rfl

theorem total_append (w : σ → α → Nat) (s : σ) (as bs : List α) :
    M.total w s (as ++ bs) = M.total w s as + M.total w (M.run s as) bs := by
  induction as generalizing s with
  | nil => simp [total]
  | cons a as ih => simp only [List.cons_append, total, run_cons, ih, Nat.add_assoc]

theorem total_eq_zero {w : σ → α → Nat} {s : σ} {as : List α} :
    M.total w s as = 0 ↔ M.Along (fun s a => w s a = 0) s as := by
  induction as generalizing s with
  | nil => simp [total, Along]
  | cons a as ih => simp only [total, Along, Nat.add_eq_zero_iff, ih]

/-- What the steps of a run add up to is paid for by what they leave behind. -/
theorem total_le_of_credit {w : σ → α → Nat} {credit : σ → Nat} {I : σ → Prop}
    (keep : ∀ s a, I s → I (M.step s a))
    (pays : ∀ s a, I s → credit s + w s a ≤ credit (M.step s a)) {s : σ} (init : I s)
    (as : List α) : credit s + M.total w s as ≤ credit (M.run s as) := by
  induction as generalizing s with
  | nil => exact Nat.le_refl _
  | cons a as ih =>
      have rest := ih (keep s a init)
      have here := pays s a init
      simp only [total, run_cons]
      omega

theorem along_true (s : σ) (as : List α) : M.Along (fun _ _ => True) s as := by
  induction as generalizing s with
  | nil => trivial
  | cons a as ih => exact ⟨trivial, ih _⟩

theorem Reachable.refl (s : σ) : M.Reachable s s := ⟨[], rfl⟩

variable {M}

theorem Reachable.trans {s t u : σ} (h : M.Reachable s t) (k : M.Reachable t u) :
    M.Reachable s u := by
  obtain ⟨as, rfl⟩ := h
  obtain ⟨bs, rfl⟩ := k
  exact ⟨as ++ bs, M.run_append s as bs⟩

theorem Reachable.step {s t : σ} (h : M.Reachable s t) (a : α) : M.Reachable s (M.step t a) :=
  h.trans ⟨[a], rfl⟩

theorem Reachable.by_true {s t : σ} (h : M.Reachable s t) :
    M.ReachableBy (fun _ _ => True) s t := by
  obtain ⟨as, rfl⟩ := h
  exact ⟨as, M.along_true s as, rfl⟩

theorem ReachableBy.refl {P : σ → α → Prop} (s : σ) : M.ReachableBy P s s :=
  ⟨[], trivial, rfl⟩

theorem ReachableBy.single {P : σ → α → Prop} {s : σ} {a : α} (h : P s a) :
    M.ReachableBy P s (M.step s a) :=
  ⟨[a], ⟨h, trivial⟩, rfl⟩

theorem ReachableBy.trans {P : σ → α → Prop} {s t u : σ} (h : M.ReachableBy P s t)
    (k : M.ReachableBy P t u) : M.ReachableBy P s u := by
  obtain ⟨as, along, rfl⟩ := h
  obtain ⟨bs, along', rfl⟩ := k
  exact ⟨as ++ bs, (M.along_append s as bs).mpr ⟨along, along'⟩, M.run_append s as bs⟩

theorem ReachableBy.mono {P Q : σ → α → Prop} (h : ∀ s a, P s a → Q s a) {s t : σ}
    (k : M.ReachableBy P s t) : M.ReachableBy Q s t := by
  obtain ⟨as, along, rfl⟩ := k
  exact ⟨as, M.along_mono h along, rfl⟩

/-- What every admissible step keeps, an admissible run keeps. -/
theorem invariant_run {P : σ → α → Prop} {I : σ → Prop}
    (keep : ∀ s a, I s → P s a → I (M.step s a)) {s : σ} (init : I s) {as : List α}
    (along : M.Along P s as) : I (M.run s as) := by
  induction as generalizing s with
  | nil => exact init
  | cons a as ih => exact ih (keep s a init along.1) along.2

theorem invariant_always {P : σ → α → Prop} {I : σ → Prop}
    (keep : ∀ s a, I s → P s a → I (M.step s a)) {s : σ} (init : I s) {as : List α}
    (along : M.Along P s as) : M.Always I s as := by
  induction as generalizing s with
  | nil => exact init
  | cons a as ih => exact ⟨init, ih (keep s a init along.1) along.2⟩

/-- Each step of an admissible run starts from a state that has what every such step keeps. -/
theorem along_of_invariant {P : σ → α → Prop} {I : σ → Prop}
    (keep : ∀ s a, I s → P s a → I (M.step s a)) {s : σ} (init : I s) {as : List α}
    (along : M.Along P s as) : M.Along (fun s a => I s ∧ P s a) s as := by
  induction as generalizing s with
  | nil => trivial
  | cons a as ih => exact ⟨⟨init, along.1⟩, ih (keep s a init along.1) along.2⟩

theorem ReachableBy.invariant {P : σ → α → Prop} {I : σ → Prop} {s t : σ}
    (h : M.ReachableBy P s t) (init : I s)
    (keep : ∀ s a, I s → P s a → I (M.step s a)) : I t := by
  obtain ⟨as, along, rfl⟩ := h
  exact invariant_run keep init along

theorem Reachable.invariant {I : σ → Prop} {s t : σ} (h : M.Reachable s t) (init : I s)
    (keep : ∀ s a, I s → I (M.step s a)) : I t :=
  h.by_true.invariant init fun s a hs _ => keep s a hs

theorem always_mono {Q R : σ → Prop} (h : ∀ s, Q s → R s) {s : σ} {as : List α}
    (always : M.Always Q s as) : M.Always R s as := by
  induction as generalizing s with
  | nil => exact h s always
  | cons a as ih => exact ⟨h s always.1, ih always.2⟩

theorem always_head {Q : σ → Prop} {s : σ} {as : List α} (always : M.Always Q s as) : Q s := by
  cases as with
  | nil => exact always
  | cons a as => exact always.1

/-- Where a bad step always leads out of `Q`, a run that stays in `Q` has none. -/
theorem along_of_always {P : σ → α → Prop} {Q : σ → Prop}
    (bad : ∀ s a, Q s → ¬ P s a → ¬ Q (M.step s a)) {s : σ} {as : List α}
    (always : M.Always Q s as) : M.Along P s as := by
  induction as generalizing s with
  | nil => trivial
  | cons a as ih =>
      refine ⟨?_, ih always.2⟩
      by_contra hP
      exact bad s a always.1 hP (always_head always.2)

end Machine
end Library
