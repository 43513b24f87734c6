import Mathlib.Order.Defs.Unbundled

/-!
Transactions over a state `σ` that may raise an error `ε`. A transaction that
raises leaves no trace, and `savepoint` undoes the inner part only. `Ran m s a s'`
says that `m` started in `s` returned `a` and left `s'`; the `ran_*` rules take a
program apart along its structure. `Follows R m` says that every run of `m` stays
within the preorder `R`, with one rule for each way to build a program.
-/
namespace Library

def Tx (σ ε α : Type) : Type := σ → Except ε (α × σ)

namespace Tx
variable {σ ε α β : Type}

instance : Monad (Tx σ ε) where
  pure a := fun s => .ok (a, s)
  bind m f := fun s =>
    match m s with
    | .ok (a, s') => f a s'
    | .error e => .error e

def raise (e : ε) : Tx σ ε α := fun _ => .error e

/-- Read a projection of the state. -/
def read (f : σ → α) : Tx σ ε α := fun s => .ok (f s, s)

/-- Write the state. -/
def write (f : σ → σ) : Tx σ ε Unit := fun s => .ok ((), f s)

/-- The value of an optional row, or the error raised where there is none. -/
def require (o : Option α) (e : ε) : Tx σ ε α :=
  match o with
  | some a => pure a
  | none => raise e

/-- Raise `e` unless `c` holds. -/
def ensure (c : Prop) [Decidable c] (e : ε) : Tx σ ε Unit :=
  if c then pure () else raise e

/-- Run `m` only where `c` holds. -/
def onlyIf (c : Prop) [Decidable c] (m : Tx σ ε Unit) : Tx σ ε Unit :=
  if c then m else pure ()

def forEach (xs : List α) (f : α → Tx σ ε Unit) : Tx σ ε Unit :=
  match xs with
  | [] => pure ()
  | x :: xs => do f x; forEach xs f

/-- A nested transaction: its error is returned as a value and its writes are undone. -/
def savepoint (m : Tx σ ε α) : Tx σ ε (Except ε α) := fun s =>
  match m s with
  | .ok (a, s') => .ok (.ok a, s')
  | .error e => .ok (.error e, s)

/-- The state `m` leaves: the one it started in where it raises. -/
def leave (m : Tx σ ε α) (s : σ) : σ :=
  match m s with
  | .ok (_, s') => s'
  | .error _ => s

def Ran (m : Tx σ ε α) (s : σ) (a : α) (s' : σ) : Prop := m s = .ok (a, s')

theorem ran_leave {m : Tx σ ε α} {s : σ} {a : α}
    (answered : (m s).toOption.map Prod.fst = some a) : Ran m s a (m.leave s) := by
  unfold Ran leave
  cases ran : m s with
  | error e => simp [ran, Except.toOption] at answered
  | ok r =>
      rw [ran] at answered
      rw [← Option.some.inj answered]

@[simp] theorem ran_pure (a b : α) (s s' : σ) :
    Ran (pure a : Tx σ ε α) s b s' ↔ a = b ∧ s = s' := by
  simp [Ran, pure]

@[simp] theorem ran_bind (m : Tx σ ε α) (f : α → Tx σ ε β) (s s'' : σ) (b : β) :
    Ran (m >>= f) s b s'' ↔ ∃ a s', Ran m s a s' ∧ Ran (f a) s' b s'' := by
  simp only [Ran, bind]
  constructor
  · intro h
    cases hm : m s with
    | error e => simp [hm] at h
    | ok r => exact ⟨r.1, r.2, rfl, by simpa [hm] using h⟩
  · rintro ⟨a, s', hm, hf⟩
    simpa [hm] using hf

@[simp] theorem ran_raise (e : ε) (s s' : σ) (a : α) :
    Ran (raise e : Tx σ ε α) s a s' ↔ False := by
  simp [Ran, raise]

@[simp] theorem ran_read (f : σ → α) (s s' : σ) (a : α) :
    Ran (read f : Tx σ ε α) s a s' ↔ f s = a ∧ s = s' := by
  simp [Ran, read]

@[simp] theorem ran_write (f : σ → σ) (s s' : σ) (u : Unit) :
    Ran (write f : Tx σ ε Unit) s u s' ↔ f s = s' := by
  simp [Ran, write]

@[simp] theorem ran_require (o : Option α) (e : ε) (s s' : σ) (a : α) :
    Ran (require o e : Tx σ ε α) s a s' ↔ o = some a ∧ s = s' := by
  cases o <;> simp [require]

@[simp] theorem ran_ensure (c : Prop) [Decidable c] (e : ε) (s s' : σ) (u : Unit) :
    Ran (ensure c e : Tx σ ε Unit) s u s' ↔ c ∧ s = s' := by
  by_cases h : c <;> simp [ensure, h]

theorem ran_onlyIf (c : Prop) [Decidable c] (m : Tx σ ε Unit) (s s' : σ) (u : Unit) :
    Ran (onlyIf c m) s u s' ↔ (c ∧ Ran m s u s') ∨ (¬ c ∧ s = s') := by
  by_cases h : c <;> simp [onlyIf, h]

@[simp] theorem ran_ite (c : Prop) [Decidable c] (m n : Tx σ ε α) (s s' : σ) (a : α) :
    Ran (if c then m else n) s a s' ↔ (c ∧ Ran m s a s') ∨ (¬ c ∧ Ran n s a s') := by
  by_cases h : c <;> simp [h]

@[simp] theorem ran_forEach_nil (f : α → Tx σ ε Unit) (s s' : σ) (u : Unit) :
    Ran (forEach [] f) s u s' ↔ s = s' := by
  simp [forEach]

@[simp] theorem ran_forEach_cons (x : α) (xs : List α) (f : α → Tx σ ε Unit) (s s'' : σ) (u : Unit) :
    Ran (forEach (x :: xs) f) s u s'' ↔
      ∃ s', Ran (f x) s () s' ∧ Ran (forEach xs f) s' u s'' := by
  simp only [forEach, ran_bind]
  exact ⟨fun ⟨_, s', hx, hxs⟩ => ⟨s', hx, hxs⟩, fun ⟨s', hx, hxs⟩ => ⟨(), s', hx, hxs⟩⟩

/-! A program whose first statement is known runs on with what that statement gives. -/

instance : LawfulMonad (Tx σ ε) := by
  refine .mk' (Tx σ ε) (fun {α} m => ?_) (fun _ _ => rfl) fun {α β γ} m f g => ?_
  · funext s
    cases h : m s with
    | error e => simp [Functor.map, h]
    | ok p =>
        simp only [Functor.map, h]
        rfl
  · funext s
    cases h : m s <;> simp [bind, h]

theorem ran_read_bind (f : σ → α) (k : α → Tx σ ε β) (s s' : σ) (b : β) :
    Ran (read f >>= k) s b s' ↔ Ran (k (f s)) s b s' := Iff.rfl

theorem ran_write_bind (f : σ → σ) (k : Unit → Tx σ ε β) (s s' : σ) (b : β) :
    Ran (write f >>= k) s b s' ↔ Ran (k ()) (f s) b s' := Iff.rfl

theorem ran_require_bind (o : Option α) (e : ε) (k : α → Tx σ ε β) (s s' : σ) (b : β) :
    Ran (require o e >>= k) s b s' ↔ ∃ a, o = some a ∧ Ran (k a) s b s' := by
  cases o with
  | none => simp [require]
  | some a => simp [require]

theorem ran_ensure_bind (c : Prop) [Decidable c] (e : ε) (k : Unit → Tx σ ε β) (s s' : σ) (b : β) :
    Ran (ensure c e >>= k) s b s' ↔ c ∧ Ran (k ()) s b s' := by
  by_cases h : c
  · simp [ensure, h]
  · simp [ensure, h]

theorem ran_savepoint (m : Tx σ ε α) (s s' : σ) (r : Except ε α) :
    Ran (savepoint m) s r s' ↔
      (∃ a, r = .ok a ∧ Ran m s a s') ∨ (∃ e, r = .error e ∧ m s = .error e ∧ s = s') := by
  simp only [Ran, savepoint]
  cases hm : m s with
  | error e =>
      constructor
      · rintro ⟨⟩
        exact .inr ⟨e, rfl, rfl, rfl⟩
      · rintro (⟨a, rfl, ⟨⟩⟩ | ⟨e', rfl, ⟨⟩, rfl⟩)
        rfl
  | ok p =>
      constructor
      · rintro ⟨⟩
        exact .inl ⟨p.1, rfl, rfl⟩
      · rintro (⟨a, rfl, ⟨⟩⟩ | ⟨e', rfl, ⟨⟩, rfl⟩)
        rfl

section Apply

/-- What a transaction comes to in a given state, read from its first statement on. -/
theorem apply_read_bind (f : σ → α) (k : α → Tx σ ε β) (s : σ) :
    (read f >>= k) s = k (f s) s := rfl

theorem apply_write_bind (f : σ → σ) (k : Unit → Tx σ ε β) (s : σ) :
    (write f >>= k) s = k () (f s) := rfl

theorem apply_require_bind {o : Option α} {a : α} (h : o = some a) (e : ε) (k : α → Tx σ ε β)
    (s : σ) : (require o e >>= k) s = k a s := by
  subst h
  rfl

theorem apply_ensure_bind {c : Prop} [Decidable c] (h : c) (e : ε) (k : Unit → Tx σ ε β) (s : σ) :
    (ensure c e >>= k) s = k () s := by
  simp only [ensure, h, if_true]
  rfl

theorem ensure_refused {c : Prop} [Decidable c] (h : ¬ c) {e : ε} (s : σ) :
    ensure c e s = .error e := by
  simp only [ensure, h, if_false]
  rfl

theorem apply_bind_of_error {m : Tx σ ε α} {e : ε} {s : σ} (h : m s = .error e)
    (f : α → Tx σ ε β) : (m >>= f) s = .error e := by
  change (match m s with
    | .ok (a, s') => f a s'
    | .error e => .error e) = _
  rw [h]

theorem apply_bind_of_ok {m : Tx σ ε α} {a : α} {s s' : σ} (h : Ran m s a s')
    (f : α → Tx σ ε β) : (m >>= f) s = f a s' := by
  change (match m s with
    | .ok (a, s') => f a s'
    | .error e => .error e) = _
  rw [show m s = .ok (a, s') from h]

end Apply

section Yields
variable {Q : α → σ → Prop} {R : β → σ → Prop}

/-- `m` started in `s` does not raise, and what it returns and leaves satisfies `Q`. -/
def Yields (m : Tx σ ε α) (s : σ) (Q : α → σ → Prop) : Prop := ∃ a s', Ran m s a s' ∧ Q a s'

theorem yields_pure (a : α) (s : σ) : Yields (pure a : Tx σ ε α) s Q ↔ Q a s := by
  constructor
  · rintro ⟨b, t, ran, h⟩
    obtain ⟨rfl, rfl⟩ := (ran_pure a b s t).mp ran
    exact h
  · intro h
    exact ⟨a, s, rfl, h⟩

theorem yields_read_bind (f : σ → α) (k : α → Tx σ ε β) (s : σ) :
    Yields (read f >>= k) s R ↔ Yields (k (f s)) s R := Iff.rfl

theorem yields_write_bind (f : σ → σ) (k : Unit → Tx σ ε β) (s : σ) :
    Yields (write f >>= k) s R ↔ Yields (k ()) (f s) R := Iff.rfl

theorem yields_require_bind {o : Option α} {a : α} (h : o = some a) (e : ε) (k : α → Tx σ ε β)
    (s : σ) : Yields (require o e >>= k) s R ↔ Yields (k a) s R := by
  subst h
  exact Iff.rfl

theorem yields_ensure_bind {c : Prop} [Decidable c] (h : c) (e : ε) (k : Unit → Tx σ ε β) (s : σ) :
    Yields (ensure c e >>= k) s R ↔ Yields (k ()) s R := by
  simp only [ensure, h, if_true]
  exact Iff.rfl

end Yields

section Completes

/-- `m` started in `s` does not raise. -/
def Completes (m : Tx σ ε α) (s : σ) : Prop := ∃ a s', Ran m s a s'

theorem completes_pure (a : α) (s : σ) : Completes (pure a : Tx σ ε α) s := ⟨a, s, rfl⟩

theorem completes_read (f : σ → α) (s : σ) : Completes (read f : Tx σ ε α) s := ⟨f s, s, rfl⟩

theorem completes_write (f : σ → σ) (s : σ) : Completes (write f : Tx σ ε Unit) s :=
  ⟨(), f s, rfl⟩

theorem completes_require {o : Option α} {a : α} (h : o = some a) (e : ε) (s : σ) :
    Completes (require o e : Tx σ ε α) s := by
  subst h
  exact ⟨a, s, rfl⟩

theorem completes_require_isSome {o : Option α} (h : o.isSome) (e : ε) (s : σ) :
    Completes (require o e : Tx σ ε α) s :=
  completes_require (Option.some_get h).symm e s

theorem completes_ensure {c : Prop} [Decidable c] (h : c) (e : ε) (s : σ) :
    Completes (ensure c e : Tx σ ε Unit) s :=
  ⟨(), s, by simp [h]⟩

theorem completes_onlyIf {c : Prop} [Decidable c] {m : Tx σ ε Unit} {s : σ}
    (h : c → Completes m s) : Completes (onlyIf c m) s := by
  by_cases hc : c
  · simpa only [onlyIf, if_pos hc] using h hc
  · simpa only [onlyIf, if_neg hc] using completes_pure () s

theorem completes_bind {m : Tx σ ε α} {f : α → Tx σ ε β} {s : σ} (hm : Completes m s)
    (hf : ∀ a t, Ran m s a t → Completes (f a) t) : Completes (m >>= f) s := by
  obtain ⟨a, t, first⟩ := hm
  obtain ⟨b, u, second⟩ := hf a t first
  exact ⟨b, u, (ran_bind m f s u b).mpr ⟨a, t, first, second⟩⟩

end Completes

section Avoids
variable {bad : ε → Prop}

/-- Where `m` started in `s` raises, it raises no error of the bad kind. -/
def Avoids (bad : ε → Prop) (m : Tx σ ε α) (s : σ) : Prop := ∀ e, m s = .error e → ¬ bad e

/-- What completes raises nothing at all. -/
theorem Completes.avoids {m : Tx σ ε α} {s : σ} (h : Completes m s) : Avoids bad m s := by
  obtain ⟨a, t, ran⟩ := h
  intro e raised
  exact absurd (raised.symm.trans ran) (by simp)

theorem avoids_pure (a : α) (s : σ) : Avoids bad (pure a : Tx σ ε α) s := nofun

theorem avoids_read (f : σ → α) (s : σ) : Avoids bad (read f : Tx σ ε α) s := nofun

theorem avoids_write (f : σ → σ) (s : σ) : Avoids bad (write f : Tx σ ε Unit) s := nofun

theorem avoids_raise {e : ε} (good : ¬ bad e) (s : σ) : Avoids bad (raise e : Tx σ ε α) s := by
  intro e' h
  cases h
  exact good

theorem avoids_require_of {e : ε} {o : Option α} (good : o = none → ¬ bad e) (s : σ) :
    Avoids bad (require o e : Tx σ ε α) s := by
  cases o with
  | none => exact avoids_raise (good rfl) s
  | some a => exact avoids_pure a s

theorem avoids_require {e : ε} (o : Option α) (good : ¬ bad e) (s : σ) :
    Avoids bad (require o e : Tx σ ε α) s :=
  avoids_require_of (fun _ => good) s

theorem avoids_ensure_of {e : ε} {c : Prop} [Decidable c] (good : ¬ c → ¬ bad e) (s : σ) :
    Avoids bad (ensure c e : Tx σ ε Unit) s := by
  by_cases h : c
  · simpa only [ensure, if_pos h] using avoids_pure () s
  · simpa only [ensure, if_neg h] using avoids_raise (good h) s

theorem avoids_ensure {e : ε} (c : Prop) [Decidable c] (good : ¬ bad e) (s : σ) :
    Avoids bad (ensure c e : Tx σ ε Unit) s :=
  avoids_ensure_of (fun _ => good) s

theorem avoids_onlyIf {c : Prop} [Decidable c] {m : Tx σ ε Unit} {s : σ} (h : c → Avoids bad m s) :
    Avoids bad (onlyIf c m) s := by
  by_cases hc : c
  · simpa only [onlyIf, if_pos hc] using h hc
  · simpa only [onlyIf, if_neg hc] using avoids_pure () s

theorem avoids_bind {m : Tx σ ε α} {f : α → Tx σ ε β} {s : σ} (hm : Avoids bad m s)
    (hf : ∀ a t, Ran m s a t → Avoids bad (f a) t) : Avoids bad (m >>= f) s := by
  intro e h
  cases first : m s with
  | error e' =>
      simp only [bind, first] at h
      cases h
      exact hm e first
  | ok r =>
      simp only [bind, first] at h
      exact hf r.1 r.2 first e h

end Avoids

section Follows
variable {R : σ → σ → Prop}

/-- Every run of `m` leads from a state to one it is related to. -/
def Follows (R : σ → σ → Prop) (m : Tx σ ε α) : Prop := ∀ s a s', Ran m s a s' → R s s'

theorem follows_write {f : σ → σ} (h : ∀ s, R s (f s)) : Follows R (write f : Tx σ ε Unit) := by
  intro s _ s' ran
  simp only [ran_write] at ran
  exact ran ▸ h s

theorem follows_raise (e : ε) : Follows R (raise e : Tx σ ε α) := by
  intro s a s' ran
  simp at ran

theorem follows_bind [IsTrans σ R] {m : Tx σ ε α} {f : α → Tx σ ε β} (hm : Follows R m)
    (hf : ∀ a, Follows R (f a)) : Follows R (m >>= f) := by
  intro s b s' ran
  simp only [ran_bind] at ran
  obtain ⟨a, t, first, second⟩ := ran
  exact IsTrans.trans _ _ _ (hm s a t first) (hf a t b s' second)

variable [Std.Refl R]

theorem follows_pure (a : α) : Follows R (pure a : Tx σ ε α) := by
  intro s b s' ran
  simp only [ran_pure] at ran
  exact ran.2 ▸ Std.Refl.refl s

theorem follows_read (f : σ → α) : Follows R (read f : Tx σ ε α) := by
  intro s a s' ran
  simp only [ran_read] at ran
  exact ran.2 ▸ Std.Refl.refl s

theorem follows_require (o : Option α) (e : ε) : Follows R (require o e : Tx σ ε α) := by
  intro s a s' ran
  simp only [ran_require] at ran
  exact ran.2 ▸ Std.Refl.refl s

theorem follows_ensure (c : Prop) [Decidable c] (e : ε) :
    Follows R (ensure c e : Tx σ ε Unit) := by
  intro s a s' ran
  simp only [ran_ensure] at ran
  exact ran.2 ▸ Std.Refl.refl s

theorem follows_onlyIf {c : Prop} [Decidable c] {m : Tx σ ε Unit} (h : c → Follows R m) :
    Follows R (onlyIf c m) := by
  by_cases hc : c
  · simpa [onlyIf, hc] using h hc
  · simpa [onlyIf, hc] using follows_pure ()

theorem follows_savepoint {m : Tx σ ε α} (h : Follows R m) : Follows R (savepoint m) := by
  intro s r s' ran
  rw [ran_savepoint] at ran
  rcases ran with ⟨a, -, ran⟩ | ⟨-, -, -, rfl⟩
  · exact h s a s' ran
  · exact Std.Refl.refl s

theorem follows_forEach [IsTrans σ R] {xs : List α} {f : α → Tx σ ε Unit} (h : ∀ x ∈ xs, Follows R (f x)) :
    Follows R (forEach xs f) := by
  induction xs with
  | nil => exact follows_pure ()
  | cons x xs ih =>
      exact follows_bind (h x List.mem_cons_self) fun _ =>
        ih fun y hy => h y (List.mem_cons_of_mem x hy)

end Follows

end Tx
end Library
