import CoffeeCloud.Library.Machine

/-!
Transactions that overlap, statement by statement, as a store runs them at READ
COMMITTED. A statement sees what has committed and what its own transaction has
written; it waits for its locks, and they are held to the end. A discipline says
what each lock protects: what no one else's commit changes while the lock is held.
Where every transaction commits only changes it has locked for itself, each can be
verified alone, with the others' commits as interference.
-/
namespace Library

inductive LockMode where
  | shared
  | exclusive
deriving DecidableEq

structure Lock (κ : Type) where
  resource : κ
  mode : LockMode
deriving DecidableEq

namespace Lock
variable {κ : Type}

def Conflicts (a b : Lock κ) : Prop :=
  a.resource = b.resource ∧ (a.mode = .exclusive ∨ b.mode = .exclusive)

instance [DecidableEq κ] (a b : Lock κ) : Decidable (a.Conflicts b) :=
  inferInstanceAs (Decidable (_ ∧ (_ ∨ _)))

theorem Conflicts.symm {a b : Lock κ} (h : a.Conflicts b) : b.Conflicts a :=
  ⟨h.1.symm, h.2.symm⟩

/-- No lock of the one conflicts with a lock of the other. -/
def Apart (held others : List (Lock κ)) : Prop := ∀ a ∈ held, ∀ b ∈ others, ¬ a.Conflicts b

instance [DecidableEq κ] (held others : List (Lock κ)) : Decidable (Apart held others) :=
  inferInstanceAs (Decidable (∀ _ ∈ _, ∀ _ ∈ _, ¬ _))

theorem Apart.symm {held others : List (Lock κ)} (h : Apart held others) : Apart others held :=
  fun a left b right conflict => h b right a left conflict.symm

theorem apart_nil (others : List (Lock κ)) : Apart [] others := by
  intro a mem
  cases mem

theorem apart_append {a b others : List (Lock κ)} :
    Apart (a ++ b) others ↔ Apart a others ∧ Apart b others := by
  simp only [Apart, List.mem_append, or_imp, forall_and]

end Lock

/-- A transaction as the statements it makes. A statement takes its locks, adds to what the
transaction has written, and goes on with what it saw. -/
inductive Script (σ κ ε α : Type) where
  | done (a : α)
  | raise (e : ε)
  | statement (locks : σ → List (Lock κ)) (effect : σ → σ → σ) (next : σ → Script σ κ ε α)

namespace Script
variable {σ κ ε α β : Type}

def bind (f : α → Script σ κ ε β) : Script σ κ ε α → Script σ κ ε β
  | done a => f a
  | raise e => raise e
  | statement locks effect next => statement locks effect fun view => bind f (next view)

instance : Monad (Script σ κ ε) where
  pure := done
  bind m f := bind f m

/-- `select` of what `f` reads. -/
def select (f : σ → α) : Script σ κ ε α := statement (fun _ => []) (fun _ => id) fun s => done (f s)

/-- `select ... for update` or `for share`. -/
def selectFor (locks : σ → List (Lock κ)) (f : σ → α) : Script σ κ ε α :=
  statement locks (fun _ => id) fun s => done (f s)

/-- A lock for its own sake. -/
def lock (l : Lock κ) : Script σ κ ε Unit := statement (fun _ => [l]) (fun _ => id) fun _ => done ()

/-- A write, with the locks on the rows it changes. -/
def change (locks : σ → List (Lock κ)) (effect : σ → σ → σ) : Script σ κ ε Unit :=
  statement locks effect fun _ => done ()

/-- `insert`, which raises where a unique key is taken. The keys are locked. -/
def insert (locks : List (Lock κ)) (taken : σ → Bool) (effect : σ → σ) (e : ε) :
    Script σ κ ε Unit :=
  statement (fun _ => locks) (fun _ => effect) fun view => if taken view then raise e else done ()

def require (o : Option α) (e : ε) : Script σ κ ε α :=
  match o with
  | some a => done a
  | none => raise e

def ensure (c : Prop) [Decidable c] (e : ε) : Script σ κ ε Unit :=
  if c then done () else raise e

end Script

/-- What each lock protects, what every commit keeps, and what every committed state has. -/
structure Discipline (σ κ : Type) where
  inv : σ → Prop
  always : σ → σ → Prop
  keeps : κ → σ → σ → Prop
  always_refl : ∀ s, always s s
  always_trans : ∀ {s t u}, always s t → always t u → always s u
  keeps_refl : ∀ k s, keeps k s s
  keeps_trans : ∀ {k s t u}, keeps k s t → keeps k t u → keeps k s u

namespace Discipline
variable {σ κ : Type} (D : Discipline σ κ) {held others : List (Lock κ)} {s t u : σ}

/-- What the commits of others leave to the holder of these locks. -/
def Rely (held : List (Lock κ)) (s t : σ) : Prop :=
  D.always s t ∧ ∀ l ∈ held, D.keeps l.resource s t

/-- A commit changes what a lock protects only under that lock, held exclusively. -/
def Guarantee (held : List (Lock κ)) (s t : σ) : Prop :=
  D.always s t ∧ ∀ k, ⟨k, .exclusive⟩ ∉ held → D.keeps k s t

variable {D}

theorem Rely.refl : D.Rely held s s := ⟨D.always_refl s, fun _ _ => D.keeps_refl _ s⟩

theorem Rely.trans (h : D.Rely held s t) (k : D.Rely held t u) : D.Rely held s u :=
  ⟨D.always_trans h.1 k.1, fun l mem => D.keeps_trans (h.2 l mem) (k.2 l mem)⟩

theorem Rely.left {others : List (Lock κ)} (h : D.Rely (held ++ others) s t) : D.Rely held s t :=
  ⟨h.1, fun l mem => h.2 l (List.mem_append_left _ mem)⟩

/-- What one transaction may change is what the others do not rely on. -/
theorem Guarantee.rely (h : D.Guarantee held s t) (apart : Lock.Apart held others) :
    D.Rely others s t := by
  refine ⟨h.1, fun l mem => h.2 l.resource fun mine => ?_⟩
  exact apart _ mine l mem ⟨rfl, .inl rfl⟩

end Discipline

section Verification
variable {σ κ ε α β : Type} (D : Discipline σ κ)

/-- Whatever others commit while the script runs, it ends in `Q`, if it ends at all. -/
def Safe (Q : α → (σ → σ) → List (Lock κ) → σ → Prop) :
    Script σ κ ε α → (σ → σ) → List (Lock κ) → σ → Prop
  | .done a, pending, held, s => Q a pending held s
  | .raise _, _, _, _ => True
  | .statement locks effect next, pending, held, s => ∀ t, D.Rely held s t → D.inv t →
      Safe Q (next (pending t)) (fun u => effect (pending t) (pending u))
        (held ++ locks (pending t)) t

/-- The transaction may commit: with what it has written and locked it keeps to the discipline. -/
def Commits (good : α → σ → σ → Prop) (a : α) (pending : σ → σ) (held : List (Lock κ)) (s : σ) :
    Prop :=
  ∀ t, D.Rely held s t → D.inv t →
    D.inv (pending t) ∧ D.Guarantee held t (pending t) ∧ good a t (pending t)

variable {D} {Q R : α → (σ → σ) → List (Lock κ) → σ → Prop} {pending : σ → σ}
  {held : List (Lock κ)} {s t : σ}

theorem Safe.mono (h : ∀ a p L s, Q a p L s → R a p L s) {m : Script σ κ ε α} :
    Safe D Q m pending held s → Safe D R m pending held s := by
  induction m generalizing pending held s with
  | done a => exact h a pending held s
  | raise e => exact id
  | statement locks effect next ih =>
      intro safe t rely inv
      exact ih _ (safe t rely inv)

theorem safe_bind {Q : β → (σ → σ) → List (Lock κ) → σ → Prop} {f : α → Script σ κ ε β}
    {m : Script σ κ ε α} :
    Safe D Q (m >>= f) pending held s ↔
      Safe D (fun a p L s => Safe D Q (f a) p L s) m pending held s := by
  change Safe D Q (Script.bind f m) pending held s ↔ _
  induction m generalizing pending held s with
  | done a => exact Iff.rfl
  | raise e => exact Iff.rfl
  | statement locks effect next ih =>
      exact forall_congr' fun t => forall_congr' fun _ => forall_congr' fun _ => ih _

theorem safe_pure {a : α} : Safe D Q (pure a : Script σ κ ε α) pending held s ↔
    Q a pending held s := Iff.rfl

theorem safe_select {f : σ → α} :
    Safe D Q (Script.select f : Script σ κ ε α) pending held s ↔
      ∀ t, D.Rely held s t → D.inv t → Q (f (pending t)) pending held t := by
  simp only [Script.select, Safe, List.append_nil, id_eq]

theorem safe_selectFor {locks : σ → List (Lock κ)} {f : σ → α} :
    Safe D Q (Script.selectFor locks f : Script σ κ ε α) pending held s ↔
      ∀ t, D.Rely held s t → D.inv t →
        Q (f (pending t)) pending (held ++ locks (pending t)) t := Iff.rfl

theorem safe_lock {Q : Unit → (σ → σ) → List (Lock κ) → σ → Prop} {l : Lock κ} :
    Safe D Q (Script.lock l : Script σ κ ε Unit) pending held s ↔
      ∀ t, D.Rely held s t → D.inv t → Q () pending (held ++ [l]) t := Iff.rfl

theorem safe_change {Q : Unit → (σ → σ) → List (Lock κ) → σ → Prop}
    {locks : σ → List (Lock κ)} {effect : σ → σ → σ} :
    Safe D Q (Script.change locks effect : Script σ κ ε Unit) pending held s ↔
      ∀ t, D.Rely held s t → D.inv t →
        Q () (fun u => effect (pending t) (pending u)) (held ++ locks (pending t)) t := Iff.rfl

theorem safe_insert {Q : Unit → (σ → σ) → List (Lock κ) → σ → Prop} {locks : List (Lock κ)}
    {taken : σ → Bool} {effect : σ → σ} {e : ε} :
    Safe D Q (Script.insert locks taken effect e : Script σ κ ε Unit) pending held s ↔
      ∀ t, D.Rely held s t → D.inv t → taken (pending t) = false →
        Q () (fun u => effect (pending u)) (held ++ locks) t := by
  simp only [Script.insert, Safe]
  refine forall_congr' fun t => forall_congr' fun _ => forall_congr' fun _ => ?_
  cases taken (pending t) <;> simp [Safe]

theorem safe_require {o : Option α} {e : ε} :
    Safe D Q (Script.require o e : Script σ κ ε α) pending held s ↔
      ∀ a, o = some a → Q a pending held s := by
  cases o with
  | none => simp [Script.require, Safe]
  | some a => simp [Script.require, Safe]

theorem safe_ensure {Q : Unit → (σ → σ) → List (Lock κ) → σ → Prop} {c : Prop} [Decidable c]
    {e : ε} :
    Safe D Q (Script.ensure c e : Script σ κ ε Unit) pending held s ↔ (c → Q () pending held s) := by
  by_cases h : c <;> simp [Script.ensure, Safe, h]

/-- What the locks keep, from here to the end of the script. -/
theorem Safe.carry {S : List (Lock κ) → σ → Prop}
    (rely : ∀ {L s t}, S L s → D.Rely L s t → S L t) (append : ∀ {L M s}, S L s → S (L ++ M) s)
    {m : Script σ κ ε α} (here : S held s)
    (safe : Safe D (fun a p L s => S L s → Q a p L s) m pending held s) :
    Safe D Q m pending held s := by
  induction m generalizing pending held s with
  | done a => exact safe here
  | raise e => trivial
  | statement locks effect next ih =>
      intro t others inv
      exact ih _ (append (rely here others)) (safe t others inv)

/-- What the locks held here protect is at the end of the script as it is here. -/
theorem Safe.since {m : Script σ κ ε α}
    (safe : Safe D (fun a p L t => D.Rely held s t → held ⊆ L → Q a p L t) m pending held s) :
    Safe D Q m pending held s := by
  refine Safe.carry (S := fun L t => D.Rely held s t ∧ held ⊆ L) ?_ ?_
    ⟨.refl, List.Subset.refl held⟩ ?_
  · intro L t u since rely
    exact ⟨since.1.trans ⟨rely.1, fun l mem => rely.2 l (since.2 mem)⟩, since.2⟩
  · intro L M t since
    exact ⟨since.1, fun l mem => List.mem_append_left M (since.2 mem)⟩
  · exact Safe.mono (fun a p L t next since => next since.1 since.2) safe

/-- A script in progress stands up to one more commit of the others. -/
theorem Safe.interfere {good : α → σ → σ → Prop} {m : Script σ κ ε α}
    (safe : Safe D (Commits D good) m pending held s) (rely : D.Rely held s t) :
    Safe D (Commits D good) m pending held t := by
  cases m with
  | done a => exact fun u more inv => safe u (rely.trans more) inv
  | raise e => trivial
  | statement locks effect next => exact fun u more inv => safe u (rely.trans more) inv

end Verification

/-- A transaction that has begun. -/
structure Process (σ κ ε α : Type) where
  rest : Script σ κ ε α
  pending : σ → σ := id
  held : List (Lock κ) := []

structure Commit (σ α : Type) where
  answer : α
  before : σ
  after : σ

structure Pool (σ κ ε α : Type) where
  store : σ
  processes : List (Option (Process σ κ ε α)) := []
  commits : List (Commit σ α) := []

inductive PoolAction (ρ : Type) where
  | start (request : ρ)
  | proceed (i : Nat)
  | abort (i : Nat)

namespace Pool
variable {σ κ ε α ρ : Type}

def running (s : Pool σ κ ε α) (i : Nat) : Option (Process σ κ ε α) := (s.processes[i]?).join

/-- The locks of all but one. -/
def heldElsewhere (s : Pool σ κ ε α) (i : Nat) : List (Lock κ) :=
  (s.processes.set i none).flatMap fun p => (p.map (·.held)).getD []

variable [DecidableEq κ] (program : ρ → Script σ κ ε α)

def next (s : Pool σ κ ε α) : PoolAction ρ → Pool σ κ ε α
  | .start request => { s with processes := s.processes ++ [some { rest := program request }] }
  | .proceed i =>
      match s.running i with
      | none => s
      | some p =>
          match p.rest with
          | .raise _ => { s with processes := s.processes.set i none }
          | .done a => { s with
              store := p.pending s.store
              processes := s.processes.set i none
              commits := s.commits ++ [⟨a, s.store, p.pending s.store⟩] }
          | .statement locks effect rest =>
              let view := p.pending s.store
              -- The statement waits while another holds a lock it needs.
              if Lock.Apart (locks view) (s.heldElsewhere i) then { s with
                processes := s.processes.set i
                  (some ⟨rest view, fun u => effect view (p.pending u), p.held ++ locks view⟩) }
              else s
  | .abort i => { s with processes := s.processes.set i none }

def machine : Machine (Pool σ κ ε α) (PoolAction ρ) Unit where
  next s a := (s.next program a, ())

omit [DecidableEq κ]

theorem running_set {s : Pool σ κ ε α} {i : Nat} {p q : Option (Process σ κ ε α)} {j : Nat}
    (there : s.processes[i]? = some p) :
    ((s.processes.set i q)[j]?).join = if j = i then q else s.running j := by
  rw [getElem?_set_of_some there]
  split
  · rfl
  · rfl

theorem mem_heldElsewhere {s : Pool σ κ ε α} {i j : Nat} {p : Process σ κ ε α} {l : Lock κ}
    (there : s.running j = some p) (ne : j ≠ i) (mem : l ∈ p.held) : l ∈ s.heldElsewhere i := by
  have at_j : s.processes[j]? = some (some p) := Option.join_eq_some_iff.mp there
  refine List.mem_flatMap.mpr ⟨some p, ?_, mem⟩
  refine List.mem_iff_getElem?.mpr ⟨j, ?_⟩
  rw [List.getElem?_set_ne ne.symm, at_j]

/-- The discipline is kept: the committed state has its invariant, no two transactions hold
conflicting locks, each can still be finished whatever the others do, and each commit so far
was good. -/
structure Sound (D : Discipline σ κ) (good : α → σ → σ → Prop) (s : Pool σ κ ε α) : Prop where
  inv : D.inv s.store
  apart : ∀ {i j p q}, s.running i = some p → s.running j = some q → i ≠ j →
    Lock.Apart p.held q.held
  safe : ∀ {i p}, s.running i = some p → Safe D (Commits D good) p.rest p.pending p.held s.store
  good : ∀ c ∈ s.commits, good c.answer c.before c.after
  since : ∀ c ∈ s.commits, D.always c.after s.store
  ordered : s.commits.Pairwise fun c c' => D.always c.after c'.before

section
variable {D : Discipline σ κ} {good : α → σ → σ → Prop} {s : Pool σ κ ε α} {i : Nat}

theorem sound_init {db : σ} (inv : D.inv db) :
    Sound D good ({ store := db } : Pool σ κ ε α) where
  inv
  apart h := by cases h
  safe h := by cases h
  good c mem := by cases mem
  since c mem := by cases mem
  ordered := .nil

theorem Sound.remove (sound : Sound D good s) (i : Nat) :
    Sound D good { s with processes := s.processes.set i none } := by
  have old : ∀ {j p}, running { s with processes := s.processes.set i none } j = some p →
      s.running j = some p := by
    intro j p h
    simp only [running, List.getElem?_set] at h
    split at h
    · split at h <;> cases h
    · exact h
  exact ⟨sound.inv, fun hp hq => sound.apart (old hp) (old hq), fun h => sound.safe (old h),
    sound.good, sound.since, sound.ordered⟩

theorem Sound.start (sound : Sound D good s) {m : Script σ κ ε α}
    (safe : Safe D (Commits D good) m id [] s.store) :
    Sound D good { s with processes := s.processes ++ [some { rest := m }] } := by
  have split : ∀ {j p}, running { s with processes := s.processes ++ [some { rest := m }] } j =
      some p → s.running j = some p ∨ p = { rest := m } := by
    intro j p h
    simp only [running, List.getElem?_append, List.getElem?_singleton] at h
    split at h
    · exact .inl h
    · split at h
      · exact .inr (Option.some.inj h).symm
      · cases h
  refine ⟨sound.inv, fun {i j p q} hp hq ne => ?_, fun {i p} hp => ?_, sound.good, sound.since,
    sound.ordered⟩
  · cases split hp with
    | inr new =>
        subst new
        exact Lock.apart_nil _
    | inl hp =>
        cases split hq with
        | inr new =>
            subst new
            exact (Lock.apart_nil _).symm
        | inl hq => exact sound.apart hp hq ne
  · cases split hp with
    | inr new =>
        subst new
        exact safe
    | inl hp => exact sound.safe hp

theorem Sound.commit (sound : Sound D good s) {p : Process σ κ ε α} {a : α}
    (there : s.running i = some p) (ended : p.rest = .done a) :
    Sound D good { s with
      store := p.pending s.store
      processes := s.processes.set i none
      commits := s.commits ++ [⟨a, s.store, p.pending s.store⟩] } := by
  have mine := sound.safe there
  rw [ended] at mine
  obtain ⟨inv, guarantee, fine⟩ := mine s.store .refl sound.inv
  have at_i : s.processes[i]? = some (some p) := Option.join_eq_some_iff.mp there
  have old : ∀ {j q}, ((s.processes.set i none)[j]?).join = some q →
      j ≠ i ∧ s.running j = some q := by
    intro j q h
    rw [running_set at_i] at h
    split at h
    · cases h
    · rename_i ne
      exact ⟨ne, h⟩
  refine ⟨inv, fun hp hq => sound.apart (old hp).2 (old hq).2, fun {j q} h => ?_, ?_, ?_, ?_⟩
  · obtain ⟨ne, h⟩ := old h
    exact (sound.safe h).interfere (guarantee.rely (sound.apart there h ne.symm))
  · intro c mem
    rcases List.mem_append.mp mem with mem | mem
    · exact sound.good c mem
    · cases List.mem_singleton.mp mem
      exact fine
  · intro c mem
    rcases List.mem_append.mp mem with mem | mem
    · exact D.always_trans (sound.since c mem) guarantee.1
    · cases List.mem_singleton.mp mem
      exact D.always_refl _
  · refine List.pairwise_append.mpr ⟨sound.ordered, List.pairwise_singleton _ _, ?_⟩
    intro c mem c' last
    cases List.mem_singleton.mp last
    exact sound.since c mem

theorem Sound.advance [DecidableEq κ] (sound : Sound D good s) {p : Process σ κ ε α}
    {locks : σ → List (Lock κ)} {effect : σ → σ → σ} {rest : σ → Script σ κ ε α}
    (there : s.running i = some p) (at_ : p.rest = .statement locks effect rest)
    (free : Lock.Apart (locks (p.pending s.store)) (s.heldElsewhere i)) :
    Sound D good { s with
      processes := s.processes.set i (some ⟨rest (p.pending s.store),
        fun u => effect (p.pending s.store) (p.pending u),
        p.held ++ locks (p.pending s.store)⟩) } := by
  have at_i : s.processes[i]? = some (some p) := Option.join_eq_some_iff.mp there
  have mine := sound.safe there
  rw [at_] at mine
  have apart : ∀ {j q}, s.running j = some q → j ≠ i →
      Lock.Apart (p.held ++ locks (p.pending s.store)) q.held := by
    intro j q h ne
    refine Lock.apart_append.mpr ⟨sound.apart there h ne.symm, ?_⟩
    exact fun a left b right => free a left b (mem_heldElsewhere h ne right)
  have split : ∀ {j q r}, ((s.processes.set i r)[j]?).join = some q →
      (j = i ∧ r = some q) ∨ (j ≠ i ∧ s.running j = some q) := by
    intro j q r h
    rw [running_set at_i] at h
    split at h
    · exact .inl ⟨‹_›, h⟩
    · exact .inr ⟨‹_›, h⟩
  refine ⟨sound.inv, fun {j k q r} hq hr ne => ?_, fun {j q} h => ?_, sound.good, sound.since,
    sound.ordered⟩
  · rcases split hq with ⟨first, same⟩ | ⟨nj, old⟩
    · rcases split hr with ⟨second, -⟩ | ⟨nk, old'⟩
      · exact absurd (first.trans second.symm) ne
      · cases same
        exact apart old' nk
    · rcases split hr with ⟨-, same⟩ | ⟨-, old'⟩
      · cases same
        exact (apart old nj).symm
      · exact sound.apart old old' ne
  · rcases split h with ⟨rfl, same⟩ | ⟨ne, h⟩
    · cases same
      exact mine s.store .refl sound.inv
    · exact sound.safe h

variable [DecidableEq κ] {program : ρ → Script σ κ ε α}

theorem Sound.step (verified : ∀ r db, D.inv db → Safe D (Commits D good) (program r) id [] db)
    (sound : Sound D good s) (a : PoolAction ρ) : Sound D good ((machine program).step s a) := by
  change Sound D good (s.next program a)
  cases a with
  | start r => exact sound.start (verified r _ sound.inv)
  | abort i => exact sound.remove i
  | proceed i =>
      simp only [next]
      cases there : s.running i with
      | none => exact sound
      | some p =>
          simp only
          split
          · exact sound.remove i
          · exact sound.commit there ‹_›
          · split
            · exact sound.advance there ‹_› ‹_›
            · exact sound

/-- Transactions that are verified one by one are sound together, however they interleave. -/
theorem Sound.run (verified : ∀ r db, D.inv db → Safe D (Commits D good) (program r) id [] db)
    (sound : Sound D good s) (as : List (PoolAction ρ)) :
    Sound D good ((machine program).run s as) :=
  Machine.invariant_run (I := Sound D good) (fun _ a sound _ => Sound.step verified sound a) sound
    ((machine program).along_true s as)

end

/-- The commits of a pool, each on the state the one before it left. -/
def Chained : σ → List (Commit σ α) → σ → Prop
  | s, [], t => s = t
  | s, c :: cs, t => c.before = s ∧ Chained c.after cs t

theorem Chained.snoc {s t : σ} {cs : List (Commit σ α)} (h : Chained s cs t) (a : α) (u : σ) :
    Chained s (cs ++ [⟨a, t, u⟩]) u := by
  induction cs generalizing s with
  | nil => exact ⟨h.symm, rfl⟩
  | cons c cs ih => exact ⟨h.1, ih h.2⟩

/-- What every commit adds to a count is what the run has added to it. -/
theorem Chained.count {s t : σ} {cs : List (Commit σ α)} (h : Chained s cs t) {f : σ → Nat}
    {w : Commit σ α → Bool}
    (each : ∀ c ∈ cs, f c.after = f c.before + if w c then 1 else 0) :
    f t = f s + cs.countP w := by
  induction cs generalizing s with
  | nil =>
      cases h
      rfl
  | cons c cs ih =>
      have here := each c List.mem_cons_self
      rw [ih h.2 fun c mem => each c (List.mem_cons_of_mem _ mem), here, h.1, List.countP_cons]
      omega

theorem chained_run [DecidableEq κ] (program : ρ → Script σ κ ε α) {db : σ}
    (as : List (PoolAction ρ)) :
    Chained db ((machine program).run { store := db } as).commits
      ((machine program).run { store := db } as).store := by
  have start : Chained db ({ store := db } : Pool σ κ ε α).commits db := rfl
  refine Machine.invariant_run (I := fun s : Pool σ κ ε α => Chained db s.commits s.store)
    (fun s a h _ => ?_) start ((machine program).along_true { store := db } as)
  change Chained db (s.next program a).commits (s.next program a).store
  cases a with
  | start r => exact h
  | abort i => exact h
  | proceed i =>
      simp only [next]
      cases s.running i with
      | none => exact h
      | some p =>
          simp only
          split
          · exact h
          · exact h.snoc _ _
          · split
            · exact h
            · exact h

end Pool
end Library
