import CoffeeCloud.Library.Dict

/-!
Counters: dictionaries from keys to how often each is held, without an entry for a
key that is not. Keys are taken and given back one by one.
-/
namespace Library

abbrev Counter (κ : Type) := Dict κ Int

namespace Counter
variable {κ : Type} [DecidableEq κ]

/-- `c[k]`, which adds no entry. -/
def count (c : Counter κ) (k : κ) : Int := (Dict.get? c k).getD 0

/-- `c[k] = n`. -/
def set (c : Counter κ) (k : κ) (n : Int) : Counter κ := Dict.set c k n

/-- `del c[k]`. -/
def del (c : Counter κ) (k : κ) : Counter κ := c.deleteWhere fun e => e.key = k

def take (c : Counter κ) (k : κ) : Counter κ := c.set k (c.count k + 1)

/-- Give back a key once, and drop its entry where it is not held any more. -/
def giveBack (c : Counter κ) (k : κ) : Counter κ :=
  let next := c.set k (c.count k - 1)
  if next.count k = 0 then next.del k else next

/-- `c.update(keys)`. -/
def update (c : Counter κ) (ks : List κ) : Counter κ := ks.foldl take c

def release (c : Counter κ) (ks : List κ) : Counter κ := ks.foldl giveBack c

/-- The counter shows how often each key is held, and has no entry for the others. -/
def Shows (c : Counter κ) (held : κ → Nat) : Prop :=
  ∀ k, Dict.get? c k = if held k = 0 then none else some (held k : Int)

variable {c : Counter κ} {held : κ → Nat}

theorem get?_set (c : Counter κ) (k i : κ) (n : Int) :
    Dict.get? (c.set k n) i = if i = k then some n else Dict.get? c i := Dict.get?_set c k i n

theorem get?_del (c : Counter κ) (k i : κ) :
    Dict.get? (c.del k) i = if i = k then none else Dict.get? c i := by
  simp only [Dict.get?, del, Table.find?_deleteWhere]
  cases found : c.find? i with
  | none => simp
  | some e =>
      have key : e.key = i := Table.key_of_find? found
      by_cases same : i = k <;> simp [key, same]

theorem shows_empty : Shows (Table.empty : Counter κ) fun _ => 0 := fun _ => rfl

theorem Shows.count (shows : c.Shows held) (k : κ) : c.count k = held k := by
  rw [Counter.count, shows k]
  split
  · rename_i zero
    simp [zero]
  · rfl

theorem Shows.congr {other : κ → Nat} (shows : c.Shows held) (same : ∀ k, other k = held k) :
    c.Shows other := by
  intro k
  rw [shows k, same k]

theorem Shows.take (shows : c.Shows held) (j : κ) :
    (c.take j).Shows fun k => held k + [j].count k := by
  intro k
  rw [Counter.take, get?_set, shows.count]
  by_cases same : k = j
  · simp [same]
  · simp [same, Ne.symm same, shows k]

theorem Shows.giveBack {j : κ} (shows : c.Shows held) (mine : 0 < held j) :
    (c.giveBack j).Shows fun k => held k - [j].count k := by
  have before : c.count j - 1 = ((held j - 1 : Nat) : Int) := by
    rw [shows.count]
    omega
  have left : (c.set j (c.count j - 1)).count j = ((held j - 1 : Nat) : Int) := by
    rw [Counter.count, get?_set, if_pos rfl, before]
    rfl
  intro k
  simp only [Counter.giveBack, left]
  by_cases last : held j = 1
  · rw [if_pos (by simp [last]), get?_del, get?_set]
    by_cases same : k = j
    · simp [same, last]
    · simp [same, Ne.symm same, shows k]
  · rw [if_neg (by omega), get?_set, before]
    by_cases same : k = j
    · have more : ¬ held j - 1 = 0 := by omega
      simp [same, more]
    · simp [same, Ne.symm same, shows k]

theorem Shows.update (ks : List κ) (shows : c.Shows held) :
    (c.update ks).Shows fun k => held k + ks.count k := by
  induction ks generalizing c held with
  | nil => exact shows
  | cons j ks ih =>
      refine (ih (shows.take j)).congr fun k => ?_
      rw [← List.singleton_append, List.count_append]
      omega

theorem Shows.release (ks : List κ) (shows : c.Shows held) (mine : ∀ k, ks.count k ≤ held k) :
    (c.release ks).Shows fun k => held k - ks.count k := by
  induction ks generalizing c held with
  | nil => exact shows
  | cons j ks ih =>
      have first := mine j
      rw [List.count_cons_self] at first
      refine (ih (shows.giveBack (by omega)) fun k => ?_).congr fun k => ?_
      · have all := mine k
        rw [← List.singleton_append, List.count_append] at all
        omega
      · rw [← List.singleton_append, List.count_append]
        omega

end Counter
end Library
