import CoffeeCloud.Library.Table

/-!
Dictionaries that keep the order in which their keys were first set, and loops over
them that change the entry of another map under each key.
-/
namespace Library

structure DictEntry (κ β : Type) where
  key : κ
  value : β

instance {κ β : Type} : Keyed (DictEntry κ β) κ := ⟨DictEntry.key⟩

abbrev Dict (κ β : Type) := Table (DictEntry κ β)

namespace Dict
variable {κ β γ : Type} [DecidableEq κ]

def get? (d : Dict κ β) (k : κ) : Option β := (d.find? k).map (·.value)

/-- `d[k] = v`. -/
def set (d : Dict κ β) (k : κ) (v : β) : Dict κ β :=
  match d.find? k with
  | none => d.insert ⟨k, v⟩
  | some _ => d.modify k fun e => { e with value := v }

/-- `d.update(other)`, the other as a list of its items. -/
def update (d : Dict κ β) (items : List (κ × β)) : Dict κ β :=
  items.foldl (fun d i => d.set i.1 i.2) d

def items (d : Dict κ β) : List (κ × β) := d.rows.map fun e => (e.key, e.value)

theorem get?_empty (k : κ) : get? (Table.empty : Dict κ β) k = none := rfl

theorem get?_set (d : Dict κ β) (k i : κ) (v : β) :
    (d.set k v).get? i = if i = k then some v else d.get? i := by
  simp only [set, get?]
  cases found : d.find? k with
  | none =>
      rw [Table.find?_insert d ⟨k, v⟩ i found]
      simp only [Keyed.key]
      split <;> rfl
  | some e =>
      rw [Table.find?_modify]
      split
      · rename_i same
        rw [same, found]
        rfl
      · rfl

theorem length_set (d : Dict κ β) (k : κ) (v : β) :
    (d.set k v).rows.length =
      if (d.get? k).isNone then d.rows.length + 1 else d.rows.length := by
  unfold set get?
  split
  · rename_i none
    rw [Table.rows_insert d ⟨k, v⟩ none, none]
    simp
  · rename_i e found
    rw [found]
    simp [Table.modify, Table.modifyWhere]

/-- What a loop over rows of different keys does to the entry under one of them. -/
theorem foldl_rows (g : β → γ → γ) (k : κ) {rows : List (DictEntry κ β)}
    (distinct : (rows.map DictEntry.key).Nodup) (m : κ → γ) :
    rows.foldl (fun m e => fun k => if k = e.key then g e.value (m k) else m k) m k =
      ((rows.find? fun e => e.key = k).map fun e => g e.value (m k)).getD (m k) := by
  induction rows generalizing m with
  | nil => rfl
  | cons e rows ih =>
      rw [List.map_cons, List.nodup_cons] at distinct
      rw [List.foldl_cons, ih distinct.2, List.find?_cons]
      by_cases here : e.key = k
      · have none : rows.find? (fun e => e.key = k) = .none := by
          rw [List.find?_eq_none]
          intro x mem same
          exact distinct.1 (List.mem_map.mpr ⟨x, mem, (of_decide_eq_true same).trans here.symm⟩)
        simp [none, here]
      · simp [here, Ne.symm here]

/-- A loop over the items that changes the entry of another map under each key. -/
theorem foldl_items (g : β → γ → γ) (d : Dict κ β) (m : κ → γ) (k : κ) :
    d.items.foldl (fun m i => fun k => if k = i.1 then g i.2 (m k) else m k) m k =
      ((d.get? k).map fun v => g v (m k)).getD (m k) := by
  rw [items, List.foldl_map, foldl_rows g k d.distinct, get?, Option.map_map]
  rfl

theorem get?_update (d : Dict κ β) (items : List (κ × β)) (k : κ) :
    (d.update items).get? k = ((items.reverse.find? fun i => i.1 = k).map (·.2)).or (d.get? k) := by
  induction items generalizing d with
  | nil => rfl
  | cons i items ih =>
      rw [update, List.foldl_cons]
      change (Dict.update (d.set i.1 i.2) items).get? k = _
      rw [ih, List.reverse_cons, List.find?_append, get?_set]
      cases items.reverse.find? fun i => i.1 = k with
      | some j => rfl
      | none =>
          by_cases here : i.1 = k
          · simp [here]
          · simp [here, Ne.symm here]

section Keys
variable {keys : List κ} {distinct : keys.Nodup}

omit [DecidableEq κ] in
theorem ext_rows {d d' : Dict κ β} (same : d.rows = d'.rows) : d = d' := by
  cases d
  cases d'
  congr

/-- The dictionary of these keys, in their order. -/
def ofFn (keys : List κ) (distinct : keys.Nodup) (f : κ → β) : Dict κ β where
  rows := keys.map fun k => ⟨k, f k⟩
  distinct := by
    rw [List.map_map]
    exact (List.map_id keys).symm ▸ distinct

omit [DecidableEq κ] in
@[simp] theorem items_ofFn (f : κ → β) :
    (ofFn keys distinct f).items = keys.map fun k => (k, f k) := by
  rw [items, ofFn, List.map_map]
  rfl

theorem get?_ofFn (f : κ → β) {k : κ} (mem : k ∈ keys) :
    (ofFn keys distinct f).get? k = some (f k) := by
  have row : (⟨k, f k⟩ : DictEntry κ β) ∈ (ofFn keys distinct f).rows := List.mem_map_of_mem mem
  have found := Table.find?_of_mem row
  rw [get?, show (ofFn keys distinct f).find? k = some ⟨k, f k⟩ from found]
  rfl

theorem set_ofFn (f : κ → β) {k : κ} (mem : k ∈ keys) (v : β) :
    (ofFn keys distinct f).set k v = ofFn keys distinct (Function.update f k v) := by
  apply ext_rows
  have there : (ofFn keys distinct f).find? k ≠ none := by
    intro none
    have found : (ofFn keys distinct f).get? k = some (f k) := get?_ofFn f mem
    rw [get?, none] at found
    cases found
  unfold set
  split
  · next none => exact absurd none there
  · simp only [Table.modify, Table.modifyWhere, ofFn, List.map_map]
    apply List.map_congr_left
    intro i _
    by_cases here : i = k
    · subst here
      simp [Keyed.key]
    · simp [Keyed.key, here]

theorem rows_set_new (d : Dict κ β) {k : κ} (new : d.get? k = none) (v : β) :
    (d.set k v).rows = d.rows ++ [⟨k, v⟩] := by
  have none : d.find? k = none := Option.map_eq_none_iff.mp new
  unfold set
  split
  · exact Table.rows_insert d ⟨k, v⟩ none
  · next e found => cases none.symm.trans found

/-- Setting keys one after the other that are all new. -/
theorem foldl_set_rows (f : κ → β) {ks : List κ} (new : ks.Nodup) {d : Dict κ β}
    (apart : ∀ k ∈ ks, d.get? k = none) :
    (ks.foldl (fun d k => d.set k (f k)) d).rows = d.rows ++ ks.map fun k => ⟨k, f k⟩ := by
  induction ks generalizing d with
  | nil => simp
  | cons k ks ih =>
      rw [List.nodup_cons] at new
      have later : ∀ i ∈ ks, (d.set k (f k)).get? i = none := by
        intro i mem
        rw [get?_set, if_neg]
        · exact apart i (List.mem_cons_of_mem k mem)
        · rintro rfl
          exact new.1 mem
      rw [List.foldl_cons, ih new.2 later, rows_set_new d (apart k List.mem_cons_self)]
      simp

theorem foldl_set_empty (f : κ → β) :
    keys.foldl (fun d k => d.set k (f k)) .empty = ofFn keys distinct f := by
  apply ext_rows
  rw [foldl_set_rows f distinct fun k _ => get?_empty k]
  rfl

end Keys

theorem mem_items_of_get? {d : Dict κ β} {k : κ} {v : β} (h : d.get? k = some v) :
    (k, v) ∈ d.items := by
  obtain ⟨e, found, rfl⟩ := Option.map_eq_some_iff.mp h
  exact List.mem_map.mpr ⟨e, Table.mem_of_find? found, Prod.ext (Table.key_of_find? found) rfl⟩

/-- What every value has, and the new one, every value has then. -/
theorem forall_set {d : Dict κ β} {p : β → Prop} (each : ∀ i ∈ d.items, p i.2) {k : κ} {v : β}
    (new : p v) : ∀ i ∈ (d.set k v).items, p i.2 := by
  intro i mem
  obtain ⟨e, row, rfl⟩ := List.mem_map.mp mem
  have still : ∀ e ∈ d.rows, p e.value := fun e row => each (e.key, e.value) (List.mem_map_of_mem row)
  cases found : d.find? k with
  | none =>
      have none : d.get? k = .none := by rw [get?, found]; rfl
      rw [rows_set_new d none, List.mem_append, List.mem_singleton] at row
      rcases row with row | rfl
      · exact still e row
      · exact new
  | some old =>
      simp only [set, found] at row
      obtain ⟨x, there, rfl⟩ := List.mem_map.mp row
      split
      · exact new
      · exact still x there

section Sum
variable [AddCommMonoid β]

theorem sum_modify {d : Dict κ β} {k : κ} {e : DictEntry κ β} (found : d.find? k = some e) (v : β) :
    ((items (d.modify k fun x => { x with value := e.value + v })).map (·.2)).sum =
      (d.items.map (·.2)).sum + v := by
  obtain ⟨rows, distinct⟩ := d
  simp only [items, Table.modify, Table.modifyWhere, Table.find?, List.map_map] at found ⊢
  induction rows with
  | nil => cases found
  | cons x xs ih =>
      rw [List.map_cons, List.nodup_cons] at distinct
      rw [List.find?_cons] at found
      by_cases here : Keyed.key x = k
      · simp only [here, decide_true, Option.some.injEq] at found
        subst found
        have rest : xs.map ((fun i : κ × β => i.2) ∘ (fun e : DictEntry κ β => (e.key, e.value)) ∘
            fun y => if decide (Keyed.key y = k) then { y with value := x.value + v } else y) =
            xs.map ((fun i : κ × β => i.2) ∘ fun e => (e.key, e.value)) := by
          apply List.map_congr_left
          intro y mem
          have ne : Keyed.key y ≠ k := by
            intro same
            exact distinct.1 (here ▸ same ▸ List.mem_map_of_mem mem)
          simp [ne]
        rw [List.map_cons, List.sum_cons, rest, List.map_cons, List.sum_cons]
        simp only [Function.comp_apply, here, decide_true, if_true]
        rw [add_right_comm]
      · simp only [here, decide_false] at found
        have rest := ih distinct.2 found
        rw [List.map_cons, List.sum_cons, List.map_cons, List.sum_cons, rest]
        simp only [Function.comp_apply, here, decide_false, Bool.false_eq_true, if_false]
        rw [add_assoc]

/-- Adding to the value of a key, which counts as nothing where it is new, adds to the sum. -/
theorem sum_set (d : Dict κ β) (k : κ) (v : β) :
    ((d.set k ((d.get? k).getD 0 + v)).items.map (·.2)).sum = (d.items.map (·.2)).sum + v := by
  cases found : d.find? k with
  | none =>
      have none : d.get? k = .none := by rw [get?, found]; rfl
      simp only [items, List.map_map]
      rw [rows_set_new d none, none]
      simp
  | some e =>
      have there : d.get? k = some e.value := by rw [get?, found]; rfl
      rw [there]
      unfold set
      rw [found]
      exact sum_modify found v

end Sum

end Dict
end Library
