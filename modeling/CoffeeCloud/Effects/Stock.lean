import CoffeeCloud.Services.Stock

/-!
What the stock book becomes. A place holds a quantity and, where it is known, a value;
a movement enters it, and what is emptied is worth nothing. One movement that is
entered changes one row and adds one row to the journal.
-/
namespace CoffeeCloud
open Library Tx MerchantCosts

/-- What a place holds, and what that is worth where it is known. -/
structure Holding where
  quantity : Int := 0
  value : Option Int := some 0

def StockRow.holding (r : StockRow) : Holding := ⟨r.quantity, r.valueMinor⟩

namespace Movement

def place (m : Movement) : StockKey := (m.tenantId, m.materialId, m.locationKey)

/-- What the movement brings, or takes with it. -/
def worth (m : Movement) : Option Int :=
  m.amountMinor.map fun a => if m.quantity < 0 then -a else a

/-- The row its place is opened with. -/
def opened (m : Movement) : StockRow where
  tenantId := m.tenantId
  materialId := m.materialId
  locationKey := m.locationKey
  storeId := m.storeId
  terminalId := m.terminalId

end Movement

namespace Holding

def enter (h : Holding) (m : Movement) : Holding where
  quantity := h.quantity + m.quantity
  value :=
    if h.quantity + m.quantity = 0 then some 0 else h.value.bind fun v => m.worth.map (v + ·)

structure Sound (h : Holding) : Prop where
  nonneg : 0 ≤ h.quantity
  fits : h.quantity < 10 ^ 24
  worthless : h.quantity = 0 → h.value = some 0
  value_nonneg : ∀ v, h.value = some v → 0 ≤ v

theorem sound_empty : Sound {} where
  nonneg := le_rfl
  fits := by decide
  worthless _ := rfl
  value_nonneg v eq := (Option.some.inj eq).le

end Holding

section Charge
variable {v b q : Int}

theorem charge_eq (v b q : Int) :
    charge v b q = halfUp (portion 28 v (b / 10 ^ 6) (q / 10 ^ 6)) := rfl

/-- A part of what a place holds is charged between nothing and all its value. -/
theorem charge_bounds (value : 0 ≤ v) (pos : 0 < q) (part : q < b) (fits : b < 10 ^ 24) :
    0 ≤ charge v b q ∧ charge v b q ≤ v := by
  have total : (0 : Rat) ≤ v := by exact_mod_cast value
  have units : (0 : Rat) < b / 10 ^ 6 := by
    have : (0 : Rat) < b := by exact_mod_cast pos.trans part
    positivity
  have taken : (0 : Rat) ≤ q / 10 ^ 6 := by
    have : (0 : Rat) ≤ q := by exact_mod_cast pos.le
    positivity
  have less : (q : Rat) + 1 ≤ b := by exact_mod_cast part
  have size : (q : Rat) < 10 ^ 24 := by exact_mod_cast part.trans fits
  have left : (q / 10 ^ 6 : Rat) + 2 * (q / 10 ^ 6) * 10 ^ (1 - (28 : Nat) : Int) ≤ b / 10 ^ 6 := by
    norm_num
    linarith
  rw [charge_eq]
  constructor
  · refine Average.le_halfUp ?_
    rw [Int.cast_zero]
    exact Average.portion_nonneg total units taken
  · exact Average.halfUp_le (Average.portion_le (by decide) total units taken left)

theorem share_units (v b q : Int) : (q / 10 ^ 6 : Rat) * v / (b / 10 ^ 6) = v * q / b := by
  by_cases empty : (b : Rat) = 0
  · simp [empty]
  · field_simp

/-- What a part is charged is never off by more than the rounding and a ten-millionth, and it is
the exact share rounded half up if and only if the half that decides, less half a last place, is
reached by the quantity times the average as it is by the exact share. -/
theorem charge_exact (value : 0 ≤ v) (range : v < 2 ^ 63) (pos : 0 < q) (part : q < b) :
    |(charge v b q : Rat) - v * q / b| ≤ 1 / 2 + 1 / 10 ^ 7 ∧
      (charge v b q = halfUp (v * q / b) ↔
        ((⌊(v * q / b : Rat)⌋ : Rat) + 1 / 2 ≤ v * q / b ↔
          (⌊(v * q / b : Rat)⌋ : Rat) + 1 / 2 - lastPlace 28 (⌊(v * q / b : Rat)⌋ + 1 / 2) / 2 ≤
            q / 10 ^ 6 * unitCost v b)) := by
  have total : (0 : Rat) ≤ v := by exact_mod_cast value
  have whole : (0 : Rat) < b := by exact_mod_cast pos.trans part
  have units : (0 : Rat) < b / 10 ^ 6 := by positivity
  have taken : (0 : Rat) ≤ q / 10 ^ 6 := by
    have : (0 : Rat) ≤ q := by exact_mod_cast pos.le
    positivity
  have bounded : (v * q / b : Rat) < 2 ^ 63 := by
    have less : (q : Rat) ≤ b := by exact_mod_cast part.le
    have top : (v : Rat) < 2 ^ 63 := by exact_mod_cast range
    rw [div_lt_iff₀ whole]
    calc (v * q : Rat) ≤ v * b := mul_le_mul_of_nonneg_left less total
      _ < 2 ^ 63 * b := mul_lt_mul_of_pos_right top whole
  have error := Average.abs_portion_sub_le (p := 28) (by decide) total units taken
  have exact_iff := Average.halfUp_portion_iff (p := 28) (k := 20) (by decide) total units taken
    (by rw [share_units]; linarith) (by rw [share_units]; norm_num; linarith)
  rw [share_units] at error exact_iff
  rw [charge_eq]
  refine ⟨?_, exact_iff⟩
  have rounding := Average.abs_halfUp_sub_le (portion 28 v (b / 10 ^ 6) (q / 10 ^ 6))
  have sum := abs_sub_le (halfUp (portion 28 v (b / 10 ^ 6) (q / 10 ^ 6)) : Rat)
    (portion 28 v (b / 10 ^ 6) (q / 10 ^ 6)) (v * q / b)
  have small : 2 * (v * q / b : Rat) * 10 ^ (1 - (28 : Nat) : Int) ≤ 1 / 10 ^ 7 := by
    norm_num
    linarith
  linarith

/-- Half of what is worth 11 is charged 5, not 6: the average of six units is rounded down, and half
of the units times it stays below the half that the exact share reaches. -/
theorem charge_exact_half :
    |(charge 11 6000000 3000000 : Rat) - (11 : Int) * (3000000 : Int) / (6000000 : Int)|
        ≤ 1 / 2 + 1 / 10 ^ 7 ∧
      charge 11 6000000 3000000 = 5 ∧
      halfUp ((11 : Int) * (3000000 : Int) / (6000000 : Int)) = 6 ∧
      (3000000 : Int) / 10 ^ 6 * unitCost 11 6000000 < 5 + 1 / 2 - lastPlace 28 (5 + 1 / 2) / 2 := by
  obtain ⟨near, sides⟩ := charge_exact (v := 11) (b := 6000000) (q := 3000000)
    (by decide) (by decide) (by decide) (by decide)
  have short : charge 11 6000000 3000000 = 5 := by decide +kernel
  have share : halfUp ((11 : Int) * (3000000 : Int) / (6000000 : Int)) = 6 := by
    decide +kernel
  refine ⟨near, short, share, lt_of_not_ge fun reached => ?_⟩
  have whole : ⌊((11 : Int) * (3000000 : Int) / (6000000 : Int) : Rat)⌋ = 5 := by norm_num
  rw [whole, short, share] at sides
  exact absurd (sides.mpr ⟨fun _ => by exact_mod_cast reached, fun _ => by norm_num⟩) (by decide)

end Charge

section Weigh
variable {row : StockRow} {m : Movement}

/-- Weighing with the cost that came out of it comes to the same. -/
theorem weigh_again (row : StockRow) (qty : Int) (incoming : Option Int) :
    weigh row qty (weigh row qty incoming).cost = weigh row qty incoming := by
  by_cases out : qty < 0 <;> simp [weigh, out]

theorem weigh_into {row : StockRow} {qty : Int} (into : 0 ≤ qty) (incoming : Option Int) :
    (weigh row qty incoming).cost = incoming := by
  simp [weigh, not_lt.mpr into]

/-- What a movement leaves is what its place holds once it has entered. -/
theorem weigh_remaining (enough : 0 ≤ row.quantity + m.quantity) (moves : m.quantity ≠ 0)
    (sound : row.holding.Sound) (cost : m.amountMinor = (weigh row m.quantity m.amountMinor).cost) :
    (weigh row m.quantity m.amountMinor).remaining = (row.holding.enter m).value := by
  have before : 0 ≤ row.quantity := sound.nonneg
  unfold Holding.enter Movement.worth
  rcases lt_or_gt_of_ne moves with out | into
  · have stocked : row.quantity ≠ 0 := by omega
    by_cases emptied : row.quantity + m.quantity = 0
    · simp [weigh, out, emptied, StockRow.holding]
    · rw [cost]
      cases known : row.valueMinor <;>
        simp [weigh, out, emptied, stocked, known, StockRow.holding, Int.sub_eq_add_neg]
  · have kept : ¬ m.quantity < 0 := by omega
    have filled : row.quantity + m.quantity ≠ 0 := by omega
    simp only [weigh, StockRow.holding, kept, filled, if_false]
    cases row.valueMinor <;> cases m.amountMinor <;> rfl

/-- What leaves a place is charged between nothing and all its value. -/
theorem weigh_cost (enough : 0 ≤ row.quantity + m.quantity) (out : m.quantity < 0)
    (sound : row.holding.Sound) {c : Int}
    (cost : (weigh row m.quantity m.amountMinor).cost = some c) :
    ∃ v, row.valueMinor = some v ∧ 0 ≤ c ∧ c ≤ v := by
  have stocked : row.quantity ≠ 0 := by omega
  have fits : row.quantity < 10 ^ 24 := sound.fits
  simp only [weigh, out, if_true] at cost
  cases known : row.valueMinor with
  | none => simp [known] at cost
  | some v =>
      have nonneg : 0 ≤ v := sound.value_nonneg v known
      refine ⟨v, rfl, ?_⟩
      by_cases emptied : row.quantity + m.quantity = 0
      · simp only [known, emptied, if_true, Option.some.injEq] at cost
        omega
      · simp only [known, emptied, stocked, if_false, Option.bind_some, ne_eq, not_false_eq_true,
          if_true, Option.some.injEq] at cost
        rw [← cost]
        exact charge_bounds nonneg (by omega) (by omega) fits

/-- What comes in costs something, and what goes out costs no more than all there is. -/
theorem enter_value_nonneg (enough : 0 ≤ row.quantity + m.quantity) (moves : m.quantity ≠ 0)
    (sound : row.holding.Sound) (cost : m.amountMinor = (weigh row m.quantity m.amountMinor).cost)
    (fair : 0 < m.quantity → ∀ a, m.amountMinor = some a → 0 ≤ a) {v : Int}
    (eq : (row.holding.enter m).value = some v) : 0 ≤ v := by
  rw [Holding.enter] at eq
  simp only at eq
  split at eq
  · exact (Option.some.inj eq).le
  · simp only [Option.bind_eq_some_iff, Option.map_eq_some_iff, Movement.worth] at eq
    obtain ⟨v₀, known, w, ⟨a, amount, rfl⟩, rfl⟩ := eq
    have nonneg : 0 ≤ v₀ := sound.value_nonneg v₀ known
    by_cases out : m.quantity < 0
    · obtain ⟨v₁, value, low, high⟩ := weigh_cost enough out sound (cost.symm.trans amount)
      have same : v₁ = v₀ := Option.some.inj (value.symm.trans known)
      rw [if_pos out]
      omega
    · have low := fair (by omega) a amount
      rw [if_neg out]
      omega

end Weigh

/-- What the book says of a place. -/
def bookAt (db : StockDb) (k : StockKey) : Holding := (db.stock.find? k).elim {} StockRow.holding

/-- The row a movement finds at its place. -/
def found (db : StockDb) (m : Movement) : StockRow := (db.stock.find? m.place).getD m.opened

theorem found_holding (db : StockDb) (m : Movement) :
    (found db m).holding = bookAt db m.place := by
  unfold found bookAt
  cases db.stock.find? m.place <;> rfl

theorem found_key (db : StockDb) (m : Movement) : Keyed.key (found db m) = m.place := by
  unfold found
  cases known : db.stock.find? m.place with
  | none => rfl
  | some row => exact Table.key_of_find? known

/-- One movement enters the book: its place had enough, and what it leaves is written there. -/
structure Journaled (m : Movement) (db db' : StockDb) : Prop where
  enough : 0 ≤ (found db m).quantity + m.quantity
  fits : (found db m).quantity + m.quantity < 10 ^ 24
  cost : m.amountMinor = (weigh (found db m) m.quantity m.amountMinor).cost
  fresh : db.movements.find? (Keyed.key m) = none
  result : db' = { db with
    stock := (db.stock.insert m.opened).modify m.place (fun r => { r with
      quantity := (found db m).quantity + m.quantity
      valueMinor := (weigh (found db m) m.quantity m.amountMinor).remaining
      version := r.version + 1 })
    movements := db.movements.insert m }

theorem find?_opened (db : StockDb) (m : Movement) :
    (db.stock.insert m.opened).find? m.place = some (found db m) := by
  unfold found
  cases known : db.stock.find? m.place with
  | none =>
      rw [Table.find?_insert _ _ _ known]
      exact if_pos rfl
  | some row => exact Table.find?_insert_of_some known

variable {p : MerchantPrincipal} {material : Material} {loc : StockLocation} {qty : Int}
  {kind : MovementType} {source : MovementSource} {reason : String} {now : Time}
  {incoming : Option Int}

theorem ran_stock {db db' : StockDb} {row : StockRow}
    (h : Ran (stock p material loc) db row db') :
    db' = { db with stock := db.stock.insert (emptyRow p material loc) } ∧
      db'.stock.find? (p.tenantId, material.id, loc.key) = some row := by
  unfold stock at h
  simp only [ran_write_bind, ran_read_bind, ran_require, Option.filter_eq_some_iff] at h
  obtain ⟨⟨present, -⟩, rfl⟩ := h
  exact ⟨rfl, present⟩

theorem ran_putStock {row : StockRow} {quantity : Int} {value : Option Int} {db db' : StockDb}
    {u : Unit} (h : Ran (putStock row quantity value) db u db') :
    quantity < 10 ^ 24 ∧ db' = { db with
      stock := db.stock.modify (Keyed.key row) fun r => { r with
        quantity, valueMinor := value, version := r.version + 1 } } := by
  unfold putStock at h
  simp only [ran_ensure_bind, ran_write] at h
  exact ⟨h.1, h.2.2.2.2.symm⟩

theorem ran_storedCost {cost : Option Rat} {unit : Option Int} {db db' : StockDb}
    (h : Ran (storedCost cost) db unit db') : db' = db := by
  unfold storedCost at h
  split at h
  · exact ((ran_pure _ _ _ _).mp h).2.symm
  · simp only [ran_ensure_bind, ran_pure] at h
    exact h.2.2.symm

theorem ran_insertMovement {m : Movement} {db db' : StockDb} {u : Unit}
    (h : Ran (insertMovement m) db u db') :
    db.movements.find? (Keyed.key m) = none ∧
      db' = { db with movements := db.movements.insert m } := by
  unfold insertMovement at h
  simp only [ran_ensure_bind, ran_read_bind, ran_write] at h
  exact ⟨by simpa using h.2.1, h.2.2.symm⟩

/-- What `move` does: one movement enters the book, with the cost it answers. -/
theorem ran_move {db db' : StockDb} {a : Movement × Option Int}
    (h : Ran (move p material loc qty kind source reason now incoming) db a db') :
    ∃ cost unit, a = (⟨p.tenantId, material.id, loc.storeId, loc.terminalId, loc.key, kind, qty,
        cost, unit, source, reason, now⟩, cost) ∧ (0 ≤ qty → cost = incoming) ∧
      Journaled a.1 db db' := by
  unfold move at h
  simp only [ran_bind, ran_pure] at h
  obtain ⟨row, db₁, opened, _, db₂, checked, _, db₃, put, unit, db₄, stored, _, db₅, inserted, rfl,
    rfl⟩ := h
  obtain ⟨rfl, present⟩ := ran_stock opened
  obtain ⟨enough, rfl⟩ := (ran_ensure _ _ _ _ _).mp checked
  obtain ⟨fits, rfl⟩ := ran_putStock put
  obtain rfl := ran_storedCost stored
  obtain ⟨fresh, rfl⟩ := ran_insertMovement inserted
  refine ⟨_, unit, rfl, fun into => weigh_into into incoming, ?_⟩
  have same : ∀ cost, found db ⟨p.tenantId, material.id, loc.storeId, loc.terminalId, loc.key, kind,
      qty, cost, unit, source, reason, now⟩ = row := fun cost =>
    Option.some.inj ((find?_opened db _).symm.trans present)
  refine ⟨?_, ?_, ?_, fresh, ?_⟩
  · rw [same]
    exact enough
  · rw [same]
    exact fits
  · rw [same, weigh_again]
  · have placed := found_key db ⟨p.tenantId, material.id, loc.storeId, loc.terminalId, loc.key, kind,
      qty, (weigh row qty incoming).cost, unit, source, reason, now⟩
    rw [same] at placed
    rw [same, weigh_again, ← placed]
    rfl

/-- What the journal says a place holds: its movements, entered one after the other. -/
def held (movements : List Movement) (k : StockKey) : Holding :=
  (movements.filter fun m => m.place = k).foldl Holding.enter {}

theorem held_append (movements : List Movement) (m : Movement) (k : StockKey) :
    held (movements ++ [m]) k =
      if k = m.place then (held movements k).enter m else held movements k := by
  unfold held
  rw [List.filter_append, List.foldl_append]
  by_cases here : k = m.place
  · simp [here]
  · simp [here, Ne.symm here]

/-- The row a movement leaves at its place. -/
def settledRow (db : StockDb) (m : Movement) : StockRow :=
  { found db m with
    quantity := (found db m).quantity + m.quantity
    valueMinor := (weigh (found db m) m.quantity m.amountMinor).remaining
    version := (found db m).version + 1 }

theorem insert_opened {db : StockDb} {m : Movement} {row : StockRow}
    (known : db.stock.find? m.place = some row) : db.stock.insert m.opened = db.stock := by
  refine Table.insert_of_taken ?_
  change db.stock.find? m.place ≠ none
  rw [known]
  exact Option.some_ne_none row

namespace Journaled
variable {m : Movement} {db db' : StockDb}

theorem rows_movements (entered : Journaled m db db') :
    db'.movements.rows = db.movements.rows ++ [m] := by
  rw [entered.result]
  exact Table.rows_insert _ _ entered.fresh

theorem find?_stock (entered : Journaled m db db') (k : StockKey) :
    db'.stock.find? k = if k = m.place then some (settledRow db m) else db.stock.find? k := by
  have opened := find?_opened db m
  rw [entered.result, Table.find?_modify]
  by_cases here : k = m.place
  · rw [if_pos here, if_pos here, here, opened]
    rfl
  · rw [if_neg here, if_neg here]
    cases known : db.stock.find? m.place with
    | none =>
        rw [Table.find?_insert _ _ _ known]
        exact if_neg here
    | some row => rw [insert_opened known]

/-- The place of the movement holds what it held and what entered; the others hold what they did. -/
theorem bookAt (entered : Journaled m db db') (moves : m.quantity ≠ 0)
    (sound : (CoffeeCloud.bookAt db m.place).Sound) (k : StockKey) :
    CoffeeCloud.bookAt db' k =
      if k = m.place then (CoffeeCloud.bookAt db k).enter m else CoffeeCloud.bookAt db k := by
  have remaining := weigh_remaining entered.enough moves
    (by rwa [found_holding]) entered.cost
  by_cases here : k = m.place
  · rw [if_pos here, here, ← found_holding db m]
    unfold CoffeeCloud.bookAt
    rw [entered.find?_stock, if_pos rfl]
    exact congrArg (Holding.mk _) remaining
  · rw [if_neg here]
    unfold CoffeeCloud.bookAt
    rw [entered.find?_stock, if_neg here]

theorem sound_enter (entered : Journaled m db db') (moves : m.quantity ≠ 0)
    (sound : (CoffeeCloud.bookAt db m.place).Sound)
    (fair : 0 < m.quantity → ∀ a, m.amountMinor = some a → 0 ≤ a) :
    ((CoffeeCloud.bookAt db m.place).enter m).Sound := by
  rw [← found_holding] at sound ⊢
  refine ⟨entered.enough, entered.fits, fun emptied => ?_, fun v eq => ?_⟩
  · rw [Holding.enter]
    exact if_pos emptied
  · exact enter_value_nonneg entered.enough moves sound entered.cost fair eq

/-- An outgoing movement is charged between nothing and all its place was worth. -/
theorem charged (entered : Journaled m db db') (out : m.quantity < 0)
    (sound : (CoffeeCloud.bookAt db m.place).Sound) {a : Int} (amount : m.amountMinor = some a) :
    ∃ v, (CoffeeCloud.bookAt db m.place).value = some v ∧ 0 ≤ a ∧ a ≤ v := by
  rw [← found_holding] at sound ⊢
  exact weigh_cost entered.enough out sound (entered.cost.symm.trans amount)

/-- A sum over the rows of some places moves by the change of the one row. -/
theorem sumWhere_stock (entered : Journaled m db db') (P : StockKey → Bool) (f : StockRow → Int)
    (zero : f m.opened = 0) :
    db'.stock.sumWhere (fun r => P (Keyed.key r)) f + (if P m.place then f (found db m) else 0) =
      db.stock.sumWhere (fun r => P (Keyed.key r)) f
        + if P m.place then f (settledRow db m) else 0 := by
  have placed : Keyed.key (found db m) = m.place := found_key db m
  have moved := Table.sumWhere_modify (t := db.stock.insert m.opened) (k := m.place)
    (r := found db m) (fun r => P (Keyed.key r)) f
    (f := fun r => { r with
      quantity := (found db m).quantity + m.quantity
      valueMinor := (weigh (found db m) m.quantity m.amountMinor).remaining
      version := r.version + 1 }) (fun _ => rfl) (find?_opened db m)
  have opened : (db.stock.insert m.opened).sumWhere (fun r => P (Keyed.key r)) f =
      db.stock.sumWhere (fun r => P (Keyed.key r)) f := by
    cases known : db.stock.find? m.place with
    | none =>
        rw [Table.sumWhere_insert _ m.opened _ _ known, zero]
        exact (congrArg _ (ite_self 0)).trans (Int.add_zero _)
    | some row => rw [insert_opened known]
  have settled : Keyed.key (settledRow db m) = m.place := placed
  change _ = _ + (if P (Keyed.key (settledRow db m)) then f (settledRow db m) else 0) at moved
  rw [placed, settled, opened] at moved
  rw [entered.result]
  exact moved

end Journaled

end CoffeeCloud
