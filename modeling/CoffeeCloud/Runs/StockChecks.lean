import CoffeeCloud.Runs.Stock

/-!
What the checks and the keys of the stock tables never refuse. A request finds out by
itself that there is not enough, and what it charges, draws and counts keeps the rest.
-/
namespace CoffeeCloud
open Library Tx MerchantCosts

/-- A row that the tables refuse. -/
def Failure.Violation : Failure → Prop
  | .checkViolation _ | .uniqueViolation _ => True
  | _ => False

namespace StockDb
variable {db db' : StockDb} {p : MerchantPrincipal} {settings : AssetSettings}
  {tenant : TenantProfile} {now : Time}

section Reads

theorem avoids_draw (db : StockDb) : Avoids Failure.Violation draw db :=
  avoids_bind (avoids_read _ _) fun _ _ _ =>
    avoids_bind (avoids_write _ _) fun _ _ _ => avoids_pure _ _

theorem avoids_orFail {α : Type} {r : Except Failure α} (good : ∀ e, r = .error e → ¬ e.Violation)
    (db : StockDb) : Avoids Failure.Violation (orFail r) db := by
  cases r with
  | error e => exact avoids_raise (good e rfl) db
  | ok a => exact avoids_pure a db

theorem quantity_error {value : Option String} {signed : Bool} {precision : Nat} {e : Failure}
    (refused : quantity value signed precision = .error e) : e = invalidQuantity := by
  unfold quantity at refused
  dsimp only at refused
  split at refused
  · exact (Except.error.inj refused).symm
  · split at refused
    · exact (Except.error.inj refused).symm
    · cases refused

theorem avoids_quantity (value : Option String) (signed : Bool) (precision : Nat) (db : StockDb) :
    Avoids Failure.Violation (orFail (quantity value signed precision)) db :=
  avoids_orFail (fun e refused => by
    rw [quantity_error refused]
    exact id) db

theorem avoids_material (materialId : Option Id) (db : StockDb) :
    Avoids Failure.Violation (material p materialId) db :=
  avoids_bind (avoids_require _ id _) fun _ _ _ =>
    avoids_bind (avoids_read _ _) fun _ _ _ => avoids_require _ id _

theorem avoids_assetStore (storeId : Option Id) (db : StockDb) :
    Avoids Failure.Violation (assetStore p storeId) db :=
  avoids_bind (avoids_require _ id _) fun _ _ _ =>
    avoids_bind (avoids_read _ _) fun _ _ _ => avoids_require _ id _

theorem avoids_location (ref : LocationReference) (db : StockDb) :
    Avoids Failure.Violation (location p ref) db := by
  unfold location assetDevice
  cases ref.deviceId with
  | some text =>
      refine avoids_bind ?_ fun _ _ _ => ?_
      · refine avoids_bind (avoids_ensure _ id _) fun _ _ _ => ?_
        refine avoids_bind (avoids_require _ id _) fun _ _ _ => ?_
        exact avoids_bind (avoids_read _ _) fun _ _ _ => avoids_require _ id _
      · refine avoids_bind (avoids_ensure _ id _) fun _ _ _ => ?_
        exact avoids_bind (avoids_require _ id _) fun _ _ _ => avoids_pure _ _
  | none => exact avoids_bind (avoids_assetStore _ _) fun _ _ _ => avoids_pure _ _

end Reads

section Moves
variable {material : Material} {loc : StockLocation} {qty : Int} {kind : MovementType}
  {source : MovementSource} {reason : String} {incoming : Option Int}

theorem avoids_storedCost (cost : Option Rat) (db : StockDb) :
    Avoids Failure.Violation (storedCost cost) db := by
  unfold storedCost
  cases cost with
  | none => exact avoids_pure _ _
  | some cost => exact avoids_bind (avoids_ensure _ id _) fun _ _ _ => avoids_pure _ _

/-- What a movement leaves at its place is worth something or nothing. -/
theorem remaining_nonneg {row : StockRow} {qty : Int} {incoming : Option Int}
    (enough : 0 ≤ row.quantity + qty) (moves : qty ≠ 0) (sound : row.holding.Sound)
    (fair : 0 < qty → ∀ a, incoming = some a → 0 ≤ a) :
    (weigh row qty incoming).remaining.all (0 ≤ ·) = true := by
  let m : Movement := ⟨row.tenantId, row.materialId, row.storeId, row.terminalId, row.locationKey,
    .adjustment, qty, (weigh row qty incoming).cost, none, .movement 0, "", 0⟩
  have cost : m.amountMinor = (weigh row m.quantity m.amountMinor).cost := by
    rw [weigh_again row qty incoming]
  have leaves := weigh_remaining (m := m) enough moves sound cost
  rw [weigh_again row qty incoming] at leaves
  rw [leaves, Option.all_eq_true]
  intro v value
  refine decide_eq_true (enter_value_nonneg enough moves sound cost (fun into a amount => ?_) value)
  exact fair into a ((weigh_into into.le incoming).symm.trans amount)

/-- A movement under a source its place has not seen meets the checks. -/
theorem avoids_move (sound : (bookAt db (p.tenantId, material.id, loc.key)).Sound) (moves : qty ≠ 0)
    (fair : 0 < qty → ∀ a, incoming = some a → 0 ≤ a)
    (fresh : db.movements.find? (p.tenantId, source, loc.key, material.id) = none) :
    Avoids Failure.Violation (move p material loc qty kind source reason now incoming) db := by
  unfold move
  refine avoids_bind ?_ fun row db₁ opened => ?_
  · refine avoids_bind (avoids_write _ _) fun _ _ _ => ?_
    exact avoids_bind (avoids_read _ _) fun _ _ _ => avoids_require _ id _
  obtain ⟨rfl, present⟩ := ran_stock opened
  refine avoids_bind (avoids_ensure _ id _) fun _ db₂ checked => ?_
  obtain ⟨enough, rfl⟩ := (ran_ensure _ _ _ _ _).mp checked
  have same := Option.some.inj ((find?_opened db ⟨p.tenantId, material.id, loc.storeId, loc.terminalId,
    loc.key, kind, qty, (weigh row qty incoming).cost, none, source, reason, now⟩).symm.trans present)
  have holding : row.holding = bookAt db (p.tenantId, material.id, loc.key) := by
    rw [← same, found_holding]
    rfl
  refine avoids_bind ?_ fun _ db₃ put => ?_
  · have left : (weigh row qty incoming).remaining.all (0 ≤ ·) = true := by
      refine remaining_nonneg enough moves ?_ fair
      rw [holding]
      exact sound
    refine avoids_bind (avoids_ensure _ id _) fun _ db₃ checked => ?_
    obtain ⟨-, rfl⟩ := (ran_ensure _ _ _ _ _).mp checked
    refine avoids_bind (avoids_ensure _ id _) fun _ db₃ checked => ?_
    obtain ⟨-, rfl⟩ := (ran_ensure _ _ _ _ _).mp checked
    refine avoids_bind (avoids_ensure_of (absurd enough) _) fun _ db₃ _ => ?_
    exact avoids_bind (avoids_ensure_of (absurd left) _) fun _ _ _ => avoids_write _ _
  obtain ⟨-, rfl⟩ := ran_putStock put
  refine avoids_bind (avoids_storedCost _ _) fun unit db₄ stored => ?_
  obtain rfl := ran_storedCost stored
  refine avoids_bind ?_ fun _ _ _ => avoids_pure _ _
  refine avoids_bind (avoids_ensure _ id _) fun _ db₅ checked => ?_
  obtain ⟨-, rfl⟩ := (ran_ensure _ _ _ _ _).mp checked
  refine avoids_bind (avoids_read _ _) fun taken db₅ read => ?_
  have free : taken = false := by
    rw [← (ran_read _ _ _ _).mp read |>.1]
    exact congrArg Option.isSome fresh
  exact avoids_bind (avoids_ensure_of (absurd free) _) fun _ _ _ => avoids_write _ _

end Moves

section Requests

/-- No movement of a purchase has entered from line `index` on. -/
def Unbilled (db : StockDb) (id : Id) (index : Nat) : Prop :=
  ∀ m ∈ db.movements.rows, ∀ j, index ≤ j → m.sourceKey ≠ .purchase id j

theorem Unbilled.fresh {id : Id} {index : Nat} (unbilled : Unbilled db id index)
    (t i : Id) (k : LocationKey) : db.movements.find? (t, .purchase id index, k, i) = none := by
  cases found : db.movements.find? (t, .purchase id index, k, i) with
  | none => rfl
  | some m =>
      have source : m.sourceKey = .purchase id index :=
        congrArg (fun key => key.2.1) (Table.key_of_find? found)
      exact absurd source (unbilled m (Table.mem_of_find? found) index le_rfl)

theorem avoids_putIn {x : Purchase} {loc : StockLocation} {lines : List PurchaseLine} {index : Nat}
    (sound : ∀ k, (bookAt db k).Sound) (unbilled : Unbilled db x.id index) :
    Avoids Failure.Violation (putIn p x loc now index lines) db := by
  induction lines generalizing index db with
  | nil => exact avoids_pure _ _
  | cons line lines ih =>
      refine avoids_bind (avoids_material _ _) fun material db₁ named => ?_
      obtain ⟨-, rfl⟩ := ran_material named
      have fair : 0 < line.quantity → ∀ a, some line.totalCostMinor = some a → 0 ≤ a :=
        fun _ a same => Option.some.inj same ▸ line.costPositive.le
      refine avoids_bind (avoids_move (sound _) line.quantityPositive.ne' fair (unbilled.fresh _ _ _))
        fun a db₂ moved => ?_
      obtain ⟨cost, unit, rfl, paid, entered⟩ := ran_move moved
      refine ih (sound_entered entered ⟨line.quantityPositive.ne', fun into a amount => ?_⟩ sound)
        fun m mem j le source => ?_
      · exact fair into a ((paid into.le).symm.trans amount)
      · rw [entered.rows_movements] at mem
        cases List.mem_append.mp mem with
        | inl old => exact unbilled m old j (by omega) source
        | inr new =>
            cases List.mem_singleton.mp new
            cases source
            omega

theorem avoids_postPurchase {purchaseId : Option Id} {data : Json} (kept : Kept db) :
    Avoids Failure.Violation (postPurchase p purchaseId data now) db := by
  unfold postPurchase
  refine avoids_bind (avoids_require _ id _) fun id db₁ named => ?_
  obtain ⟨-, rfl⟩ := (ran_require _ _ _ _ _).mp named
  refine avoids_bind (avoids_read _ _) fun found db₂ read => ?_
  obtain ⟨rfl, rfl⟩ := (ran_read _ _ _ _).mp read
  refine avoids_bind (avoids_require _ (fun bad => bad) _) fun x db₃ required => ?_
  obtain ⟨mine, rfl⟩ := (ran_require _ _ _ _ _).mp required
  obtain ⟨there, -⟩ := Option.filter_eq_some_iff.mp mine
  by_cases posted : x.status = .posted
  · simp only [posted, if_true]
    exact avoids_pure _ _
  · simp only [posted, if_false]
    refine avoids_bind (avoids_ensure _ (fun bad => bad) _) fun _ db₄ checked => ?_
    obtain ⟨-, rfl⟩ := (ran_ensure _ _ _ _ _).mp checked
    refine avoids_bind (avoids_location _ _) fun loc db₅ located => ?_
    obtain rfl := ran_location located
    refine avoids_bind (avoids_putIn kept.sound fun m mem j _ source => ?_) fun _ _ _ =>
      avoids_bind (avoids_write _ _) fun _ _ _ => avoids_bind (avoids_write _ _) fun _ _ _ =>
        avoids_pure _ _
    obtain ⟨y, bill, same⟩ := kept.billed m mem x.id j source
    obtain ⟨mem, status⟩ := List.mem_filter.mp bill
    have known := Table.find?_of_mem mem
    change db₅.purchases.find? y.id = some y at known
    have named : x.id = id := Table.key_of_find? there
    rw [same, named, there] at known
    cases known
    exact posted (of_decide_eq_true status)

/-- No movement has entered under the number a request has drawn. -/
def Undrawn (db : StockDb) (uuid : Nat) : Prop :=
  ∀ m ∈ db.movements.rows, m.sourceKey ≠ .movement uuid

theorem Undrawn.fresh {uuid : Nat} (undrawn : Undrawn db uuid) (t i : Id) (k : LocationKey) :
    db.movements.find? (t, .movement uuid, k, i) = none := by
  cases found : db.movements.find? (t, .movement uuid, k, i) with
  | none => rfl
  | some m =>
      have source : m.sourceKey = .movement uuid :=
        congrArg (fun key => key.2.1) (Table.key_of_find? found)
      exact absurd source (undrawn m (Table.mem_of_find? found))

variable {material : Material} {qty : Int} {kind : MovementType} {uuid : Nat} {reason : String}

/-- The two movements of a request differ in their place. -/
theorem avoids_carry {source target : StockLocation} (sound : ∀ k, (bookAt db k).Sound)
    (undrawn : Undrawn db uuid) (pos : 0 < qty) :
    Avoids Failure.Violation (carry p material source target qty kind uuid reason now) db := by
  have out : -qty < 0 := neg_neg_of_pos pos
  unfold carry
  refine avoids_bind (avoids_ensure _ id _) fun _ db₁ checked => ?_
  obtain ⟨apart, rfl⟩ := (ran_ensure _ _ _ _ _).mp checked
  refine avoids_bind (avoids_move (sound _) out.ne (fun into => absurd into (not_lt.mpr out.le))
    (undrawn.fresh _ _ _)) fun a db₂ moved => ?_
  obtain ⟨cost, unit, rfl, -, entered⟩ := ran_move moved
  have sound' := sound_entered entered ⟨out.ne, fun into => absurd into (not_lt.mpr out.le)⟩ sound
  refine avoids_bind (avoids_move (sound' _) pos.ne' (fun _ c paid => ?_) ?_) fun _ _ _ =>
    avoids_pure _ _
  · obtain ⟨v, -, nonneg, -⟩ := entered.charged out (sound _) paid
    exact nonneg
  · cases taken : db₂.movements.find? (p.tenantId, .movement uuid, target.key, material.id) with
    | none => rfl
    | some m =>
        have key := Table.key_of_find? taken
        have mem := Table.mem_of_find? taken
        rw [entered.rows_movements] at mem
        cases List.mem_append.mp mem with
        | inl old => exact absurd (congrArg (fun key => key.2.1) key) (undrawn m old)
        | inr new =>
            cases List.mem_singleton.mp new
            exact absurd (congrArg (fun key => key.2.2.1) key).symm apart

theorem avoids_adjustStock {loc : StockLocation} (sound : ∀ k, (bookAt db k).Sound)
    (undrawn : Undrawn db uuid) (moves : qty ≠ 0) :
    Avoids Failure.Violation (adjustStock tenant p material loc qty kind uuid reason now) db := by
  refine avoids_bind (avoids_move (sound _) moves (fun _ a none => nomatch none)
    (undrawn.fresh _ _ _)) fun a db₁ _ => ?_
  by_cases out : qty < 0
  · simp only [out, if_true]
    exact avoids_bind (avoids_write _ _) fun _ _ _ => avoids_pure _ _
  · simp only [out, if_false]
    exact avoids_pure _ _

theorem avoids_makeMovement {data : MovementData} (kept : Kept db) :
    Avoids Failure.Violation (makeMovement tenant p kind data now) db := by
  unfold makeMovement
  refine avoids_bind (avoids_material _ _) fun material db₁ named => ?_
  obtain ⟨-, rfl⟩ := ran_material named
  refine avoids_bind (avoids_quantity _ _ _ _) fun qty db₂ sent => ?_
  obtain ⟨read, rfl⟩ := ran_orFail sent
  obtain ⟨moves, pos⟩ := quantity_moves read
  refine avoids_bind (avoids_require _ id _) fun reason db₃ required => ?_
  obtain ⟨-, rfl⟩ := (ran_require _ _ _ _ _).mp required
  refine avoids_bind (avoids_draw _) fun uuid db₄ drawn => ?_
  obtain ⟨rfl, rfl⟩ := ran_draw drawn
  have undrawn : Undrawn { db₂ with drawn := db₂.drawn + 1 } db₂.drawn := fun m mem source =>
    absurd (kept.drawn m mem _ source) (lt_irrefl _)
  refine avoids_bind (avoids_location _ _) fun source db₅ located => ?_
  obtain rfl := ran_location located
  by_cases between : kind = .transfer ∨ kind = .restock
  · simp only [between, if_true]
    refine avoids_bind (avoids_location _ _) fun target db₆ located => ?_
    obtain rfl := ran_location located
    have unsigned : 0 < qty := pos (by cases between with
      | inl kind => rw [kind]; rfl
      | inr kind => rw [kind]; rfl)
    refine avoids_bind (avoids_carry kept.sound undrawn unsigned) fun _ _ _ => ?_
    exact avoids_bind (avoids_write _ _) fun _ _ _ => avoids_pure _ _
  · simp only [between, if_false]
    refine avoids_bind (avoids_adjustStock kept.sound undrawn ?_) fun _ _ _ =>
      avoids_bind (avoids_write _ _) fun _ _ _ => avoids_pure _ _
    split <;> omega

theorem avoids_idempotent {operation : StockOperationKind} {key : Option String} {data : Json}
    {execute : StockTx StockResponse} (good : Avoids Failure.Violation execute db) :
    Avoids Failure.Violation (idempotent settings p operation key data execute) db := by
  unfold idempotent
  refine avoids_bind (avoids_require _ id _) fun key db₁ required => ?_
  obtain ⟨-, rfl⟩ := (ran_require _ _ _ _ _).mp required
  refine avoids_bind (avoids_read _ _) fun found db₂ read => ?_
  obtain ⟨rfl, rfl⟩ := (ran_read _ _ _ _).mp read
  cases db.operations.find? (p.tenantId, operation, key) with
  | some row => exact avoids_bind (avoids_ensure _ id _) fun _ _ _ => avoids_pure _ _
  | none =>
      refine avoids_bind good fun _ _ _ => ?_
      exact avoids_bind (avoids_write _ _) fun _ _ _ => avoids_pure _ _

theorem avoids_purchaseLine (line : LineData) (db : StockDb) :
    Avoids Failure.Violation (purchaseLine p line) db := by
  refine avoids_bind (avoids_material _ _) fun _ _ _ => ?_
  refine avoids_bind (avoids_quantity _ _ _ _) fun _ _ _ => ?_
  refine avoids_bind (avoids_require _ id _) fun _ _ _ => ?_
  exact avoids_bind (avoids_require _ id _) fun _ _ _ => avoids_pure _ _

theorem avoids_purchaseLines (lines : List LineData) (db : StockDb) :
    Avoids Failure.Violation (purchaseLines p lines) db := by
  induction lines generalizing db with
  | nil => exact avoids_pure _ _
  | cons line lines ih =>
      refine avoids_bind (avoids_purchaseLine _ _) fun _ _ _ => ?_
      exact avoids_bind (ih _) fun _ _ _ => avoids_pure _ _

theorem avoids_executeSave (data : PurchaseData) (purchaseId : Option (Option Id)) (db : StockDb) :
    Avoids Failure.Violation (executeSave p data purchaseId) db := by
  refine avoids_bind (avoids_assetStore _ _) fun _ _ _ => ?_
  refine avoids_bind (avoids_ensure _ id _) fun _ _ _ => ?_
  refine avoids_bind (avoids_purchaseLines _ _) fun _ _ _ => ?_
  refine avoids_bind (avoids_require _ id _) fun _ _ _ => ?_
  cases purchaseId with
  | some purchaseId =>
      refine avoids_bind (avoids_require _ id _) fun _ _ _ => ?_
      refine avoids_bind (avoids_read _ _) fun _ _ _ => ?_
      refine avoids_bind (avoids_require _ id _) fun _ _ _ => ?_
      refine avoids_bind (avoids_ensure _ id _) fun _ _ _ => ?_
      refine avoids_bind (avoids_ensure _ id _) fun _ _ _ => ?_
      refine avoids_bind (avoids_write _ _) fun _ _ _ => ?_
      exact avoids_bind (avoids_write _ _) fun _ _ _ => avoids_pure _ _
  | none =>
      refine avoids_bind (avoids_draw _) fun _ _ _ => ?_
      refine avoids_bind (avoids_write _ _) fun _ _ _ => ?_
      exact avoids_bind (avoids_write _ _) fun _ _ _ => avoids_pure _ _

theorem avoids_body (a : StockAction) (kept : Kept db) :
    Avoids Failure.Violation (body settings a) db := by
  cases a with
  | surroundings stores devices => exact avoids_write _ _
  | newMaterial p externalId name unit unitPrecision =>
      refine avoids_bind ?_ fun _ _ _ => avoids_pure _ _
      refine avoids_bind (avoids_ensure _ id _) fun _ _ _ => ?_
      refine avoids_bind (avoids_read _ _) fun _ _ _ => ?_
      refine avoids_bind (avoids_ensure _ id _) fun _ _ _ => ?_
      refine avoids_bind (avoids_draw _) fun _ _ _ => ?_
      refine avoids_bind (avoids_write _ _) fun _ _ _ => ?_
      exact avoids_bind (avoids_write _ _) fun _ _ _ => avoids_pure _ _
  | savePurchase p data key purchaseId =>
      refine avoids_bind ?_ fun _ _ _ => avoids_pure _ _
      unfold savePurchase
      split
      · exact avoids_executeSave _ _ _
      · exact avoids_idempotent (avoids_executeSave _ _ _)
  | postPurchase p purchaseId data now =>
      exact avoids_bind (avoids_postPurchase kept) fun _ _ _ => avoids_pure _ _
  | movement tenant p data key now =>
      refine avoids_bind ?_ fun _ _ _ => avoids_pure _ _
      exact avoids_bind (avoids_require _ id _) fun kind db₁ required => by
        obtain ⟨-, rfl⟩ := (ran_require _ _ _ _ _).mp required
        exact avoids_idempotent (avoids_makeMovement kept)

/-- Whatever requests came before, none fails on a check or a key of the tables. -/
theorem requests_meet_checks (settings : AssetSettings) (as : List StockAction) (a : StockAction) :
    Avoids Failure.Violation (body settings a) ((machine settings).run {} as) :=
  avoids_body a (Kept.run settings as)

end Requests

end StockDb
end CoffeeCloud
