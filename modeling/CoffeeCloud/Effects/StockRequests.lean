import CoffeeCloud.Effects.Stock

/-!
What each request does to the stock book. It leaves the book aside, or it posts the
lines of a purchase, carries goods from one place to another, or adjusts one place and
writes off in the ledger what has gone.
-/
namespace CoffeeCloud
open Library Tx MerchantCosts

/-- Movements that enter one after the other. -/
inductive Entries : List Movement → StockDb → StockDb → Prop
  | nil (db : StockDb) : Entries [] db db
  | cons {m : Movement} {ms : List Movement} {db db₁ db' : StockDb} (first : Journaled m db db₁)
      (rest : Entries ms db₁ db') : Entries (m :: ms) db db'

def Purchase.isPosted (x : Purchase) : Bool := x.status = .posted

/-- The book is left as it is; drafts, the audit and answers are beside it. -/
structure Beside (db db' : StockDb) : Prop where
  stock : db'.stock = db.stock
  movements : db'.movements = db.movements
  ledger : db'.ledger = db.ledger
  posted : db'.purchases.rows.filter Purchase.isPosted = db.purchases.rows.filter Purchase.isPosted
  drawn : db.drawn ≤ db'.drawn

namespace Beside
variable {db db₁ db' : StockDb}

theorem refl (db : StockDb) : Beside db db := ⟨rfl, rfl, rfl, rfl, le_rfl⟩

theorem trans (h : Beside db db₁) (k : Beside db₁ db') : Beside db db' :=
  ⟨k.stock.trans h.stock, k.movements.trans h.movements, k.ledger.trans h.ledger,
    k.posted.trans h.posted, h.drawn.trans k.drawn⟩

end Beside

/-- Whose movement of what it is, what kind, for what reason, and how much. -/
structure Shaped (tenantId materialId : Id) (kind : MovementType) (source : MovementSource)
    (qty : Int) (m : Movement) : Prop where
  tenantId : m.tenantId = tenantId
  materialId : m.materialId = materialId
  type : m.type = kind
  sourceKey : m.sourceKey = source
  quantity : m.quantity = qty

/-- The movement of one line of a purchase. -/
structure Bought (x : Purchase) (line : PurchaseLine) (m : Movement) : Prop where
  shaped : ∃ index, Shaped x.tenantId line.materialId .purchase (.purchase x.id index) line.quantity m
  amount : m.amountMinor = some line.totalCostMinor

/-- Out of one place and into another, at one cost. -/
structure Carried (uuid : Nat) (out into : Movement) : Prop where
  outgoing : out.quantity < 0
  quantity : into.quantity = -out.quantity
  amount : into.amountMinor = out.amountMinor
  tenantId : into.tenantId = out.tenantId
  materialId : into.materialId = out.materialId
  types : out.type = into.type ∧ (into.type = .restock ∨ into.type = .transfer)
  sources : out.sourceKey = .movement uuid ∧ into.sourceKey = .movement uuid

/-- At one place: goods that turn up are of no known cost. -/
structure Adjusted (uuid : Nat) (m : Movement) : Prop where
  moves : m.quantity ≠ 0
  type : m.type = .waste ∧ m.quantity < 0 ∨ m.type = .adjustment
  source : m.sourceKey = .movement uuid
  unknown : 0 < m.quantity → m.amountMinor = none

theorem Adjusted.corrects {uuid : Nat} {m : Movement} (adjusted : Adjusted uuid m) :
    m.type = .waste ∨ m.type = .adjustment :=
  adjusted.type.imp And.left id

/-- The entry that writes off what a movement took away. -/
structure WritesOff (uuid : Nat) (m : Movement) (entry : LedgerEntry) : Prop where
  tenantId : entry.tenantId = m.tenantId
  sourceKey : entry.sourceKey = .other ("movement:" ++ uuid.repr)
  kind : entry.kind = .waste
  amount : entry.amountMinor = m.amountMinor

/-- Everything a request can do to the book. -/
inductive BookStep : StockDb → StockDb → Prop
  | aside {db db' : StockDb} (left : Beside db db') : BookStep db db'
  | bought {db db₁ db₂ db' : StockDb} {x : Purchase} {ms : List Movement} {now : Time}
      (found : db.purchases.find? x.id = some x) (draft : x.status = .draft)
      (lines : List.Forall₂ (Bought x) x.lines ms) (entries : Entries ms db db₁)
      (posted : db₂ = { db₁ with
        purchases := db₁.purchases.modify x.id (Purchase.post now) (Purchase.key_post now) })
      (after : Beside db₂ db') : BookStep db db'
  | carried {db db₀ db₁ db' : StockDb} {uuid : Nat} {out into : Movement} (before : Beside db db₀)
      (fresh : db.drawn ≤ uuid ∧ uuid < db₀.drawn) (carried : Carried uuid out into)
      (entries : Entries [out, into] db₀ db₁) (after : Beside db₁ db') : BookStep db db'
  | found {db db₀ db₁ db' : StockDb} {uuid : Nat} {m : Movement} (before : Beside db db₀)
      (fresh : db.drawn ≤ uuid ∧ uuid < db₀.drawn) (adjusted : Adjusted uuid m)
      (into : 0 < m.quantity) (entered : Journaled m db₀ db₁) (after : Beside db₁ db') : BookStep db db'
  | gone {db db₀ db₁ db₂ db' : StockDb} {uuid : Nat} {m : Movement} {entry : LedgerEntry}
      (before : Beside db db₀) (fresh : db.drawn ≤ uuid ∧ uuid < db₀.drawn)
      (adjusted : Adjusted uuid m) (out : m.quantity < 0) (entered : Journaled m db₀ db₁)
      (off : WritesOff uuid m entry)
      (written : db₂ = { db₁ with ledger := db₁.ledger.insert entry })
      (after : Beside db₂ db') : BookStep db db'

section Quantity

/-- A quantity is never nothing, and one without a sign is positive. -/
theorem quantity_moves {value : Option String} {signed : Bool} {precision : Nat} {q : Int}
    (read : quantity value signed precision = .ok q) : q ≠ 0 ∧ (signed = false → 0 < q) := by
  unfold quantity at read
  dsimp only at read
  split at read
  · cases read
  · split at read
    · cases read
    · rename_i some
      have some : ¬ (_ = 0) := fun none => some (.inl none)
      cases read
      split
      · rename_i negative
        refine ⟨by omega, fun plain => ?_⟩
        rw [plain] at negative
        cases negative
      · exact ⟨by omega, fun _ => by omega⟩

end Quantity

section Draws
variable {p : MerchantPrincipal}

theorem ran_auditRow {action resourceType : String} {db db' : StockDb} {u : Unit}
    (h : Ran (auditRow p action resourceType) db u db') : Beside db db' := by
  rw [auditRow, ran_write] at h
  rw [← h]
  exact ⟨rfl, rfl, rfl, rfl, le_rfl⟩

theorem ran_draw {db db' : StockDb} {uuid : Nat} (h : Ran draw db uuid db') :
    uuid = db.drawn ∧ db' = { db with drawn := db.drawn + 1 } := by
  unfold draw at h
  simp only [ran_read_bind, ran_write_bind, ran_pure] at h
  exact ⟨h.1.symm, h.2.symm⟩

theorem ran_orFail {α : Type} {r : Except Failure α} {db db' : StockDb} {a : α}
    (h : Ran (orFail r) db a db') : r = .ok a ∧ db' = db := by
  cases r with
  | error e => exact absurd h (by simp [orFail])
  | ok b =>
      obtain ⟨rfl, rfl⟩ := (ran_pure _ _ _ _).mp h
      exact ⟨rfl, rfl⟩

theorem ran_material {materialId : Option Id} {db db' : StockDb} {row : Material}
    (h : Ran (material p materialId) db row db') : materialId = some row.id ∧ db' = db := by
  unfold material at h
  simp only [ran_require_bind, ran_read_bind, ran_require, Option.filter_eq_some_iff] at h
  obtain ⟨id, rfl, ⟨found, -⟩, rfl⟩ := h
  exact ⟨congrArg some (Table.key_of_find? found).symm, rfl⟩

theorem ran_location {ref : LocationReference} {db db' : StockDb} {loc : StockLocation}
    (h : Ran (location p ref) db loc db') : db' = db := by
  unfold location assetDevice assetStore at h
  split at h
  · simp only [ran_bind, ran_ensure, ran_require, ran_read, ran_pure] at h
    grind
  · simp only [ran_bind, ran_require, ran_read, ran_pure] at h
    grind

end Draws

section Moving
variable {p : MerchantPrincipal} {tenant : TenantProfile} {now : Time}

/-- The lines of a purchase enter one after the other, each at its own cost. -/
theorem ran_putIn {x : Purchase} (own : x.tenantId = p.tenantId) {loc : StockLocation}
    {lines : List PurchaseLine} {index : Nat} {db db' : StockDb} {u : Unit}
    (h : Ran (putIn p x loc now index lines) db u db') :
    ∃ ms, List.Forall₂ (Bought x) lines ms ∧ Entries ms db db' := by
  induction lines generalizing index db with
  | nil =>
      obtain ⟨-, rfl⟩ := (ran_pure _ _ _ _).mp h
      exact ⟨[], .nil, .nil db⟩
  | cons line lines ih =>
      unfold putIn at h
      simp only [ran_bind] at h
      obtain ⟨material, db₁, named, a, db₂, moved, h⟩ := h
      obtain ⟨same, rfl⟩ := ran_material named
      obtain ⟨cost, unit, rfl, paid, entered⟩ := ran_move moved
      obtain ⟨ms, bought, entries⟩ := ih h
      refine ⟨_, .cons ⟨⟨index, ?_⟩, paid line.quantityPositive.le⟩ bought, .cons entered entries⟩
      exact ⟨own.symm, (Option.some.inj same).symm, rfl, rfl, rfl⟩

theorem ran_carry {material : Material} {source target : StockLocation} {qty : Int}
    {kind : MovementType} {uuid : Nat} {reason : String} {db db' : StockDb} {row : Movement}
    (pos : 0 < qty) (asked : kind = .transfer ∨ kind = .restock)
    (h : Ran (carry p material source target qty kind uuid reason now) db row db') :
    ∃ out, Carried uuid out row ∧ Entries [out, row] db db' := by
  unfold carry at h
  simp only [ran_bind, ran_pure] at h
  obtain ⟨_, db₁, apart, out, db₂, left, into, db₃, arrived, rfl, rfl⟩ := h
  obtain ⟨-, rfl⟩ := (ran_ensure _ _ _ _ _).mp apart
  obtain ⟨cost, unit, rfl, -, away⟩ := ran_move left
  obtain ⟨cost', unit', rfl, paid, here⟩ := ran_move arrived
  refine ⟨_, ?_, .cons away (.cons here (.nil _))⟩
  exact ⟨Int.neg_neg_of_pos pos, (Int.neg_neg qty).symm, paid pos.le, rfl, rfl,
    ⟨rfl, asked.symm⟩, rfl, rfl⟩

theorem ran_adjustStock {material : Material} {source : StockLocation} {qty : Int}
    {kind : MovementType} {uuid : Nat} {reason : String} {db db' : StockDb} {row : Movement}
    (moves : qty ≠ 0)
    (asked : kind = .waste ∧ qty < 0 ∨ kind = .adjustment)
    (h : Ran (adjustStock tenant p material source qty kind uuid reason now) db row db') :
    Adjusted uuid row ∧ ∃ db₁, Journaled row db db₁ ∧
      (0 < row.quantity ∧ db' = db₁ ∨ row.quantity < 0 ∧ ∃ entry, WritesOff uuid row entry ∧
        db' = { db₁ with ledger := db₁.ledger.insert entry }) := by
  unfold adjustStock at h
  rw [ran_bind] at h
  obtain ⟨a, db₁, moved, h⟩ := h
  obtain ⟨cost, unit, rfl, paid, entered⟩ := ran_move moved
  by_cases out : qty < 0
  · simp only [out, if_true, ran_bind, ran_pure] at h
    obtain ⟨_, db₂, written, rfl, rfl⟩ := h
    refine ⟨⟨moves, asked, rfl, fun into => absurd into (not_lt.mpr out.le)⟩, db₁, entered, ?_⟩
    exact .inr ⟨out, wasteEntry tenant p source uuid cost now, ⟨rfl, rfl, rfl, rfl⟩,
      ((ran_write _ _ _ _).mp written).symm⟩
  · simp only [out, if_false, ran_pure] at h
    obtain ⟨rfl, rfl⟩ := h
    exact ⟨⟨moves, asked, rfl, fun into => paid into.le⟩, db₁, entered,
      .inl ⟨lt_of_le_of_ne (not_lt.mp out) moves.symm, rfl⟩⟩

theorem ran_postPurchase {purchaseId : Option Id} {data : Json} {db db' : StockDb} {row : Purchase}
    (h : Ran (postPurchase p purchaseId data now) db row db') : BookStep db db' := by
  unfold postPurchase at h
  simp only [ran_require_bind, ran_read_bind, Option.filter_eq_some_iff] at h
  obtain ⟨id, rfl, x, ⟨found, own⟩, h⟩ := h
  have named : x.id = id := Table.key_of_find? found
  have own : x.tenantId = p.tenantId := (of_decide_eq_true own).1
  by_cases posted : x.status = .posted
  · simp only [posted, if_true, ran_pure] at h
    rw [h.2]
    exact .aside (Beside.refl _)
  · have draft : x.status = .draft := by
      cases status : x.status with
      | draft => rfl
      | posted => exact absurd status posted
    simp only [posted, if_false, ran_bind, ran_pure] at h
    obtain ⟨_, db₁, checked, loc, db₂, located, _, db₃, entered, _, db₄, written, _, db₅, noted, -,
      rfl⟩ := h
    obtain ⟨-, rfl⟩ := (ran_ensure _ _ _ _ _).mp checked
    obtain rfl := ran_location located
    obtain ⟨ms, bought, entries⟩ := ran_putIn own entered
    rw [← named] at found
    exact .bought found draft bought entries ((ran_write _ _ _ _).mp written).symm
      (ran_auditRow noted)

theorem ran_makeMovement {kind : MovementType} {data : MovementData} {db db' : StockDb}
    {response : StockResponse}
    (asked : kind ≠ .purchase) (h : Ran (makeMovement tenant p kind data now) db response db') :
    BookStep db db' := by
  unfold makeMovement at h
  simp only [ran_bind] at h
  obtain ⟨material, db₁, named, qty, db₂, sent, reason, db₃, required, uuid, db₄, drawn, source, db₅,
    located, h⟩ := h
  obtain ⟨-, rfl⟩ := ran_material named
  obtain ⟨read, rfl⟩ := ran_orFail sent
  obtain ⟨-, rfl⟩ := (ran_require _ _ _ _ _).mp required
  obtain ⟨rfl, rfl⟩ := ran_draw drawn
  obtain rfl := ran_location located
  obtain ⟨moves, pos⟩ := quantity_moves read
  have before : Beside db₂ { db₂ with drawn := db₂.drawn + 1 } :=
    ⟨rfl, rfl, rfl, rfl, Nat.le_succ _⟩
  have fresh : db₂.drawn ≤ db₂.drawn ∧ db₂.drawn < db₂.drawn + 1 := ⟨le_rfl, Nat.lt_succ_self _⟩
  by_cases between : kind = .transfer ∨ kind = .restock
  · have unsigned : 0 < qty := pos (by rcases between with rfl | rfl <;> rfl)
    simp only [between, if_true, ran_bind, ran_pure] at h
    obtain ⟨target, db₆, located, row, db₇, carried, _, db₈, noted, -, rfl⟩ := h
    obtain rfl := ran_location located
    obtain ⟨out, carried, entries⟩ := ran_carry unsigned between carried
    exact .carried before fresh carried entries (ran_auditRow noted)
  · simp only [between, if_false, ran_bind, ran_pure] at h
    obtain ⟨row, db₆, adjusted, _, db₇, noted, -, rfl⟩ := h
    have after := ran_auditRow noted
    have kinds : kind = .waste ∧ (if kind = .waste then -qty else qty) < 0 ∨ kind = .adjustment := by
      cases kind with
      | purchase => exact absurd rfl asked
      | restock => exact absurd (.inr rfl) between
      | transfer => exact absurd (.inl rfl) between
      | waste => exact .inl ⟨rfl, neg_neg_of_pos (pos rfl)⟩
      | adjustment => exact .inr rfl
    have moves : (if kind = .waste then -qty else qty) ≠ 0 := by split <;> omega
    obtain ⟨shape, db₈, entered, ⟨into, rfl⟩ | ⟨out, entry, off, rfl⟩⟩ :=
      ran_adjustStock moves kinds adjusted
    · exact .found before fresh shape into entered after
    · exact .gone before fresh shape out entered off rfl after

end Moving

section Requests
variable {p : MerchantPrincipal} {settings : AssetSettings} {tenant : TenantProfile} {now : Time}

theorem BookStep.andAside {db db₁ db' : StockDb} (step : BookStep db db₁) (after : Beside db₁ db') :
    BookStep db db' := by
  cases step with
  | aside left => exact .aside (left.trans after)
  | bought found draft lines entries posted first =>
      exact .bought found draft lines entries posted (first.trans after)
  | carried before fresh carried entries first =>
      exact .carried before fresh carried entries (first.trans after)
  | found before fresh adjusted into entered first =>
      exact .found before fresh adjusted into entered (first.trans after)
  | gone before fresh adjusted out entered off written first =>
      exact .gone before fresh adjusted out entered off written (first.trans after)

theorem ran_idempotent {operation : StockOperationKind} {key : Option String} {data : Json}
    {execute : StockTx StockResponse} {db db' : StockDb} {response : StockResponse}
    (step : ∀ db response db', Ran execute db response db' → BookStep db db')
    (h : Ran (idempotent settings p operation key data execute) db response db') :
    BookStep db db' := by
  unfold idempotent at h
  simp only [ran_require_bind, ran_read_bind] at h
  obtain ⟨key, -, h⟩ := h
  cases stored : db.operations.find? (p.tenantId, operation, key) with
  | some row =>
      simp only [stored, ran_ensure_bind, ran_pure] at h
      rw [← h.2.2]
      exact .aside (Beside.refl _)
  | none =>
      simp only [stored, ran_bind, ran_pure] at h
      obtain ⟨answer, db₁, executed, _, db₂, noted, -, rfl⟩ := h
      rw [ran_write] at noted
      rw [← noted]
      exact (step _ _ _ executed).andAside ⟨rfl, rfl, rfl, rfl, le_rfl⟩

theorem ran_movement {data : MovementData} {key : Option String} {db db' : StockDb}
    {response : StockResponse}
    (h : Ran (movement settings tenant p data key now) db response db') : BookStep db db' := by
  unfold movement at h
  simp only [ran_require_bind, Option.bind_eq_some_iff] at h
  obtain ⟨kind, ⟨text, -, parsed⟩, h⟩ := h
  have asked : kind ≠ .purchase := by
    rintro rfl
    unfold parseKind at parsed
    split at parsed <;> cases parsed
  exact ran_idempotent (fun _ _ _ => ran_makeMovement asked) h

theorem ran_purchaseLine {line : LineData} {row : PurchaseLine} {db db' : StockDb}
    (h : Ran (purchaseLine p line) db row db') : db' = db := by
  unfold purchaseLine at h
  simp only [ran_bind, ran_pure] at h
  obtain ⟨material, db₁, named, qty, db₂, sent, _, _, pos, _, _, paid, -, rfl⟩ := h
  obtain ⟨-, rfl⟩ := ran_material named
  obtain ⟨-, rfl⟩ := ran_orFail sent
  obtain ⟨-, rfl⟩ := (ran_require _ _ _ _ _).mp pos
  obtain ⟨-, rfl⟩ := (ran_require _ _ _ _ _).mp paid
  rfl

theorem ran_purchaseLines {lines : List LineData} {rows : List PurchaseLine} {db db' : StockDb}
    (h : Ran (purchaseLines p lines) db rows db') : db' = db := by
  induction lines generalizing rows db with
  | nil => exact ((ran_pure _ _ _ _).mp h).2.symm
  | cons line lines ih =>
      unfold purchaseLines at h
      simp only [ran_bind, ran_pure] at h
      obtain ⟨row, db₁, first, rest, db₂, others, -, rfl⟩ := h
      obtain rfl := ran_purchaseLine first
      exact ih others

/-- A draft that stays one is not among the posted purchases. -/
theorem posted_modify {t : Table Purchase} {x : Purchase} {f : Purchase → Purchase}
    (hf : ∀ r, Keyed.key (f r) = Keyed.key r) (found : t.find? x.id = some x)
    (draft : x.isPosted = false) (stays : (f x).isPosted = false) :
    (t.modify x.id f hf).rows.filter Purchase.isPosted = t.rows.filter Purchase.isPosted := by
  have only : ∀ r ∈ t.rows, r.id = x.id → r = x := fun r mem same =>
    Option.some.inj ((Table.find?_of_mem mem).symm.trans ((congrArg t.find? same).trans found))
  change (t.rows.map fun r => if decide (r.id = x.id) then f r else r).filter _ = _
  simp only [decide_eq_true_eq]
  generalize t.rows = rows at only ⊢
  induction rows with
  | nil => rfl
  | cons r rows ih =>
      have rest := ih fun r mem => only r (List.mem_cons_of_mem _ mem)
      rw [List.map_cons]
      by_cases same : r.id = x.id
      · have eq : r = x := only r List.mem_cons_self same
        rw [eq]
        simp [draft, stays, rest]
      · simp [same, List.filter_cons, rest]

theorem posted_insert (t : Table Purchase) (x : Purchase) (draft : x.isPosted = false) :
    (t.insert x).rows.filter Purchase.isPosted = t.rows.filter Purchase.isPosted := by
  cases known : t.find? (Keyed.key x) with
  | none => simp [Table.rows_insert t x known, draft]
  | some row => rw [Table.insert_of_taken (by simp [known])]

theorem ran_assetStore {storeId : Option Id} {store : MerchantStore} {db db' : StockDb}
    (h : Ran (assetStore p storeId) db store db') : db' = db := by
  unfold assetStore at h
  simp only [ran_require_bind, ran_read_bind, ran_require] at h
  obtain ⟨id, -, -, rfl⟩ := h
  rfl

theorem ran_executeSave {data : PurchaseData} {purchaseId : Option (Option Id)} {db db' : StockDb}
    {response : StockResponse} (h : Ran (executeSave p data purchaseId) db response db') :
    Beside db db' := by
  unfold executeSave at h
  simp only [ran_bind] at h
  obtain ⟨store, db₁, located, _, db₂, count, lines, db₃, sent, day, db₄, dated, h⟩ := h
  obtain rfl := ran_assetStore located
  obtain ⟨-, rfl⟩ := (ran_ensure _ _ _ _ _).mp count
  obtain rfl := ran_purchaseLines sent
  obtain ⟨-, rfl⟩ := (ran_require _ _ _ _ _).mp dated
  cases purchaseId with
  | some purchaseId =>
      simp only [checkVersion, ran_require_bind, ran_read_bind, ran_ensure_bind, ran_write_bind,
        Option.filter_eq_some_iff] at h
      obtain ⟨id, -, old, ⟨found, -⟩, -, draft, h⟩ := h
      simp only [ran_bind, ran_pure] at h
      obtain ⟨_, db₅, noted, -, rfl⟩ := h
      rw [← Table.key_of_find? found] at found
      have still : old.isPosted = false := by simp [Purchase.isPosted, draft]
      refine Beside.trans ?_ (ran_auditRow noted)
      refine ⟨rfl, rfl, rfl, ?_, le_rfl⟩
      refine posted_modify ?_ found still ?_
      · exact fun _ => rfl
      · exact still
  | none =>
      simp only [ran_bind, ran_write, ran_pure] at h
      obtain ⟨id, db₅, drawn, -, db₆, rfl, _, db₇, noted, -, rfl⟩ := h
      obtain ⟨rfl, rfl⟩ := ran_draw drawn
      refine Beside.trans ?_ (ran_auditRow noted)
      exact ⟨rfl, rfl, rfl, posted_insert _ _ rfl, Nat.le_succ _⟩

theorem ran_savePurchase {data : PurchaseData} {key : Option String}
    {purchaseId : Option (Option Id)} {db db' : StockDb} {response : StockResponse}
    (h : Ran (savePurchase settings p data key purchaseId) db response db') : BookStep db db' := by
  unfold savePurchase at h
  split at h
  · exact .aside (ran_executeSave h)
  · exact ran_idempotent (fun _ _ _ ran => .aside (ran_executeSave ran)) h

theorem ran_newMaterial {externalId name unit : String} {unitPrecision : Nat} {db db' : StockDb}
    {row : Material} (h : Ran (newMaterial p externalId name unit unitPrecision) db row db') :
    Beside db db' := by
  unfold newMaterial at h
  simp only [ran_ensure_bind, ran_read_bind] at h
  obtain ⟨-, -, h⟩ := h
  simp only [ran_bind, ran_write, ran_pure] at h
  obtain ⟨id, db₁, drawn, _, db₂, rfl, _, db₃, noted, -, rfl⟩ := h
  obtain ⟨rfl, rfl⟩ := ran_draw drawn
  refine Beside.trans ?_ (ran_auditRow noted)
  exact ⟨rfl, rfl, rfl, rfl, Nat.le_succ _⟩

end Requests

end CoffeeCloud
