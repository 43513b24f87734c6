import CoffeeCloud.Library.Average
import CoffeeCloud.Services.Expenses
import CoffeeCloud.Services.Ownership

/-!
The stock book of a merchant: purchases and what they put in, movements between
places, waste and adjustments, each at the average cost of the place it leaves. A
tenant's requests that touch the book hold its inventory lock from the start, so each
is one transaction. The session it acts under and its rights are read before;
identifiers and dates of a request come parsed. Quantities are in millionths.
-/
namespace CoffeeCloud
open Library

structure Material where
  id : Id
  tenantId : Id
  externalId : String
  name : String
  unit : String
  unitPrecision : Nat := 3

/-- A line of a purchase, as `_purchase_lines` stores it. -/
structure PurchaseLine where
  materialId : Id
  quantity : Int
  quantityPositive : 0 < quantity
  totalCostMinor : Int
  costPositive : 0 < totalCostMinor

def PurchaseLine.of (materialId : Id) : { v : Int // 0 < v } → { v : Int // 0 < v } → PurchaseLine
  | ⟨quantity, arrives⟩, ⟨cost, paid⟩ => ⟨materialId, quantity, arrives, cost, paid⟩

inductive PurchaseStatus where
  | draft | posted
deriving DecidableEq, Repr

structure Purchase where
  id : Id
  tenantId : Id
  storeId : Id
  purchasedOn : Int
  supplier : String
  note : String
  lines : List PurchaseLine
  status : PurchaseStatus := .draft
  version : Int := 1
  postedAt : Option Time := none

/-- `location_key`: `STORE:` or `DEVICE:` with the identifier. -/
inductive LocationKey where
  | store (id : Id)
  | device (id : Id)
deriving DecidableEq, Repr

/-- Whose stock of what, and where. -/
abbrev StockKey := Id × Id × LocationKey

structure StockRow where
  tenantId : Id
  materialId : Id
  locationKey : LocationKey
  storeId : Id
  terminalId : Option Id
  quantity : Int := 0
  valueMinor : Option Int := some 0
  version : Nat := 1

inductive MovementType where
  | purchase | restock | waste | adjustment | transfer
deriving DecidableEq, Repr

/-- `kind.lower()`. -/
def MovementType.lower : MovementType → String
  | .purchase => "purchase"
  | .restock => "restock"
  | .waste => "waste"
  | .adjustment => "adjustment"
  | .transfer => "transfer"

/-- `source_key` of a movement: `purchase:` with the purchase and the index of its line, or
`movement:` with an identifier drawn for the request. -/
inductive MovementSource where
  | purchase (purchaseId : Id) (index : Nat)
  | movement (uuid : Nat)
deriving DecidableEq, Repr

/-- A row of `merchant_inventory_movement`; its unit cost has twelve decimal places. -/
structure Movement where
  tenantId : Id
  materialId : Id
  storeId : Id
  terminalId : Option Id
  locationKey : LocationKey
  type : MovementType
  quantity : Int
  amountMinor : Option Int
  unitCostMinor : Option Int
  sourceKey : MovementSource
  reason : String
  occurredAt : Time

inductive StockOperationKind where
  | purchaseCreate | inventoryMovement
deriving DecidableEq, Repr

/-- What a request is answered with: the purchase it saved, or the movement it made last. -/
inductive StockResponse where
  | purchase (row : Purchase)
  | movement (row : Movement)

structure StockOperation where
  tenantId : Id
  operation : StockOperationKind
  key : String
  digest : String
  response : StockResponse

instance : Keyed Material Id := ⟨Material.id⟩
instance : Keyed Purchase Id := ⟨Purchase.id⟩
instance : Keyed StockRow StockKey := ⟨fun r => (r.tenantId, r.materialId, r.locationKey)⟩
instance : Keyed Movement (Id × MovementSource × LocationKey × Id) :=
  ⟨fun m => (m.tenantId, m.sourceKey, m.locationKey, m.materialId)⟩
instance : Keyed StockOperation (Id × StockOperationKind × String) :=
  ⟨fun o => (o.tenantId, o.operation, o.key)⟩

namespace Purchase

/-- `status='POSTED',posted_at=now(),version=version+1`. -/
def post (now : Time) (x : Purchase) : Purchase :=
  { x with status := .posted, postedAt := some now, version := x.version + 1 }

theorem key_post (now : Time) (x : Purchase) : Keyed.key (x.post now) = Keyed.key x := rfl

end Purchase

/-- The tables; `stores` are the active ones. `drawn` counts the identifiers drawn so far. -/
structure StockDb where
  stores : Table MerchantStore := .empty
  devices : Table OwnedTerminal := .empty
  materials : Table Material := .empty
  purchases : Table Purchase := .empty
  stock : Table StockRow := .empty
  movements : Table Movement := .empty
  ledger : Table LedgerEntry := .empty
  operations : Table StockOperation := .empty
  audit : List MerchantAudit := []
  drawn : Nat := 0

abbrev StockTx (α : Type) := Tx StockDb Failure α

/-- A store a request names; not every text of an identifier is the one the store prints. -/
structure StoreReference where
  id : Option Id
  canonical : Bool := true

/-- The place a request names; what it sends empty it does not name. -/
structure LocationReference where
  storeId : Option StoreReference := none
  deviceId : Option String := none

structure StockLocation where
  key : LocationKey
  storeId : Id
  terminalId : Option Id

/-- A line as it is sent; a quantity that is no text and an amount that is no `int` are missing. -/
structure LineData where
  materialId : Option Id
  quantity : Option String
  totalCostMinor : Option Int

structure PurchaseData where
  json : Json
  storeId : Option Id
  purchasedOn : Option Int
  supplier : String := ""
  note : String := ""
  lines : List LineData

structure MovementData where
  json : Json
  materialId : Option Id
  quantity : Option String
  source : LocationReference
  target : LocationReference

namespace MerchantCosts
open Tx

/-- `\d{1,15}(?:\.\d{1,6})?`: the digits before the point and those after it. -/
def digitsOf (text : List Char) : Option (List Nat × List Nat) :=
  let (whole, rest) := Decimal.digits text
  if 1 ≤ whole.length ∧ whole.length ≤ 15 then
    match rest with
    | [] => some (whole, [])
    | '.' :: cs =>
        let (fraction, rest) := Decimal.digits cs
        if rest = [] ∧ 1 ≤ fraction.length ∧ fraction.length ≤ 6 then some (whole, fraction)
        else none
    | _ => none
  else none

def invalidQuantity : Failure := .serviceError 422 "INVALID_QUANTITY"

/-- In millionths. -/
def quantity (value : Option String) (signed : Bool) (precision : Nat) : Except Failure Int :=
  let text := (value.getD "").toList
  let negative := signed && text.head? = some '-'
  match digitsOf (if negative then text.tail else text) with
  | none => .error invalidQuantity
  | some (whole, fraction) =>
      let millionths := Decimal.ofDigits (whole ++ fraction) * 10 ^ (6 - fraction.length)
      if millionths = 0 ∨ precision < fraction.length then .error invalidQuantity
      else .ok (if negative then -(millionths : Int) else millionths)

def orFail {α : Type} : Except Failure α → StockTx α
  | .ok a => pure a
  | .error e => raise e

/-- `check_version`. -/
def checkVersion (version : Int) (data : Json) : StockTx Unit :=
  ensure ((data.getD "version").asInt? = some version) (.serviceError 409 "VERSION_CONFLICT")

variable (settings : AssetSettings) (tenant : TenantProfile) (p : MerchantPrincipal)

def auditRow (action resourceType : String) : StockTx Unit :=
  write fun db => { db with audit := db.audit ++ [⟨p.tenantId, p.userId, action, resourceType⟩] }

/-- A new identifier. -/
def draw : StockTx Nat := do
  let uuid ← read (·.drawn)
  write fun db => { db with drawn := uuid + 1 }
  pure uuid

def material (materialId : Option Id) : StockTx Material := do
  let materialId ← require materialId (.serviceError 404 "NOT_FOUND")
  let row ← read fun db => (db.materials.find? materialId).filter fun m => m.tenantId = p.tenantId
  require row (.serviceError 404 "NOT_FOUND")

def newMaterial (externalId name unit : String) (unitPrecision : Nat) : StockTx Material := do
  ensure (unitPrecision ≤ 6) (.serviceError 422 "INVALID_PRECISION")
  let taken ← read fun db => db.materials.rows.any fun m =>
    m.tenantId = p.tenantId ∧ m.externalId = externalId
  ensure (taken = false) (.serviceError 409 "MATERIAL_EXISTS")
  let id ← draw
  let row : Material := ⟨id, p.tenantId, externalId, name, unit, unitPrecision⟩
  write fun db => { db with materials := db.materials.insert row }
  auditRow p "material.create" "material"
  pure row

/-- `MerchantAssets.device`. -/
def assetDevice (text : String) : StockTx OwnedTerminal := do
  ensure (Digits.isDigits text ∧ text.length ≤ 18) (.serviceError 404 "NOT_FOUND")
  let terminalId ← require (AssetRequests.deviceIdOf text) (.exception "ValueError")
  let found ← read fun db => (db.devices.find? terminalId).filter fun t =>
    t.tenantId = p.tenantId ∧ storeAllowed p t.storeId
  require found (.serviceError 404 "NOT_FOUND")

/-- `MerchantAssets.store`. -/
def assetStore (storeId : Option Id) : StockTx MerchantStore := do
  let storeId ← require storeId (.serviceError 404 "NOT_FOUND")
  let found ← read fun db => (db.stores.find? storeId).filter fun s =>
    s.tenantId = p.tenantId ∧ storeAllowed p (some s.id)
  require found (.serviceError 404 "NOT_FOUND")

def StoreReference.names (r : StoreReference) (storeId : Option Id) : Bool :=
  r.canonical ∧ r.id.isSome ∧ r.id = storeId

def location (ref : LocationReference) : StockTx StockLocation :=
  match ref.deviceId with
  | some text => do
      let device ← assetDevice p text
      ensure (ref.storeId.all (StoreReference.names · device.storeId))
        (.serviceError 409 "LOCATION_MISMATCH")
      let storeId ← require device.storeId (.serviceError 409 "STORE_REQUIRED")
      pure ⟨.device device.id, storeId, some device.id⟩
  | none => do
      let store ← assetStore p (ref.storeId.bind (·.id))
      pure ⟨.store store.id, store.id, none⟩

def emptyRow (material : Material) (loc : StockLocation) : StockRow :=
  { tenantId := p.tenantId, materialId := material.id, locationKey := loc.key
    storeId := loc.storeId, terminalId := loc.terminalId }

/-- The stock row of a place, entered empty where it has none. A row whose store the session may
not see is taken and is not found. -/
def stock (material : Material) (loc : StockLocation) : StockTx StockRow := do
  write fun db => { db with stock := db.stock.insert (emptyRow p material loc) }
  let row ← read fun db => db.stock.find? (p.tenantId, material.id, loc.key)
  require (row.filter fun r => storeAllowed p (some r.storeId)) (.exception "TypeError")

/-- The average cost of a unit, to 28 digits; a unit is a million millionths. -/
def unitCost (value quantity : Int) : Rat := keep 28 (value / (quantity / 10 ^ 6 : Rat))

/-- `int((qty*unit_cost).quantize(Decimal('1'),rounding=ROUND_HALF_UP))`. -/
def charge (value before quantity : Int) : Int :=
  halfUp (keep 28 (quantity / 10 ^ 6 * unitCost value before))

def outOfRange : Failure := .exception "NumericValueOutOfRange"

def isBigint (n : Int) : Bool := -2 ^ 63 ≤ n ∧ n < 2 ^ 63

/-- A unit cost as `numeric(30,12)` stores it. -/
def storedCost (cost : Option Rat) : StockTx (Option Int) :=
  match cost with
  | none => pure none
  | some cost => do
      let stored := halfUp (cost * 10 ^ 12)
      ensure (stored < 10 ^ 30) outOfRange
      pure (some stored)

/-- `update merchant_stock`, with the checks and the ranges of its columns. -/
def putStock (row : StockRow) (quantity : Int) (valueMinor : Option Int) : StockTx Unit := do
  ensure (quantity < 10 ^ 24) outOfRange
  ensure (valueMinor.all isBigint) outOfRange
  ensure (0 ≤ quantity) (.checkViolation "quantity")
  ensure (valueMinor.all (0 ≤ ·)) (.checkViolation "value_minor")
  write fun db => { db with
    stock := db.stock.modify (Keyed.key row) fun r => { r with
      quantity, valueMinor, version := r.version + 1 } }

def insertMovement (m : Movement) : StockTx Unit := do
  ensure (m.amountMinor.all isBigint) outOfRange
  let taken ← read fun db => (db.movements.find? (Keyed.key m)).isSome
  ensure (taken = false) (.uniqueViolation "merchant_inventory_movement")
  write fun db => { db with movements := db.movements.insert m }

/-- What a movement takes with it and what it leaves. -/
structure Weighed where
  cost : Option Int
  remaining : Option Int
  unitCost : Option Rat

def weigh (row : StockRow) (qty : Int) (incoming : Option Int) : Weighed :=
  let after := row.quantity + qty
  if qty < 0 then
    let average := row.valueMinor.bind fun v =>
      if row.quantity ≠ 0 then some (unitCost v row.quantity) else none
    let cost := if after = 0 then row.valueMinor else row.valueMinor.bind fun v =>
      if row.quantity ≠ 0 then some (charge v row.quantity (-qty)) else none
    let remaining := row.valueMinor.bind fun v => cost.map (v - ·)
    ⟨cost, if after = 0 then some 0 else remaining, average⟩
  else
    ⟨incoming, row.valueMinor.bind fun v => incoming.map (v + ·),
      incoming.map fun c => unitCost c qty⟩

def move (material : Material) (loc : StockLocation) (qty : Int) (kind : MovementType)
    (key : MovementSource) (reason : String) (occurred : Time) (incoming : Option Int) :
    StockTx (Movement × Option Int) := do
  let row ← stock p material loc
  ensure (0 ≤ row.quantity + qty) (.serviceError 409 "INSUFFICIENT_STOCK")
  let weighed := weigh row qty incoming
  putStock row (row.quantity + qty) weighed.remaining
  let unitCostMinor ← storedCost weighed.unitCost
  let m : Movement := ⟨p.tenantId, material.id, loc.storeId, loc.terminalId, loc.key, kind, qty,
    weighed.cost, unitCostMinor, key, reason, occurred⟩
  insertMovement m
  pure (m, weighed.cost)

/-- `idempotent`: a key that was used before is answered with what was answered then. -/
def idempotent (operation : StockOperationKind) (key : Option String) (data : Json)
    (execute : StockTx StockResponse) : StockTx StockResponse := do
  let key ← require (key.filter fun k => k ≠ "" ∧ k.length ≤ 160)
    (.serviceError 400 "IDEMPOTENCY_REQUIRED")
  let row ← read fun db => db.operations.find? (p.tenantId, operation, key)
  match row with
  | some row => do
      ensure (row.digest = settings.canonicalDigest data) (.serviceError 409 "IDEMPOTENCY_CONFLICT")
      pure row.response
  | none => do
      let response ← execute
      let row : StockOperation :=
        ⟨p.tenantId, operation, key, settings.canonicalDigest data, response⟩
      write fun db => { db with operations := db.operations.insert row }
      pure response

def purchaseLine (line : LineData) : StockTx PurchaseLine := do
  let material ← material p line.materialId
  let parsed ← orFail (quantity line.quantity false material.unitPrecision)
  let qty ← require (positive parsed) invalidQuantity
  let cost ← require ((money line.totalCostMinor).bind positive)
    (.serviceError 422 "INVALID_AMOUNT")
  pure (.of material.id qty cost)

def purchaseLines : List LineData → StockTx (List PurchaseLine)
  | [] => pure []
  | line :: lines => do
      let first ← purchaseLine p line
      let rest ← purchaseLines lines
      pure (first :: rest)

/-- `execute` of `save_purchase`. -/
def executeSave (data : PurchaseData) (purchaseId : Option (Option Id)) : StockTx StockResponse := do
  let store ← assetStore p data.storeId
  ensure (1 ≤ data.lines.length ∧ data.lines.length ≤ 100) (.serviceError 422 "INVALID_LINES")
  let lines ← purchaseLines p data.lines
  let purchasedOn ← require data.purchasedOn (.serviceError 422 "INVALID_DATE")
  let supplier := String.ofList (data.supplier.toList.take 160)
  let note := String.ofList (data.note.toList.take 1000)
  match purchaseId with
  | some purchaseId => do
      let purchaseId ← require purchaseId (.serviceError 404 "NOT_FOUND")
      let found ← read fun db => (db.purchases.find? purchaseId).filter fun x =>
        x.tenantId = p.tenantId ∧ storeAllowed p (some x.storeId)
      let old ← require found (.serviceError 404 "NOT_FOUND")
      checkVersion old.version data.json
      ensure (old.status = .draft) (.serviceError 409 "NOT_DRAFT")
      write fun db => { db with purchases := db.purchases.modify old.id fun x => { x with
        storeId := store.id, purchasedOn, supplier, note, lines, version := x.version + 1 } }
      auditRow p "purchase.save" "purchase"
      pure (.purchase { old with
        storeId := store.id, purchasedOn, supplier, note, lines, version := old.version + 1 })
  | none => do
      let id ← draw
      let row : Purchase := {
        id, tenantId := p.tenantId, storeId := store.id, purchasedOn, supplier, note, lines }
      write fun db => { db with purchases := db.purchases.insert row }
      auditRow p "purchase.save" "purchase"
      pure (.purchase row)

def savePurchase (data : PurchaseData) (key : Option String) (purchaseId : Option (Option Id)) :
    StockTx StockResponse :=
  if purchaseId.isSome then executeSave p data purchaseId
  else idempotent settings p .purchaseCreate key data.json (executeSave p data purchaseId)

/-- What the lines of a purchase put into its store, from line `index` on. -/
def putIn (row : Purchase) (loc : StockLocation) (now : Time) :
    Nat → List PurchaseLine → StockTx Unit
  | _, [] => pure ()
  | index, line :: lines => do
      let material ← material p (some line.materialId)
      let _ ← move p material loc line.quantity .purchase (.purchase row.id index) row.note now
        (some line.totalCostMinor)
      putIn row loc now (index + 1) lines

def postPurchase (purchaseId : Option Id) (data : Json) (now : Time) : StockTx Purchase := do
  let purchaseId ← require purchaseId (.serviceError 404 "NOT_FOUND")
  let found ← read fun db => (db.purchases.find? purchaseId).filter fun x =>
    x.tenantId = p.tenantId ∧ storeAllowed p (some x.storeId)
  let row ← require found (.serviceError 404 "NOT_FOUND")
  if row.status = .posted then pure row
  else do
    checkVersion row.version data
    let loc ← location p { storeId := some ⟨some row.storeId, true⟩ }
    putIn p row loc now 0 row.lines
    write fun db => { db with
      purchases := db.purchases.modify row.id (Purchase.post now) (Purchase.key_post now) }
    auditRow p "purchase.post" "purchase"
    pure (row.post now)

/-- The kinds of movement a request may ask for. -/
def parseKind : String → Option MovementType
  | "RESTOCK" => some .restock
  | "WASTE" => some .waste
  | "ADJUSTMENT" => some .adjustment
  | "TRANSFER" => some .transfer
  | _ => none

/-- The ledger entry of what is written off. -/
def wasteEntry (loc : StockLocation) (uuid : Nat) (cost : Option Int) (now : Time) : LedgerEntry :=
  { tenantId := p.tenantId, sourceKey := .other ("movement:" ++ uuid.repr), storeId := some loc.storeId
    terminalId := loc.terminalId, kind := .waste, amountMinor := cost
    environment := if tenant.environment = "INTERNAL_TEST" then .test else .live
    occurredAt := now, basis := if cost.isSome then "ACTUAL" else "UNKNOWN" }

def writeOff (entry : LedgerEntry) : StockTx Unit :=
  write fun db => { db with ledger := db.ledger.insert entry }

/-- Out of one place and into another. -/
def carry (material : Material) (source target : StockLocation) (qty : Int) (kind : MovementType)
    (uuid : Nat) (reason : String) (now : Time) : StockTx Movement := do
  ensure (target.key ≠ source.key) (.serviceError 422 "SAME_LOCATION")
  let out ← move p material source (-qty) kind (.movement uuid) reason now none
  let row ← move p material target qty kind (.movement uuid) reason now out.2
  pure row.1

/-- At one place: what is wasted, or found to be missing or there. -/
def adjustStock (material : Material) (source : StockLocation) (qty : Int) (kind : MovementType)
    (uuid : Nat) (reason : String) (now : Time) : StockTx Movement := do
  let row ← move p material source qty kind (.movement uuid) reason now none
  if qty < 0 then writeOff (wasteEntry tenant p source uuid row.2 now)
  pure row.1

def makeMovement (kind : MovementType) (data : MovementData) (now : Time) :
    StockTx StockResponse := do
  let material ← material p data.materialId
  let qty ← orFail (quantity data.quantity (kind = .adjustment) material.unitPrecision)
  let reason ← require (reasonField data.json) (.serviceError 422 "INVALID_FIELD")
  let uuid ← draw
  let source ← location p data.source
  if kind = .transfer ∨ kind = .restock then do
    let target ← location p data.target
    let row ← carry p material source target qty kind uuid reason now
    auditRow p ("inventory." ++ kind.lower) "material"
    pure (.movement row)
  else do
    let row ← adjustStock tenant p material source (if kind = .waste then -qty else qty) kind uuid
      reason now
    auditRow p ("inventory." ++ kind.lower) "material"
    pure (.movement row)

def movement (data : MovementData) (key : Option String) (now : Time) : StockTx StockResponse := do
  let kind ← require (((data.json.getD "type").asStr?).bind parseKind)
    (.serviceError 422 "INVALID_MOVEMENT")
  idempotent settings p .inventoryMovement key data.json (makeMovement tenant p kind data now)

end MerchantCosts
end CoffeeCloud
