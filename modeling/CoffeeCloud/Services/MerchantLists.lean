import CoffeeCloud.Library.Base64
import CoffeeCloud.Library.IsoTime
import CoffeeCloud.Library.JsonText
import CoffeeCloud.Library.Uuid
import CoffeeCloud.Services.Reports

/-!
The lists of a merchant that come in pages: orders and the audit. A page ends with a
cursor, a text that the next request brings back; it holds the time and the id of the
last row. The session a list is asked under is read before, and with it the rows it may
see; the payload of a row is the row.
-/
namespace CoffeeCloud
open Library

/-- The interpreter that reads a cursor. -/
structure Interpreter where
  depth : Nat
  enough : 300 ≤ depth

/-- A moment as a session shows it: the offset of a zone has no fractions of a second. -/
structure Shown where
  time : IsoTime.Datetime
  offset : IsoTime.Offset
  whole : 1000000 ∣ offset.1

def Shown.instant (s : Shown) : Time := IsoTime.instant s.time s.offset

/-- A UUID. -/
abbrev Uuid := { n : Nat // n < 2 ^ 128 }

/-- A row as a list reads it. -/
class Listed (ρ : Type) where
  createdAt : ρ → Shown
  id : ρ → Uuid

section Cursor

/-- `json.dumps` of two texts that need no escapes. -/
def dumps (a b : Text) : Text := 91 :: 34 :: (a ++ 34 :: 44 :: 32 :: 34 :: (b ++ [34, 93]))

/-- A text of ASCII is its own encoding. -/
def cursorEncode (when' : Shown) (id : Uuid) : Text :=
  Base64.encode (dumps (IsoTime.isoformat when'.time when'.offset) (Uuid.render id.1))

open JsonText

/-- `a, b = value`. -/
def unpack : Value → Except Failure (Value × Value)
  | .list [a, b] => .ok (a, b)
  | .list _ => .error (.exception "ValueError")
  | .str [a, b] => .ok (.str [a], .str [b])
  | .str _ => .error (.exception "ValueError")
  | .dict [a, b] => .ok (.str a.1, .str b.1)
  | .dict _ => .error (.exception "ValueError")
  | _ => .error (.exception "TypeError")

def fromIsoFormat : Value → Except Failure (IsoTime.Datetime × Option IsoTime.Offset)
  | .str t => MerchantReports.orRaise (IsoTime.fromIsoFormat t) (.exception "ValueError")
  | _ => .error (.exception "TypeError")

/-- The decimal digits of a number. -/
def decimal (n : Nat) : Text := (Nat.toDigits 10 n).map Char.toNat

/-- `identifier(value)`. The text of any other value is none of a UUID: it is too short, or
has a bracket or a quote. The minus of a number goes with the dashes. -/
def identifier (v : Value) : Except Failure Nat :=
  let found := match v with
    | .str t => Uuid.parse? t
    | .int n => Uuid.parse? (decimal n.natAbs)
    | _ => none
  MerchantReports.orRaise found (.serviceError 404 "NOT_FOUND")

def loads (py : Interpreter) (bytes : List Nat) : Except Failure Value :=
  match JsonText.loads py.depth bytes with
  | .ok v => .ok v
  | .error .invalid => .error (.exception "ValueError")
  | .error .tooDeep => .error (.exception "RecursionError")

/-- `except (ValueError, TypeError, KeyError)`. -/
def orInvalidCursor {α : Type} : Except Failure α → Except Failure α
  | .error (.exception name) =>
      if name ∈ ["ValueError", "TypeError", "KeyError"] then
        .error (.serviceError 422 "INVALID_CURSOR")
      else .error (.exception name)
  | r => r

/-- The body of the decoder's `try`. -/
def readCursor (py : Interpreter) (value : Text) :
    Except Failure ((IsoTime.Datetime × IsoTime.Offset) × Nat) :=
  if 300 < value.length then .error (.exception "ValueError")
  else do
    let bytes ← MerchantReports.orRaise (Base64.decode value) (.exception "ValueError")
    let (stamp, rowId) ← loads py bytes >>= unpack
    let (when', zone) ← fromIsoFormat stamp
    let offset ← MerchantReports.orRaise zone (.exception "ValueError")
    let id ← identifier rowId
    pure ((when', offset), id)

def cursorDecode (py : Interpreter) (value : Text) :
    Except Failure ((IsoTime.Datetime × IsoTime.Offset) × Nat) :=
  orInvalidCursor (readCursor py value)

end Cursor

section Pages
variable {ρ : Type} [Listed ρ]

structure Page (ρ : Type) where
  data : List ρ
  nextCursor : Option Text

/-- `(created_at, id)`. -/
abbrev Position := Time × Nat

def position (r : ρ) : Position := ((Listed.createdAt r).instant, (Listed.id r).1)

/-- `a < b`, for rows of two values. -/
def Position.precedes (a b : Position) : Bool := a.1 < b.1 ∨ a.1 = b.1 ∧ a.2 < b.2

/-- `if params.get('cursor')`: the row has to be before what the cursor says. -/
def cursorClause (py : Interpreter) (cursor : Option Text) : Except Failure (Option Position) :=
  match cursor with
  | none | some [] => .ok none
  | some text => (cursorDecode py text).map fun c => some (IsoTime.instant c.1.1 c.1.2, c.2)

/-- `order by created_at desc, id desc`. -/
def newestFirst (rows : List ρ) : List ρ := rows.mergeSort fun a b => !(position a).precedes (position b)

/-- A list in pages of fifty: one row more is read, which says whether there is a next page. -/
def listPage (py : Interpreter) (rows : List ρ) (clauses : ρ → Bool) (cursor : Option Text) :
    Except Failure (Page ρ) := do
  let before ← cursorClause py cursor
  let rows := (newestFirst (rows.filter fun r => clauses r ∧
    before.all fun c => (position r).precedes c)).take 51
  pure ⟨rows.take 50, if 50 < rows.length then
    rows[49]?.map fun r => cursorEncode (Listed.createdAt r) (Listed.id r) else none⟩

end Pages

/-- `sales_order`, with the moment of creation as the session shows it. -/
structure OrderRow extends MerchantOrder where
  shown : Shown
  created : shown.instant = createdAt
  uuid : id < 2 ^ 128

instance : Keyed OrderRow Id := ⟨fun r => r.id⟩

instance : Listed OrderRow := ⟨OrderRow.shown, fun r => ⟨r.id, r.uuid⟩⟩

/-- `merchant_audit`. -/
structure AuditRow where
  id : Id
  tenantId : Id
  action : String
  createdAt : Time
  shown : Shown
  created : shown.instant = createdAt
  uuid : id < 2 ^ 128

instance : Keyed AuditRow Id := ⟨fun r => r.id⟩

instance : Listed AuditRow := ⟨AuditRow.shown, fun r => ⟨r.id, r.uuid⟩⟩

def OrderStatus.text : OrderStatus → String
  | .created => "CREATED"
  | .awaitingPayment => "AWAITING_PAYMENT"
  | .paid => "PAID"
  | .queued => "QUEUED"
  | .dispatched => "DISPATCHED"
  | .accepted => "ACCEPTED"
  | .making => "MAKING"
  | .ready => "READY"
  | .hold => "HOLD"
  | .failed => "FAILED"
  | .cancelled => "CANCELLED"
  | .expired => "EXPIRED"
  | .refunded => "REFUNDED"

/-- Who asks: the tenant, and the stores of a membership that has only some. -/
structure ListViewer where
  tenantId : Id
  stores : Option (List Id)

structure ListParams where
  start : Option (Option Int) := none
  stop : Option (Option Int) := none
  environment : String := "LIVE"
  storeId : Option (Option Id) := none
  deviceId : String := ""
  status : String := ""
  action : String := ""

namespace MerchantOrders

structure Filter where
  start : Time
  stop : Time
  environment : LedgerEnvironment
  storeId : Option Id
  terminalId : Option Id
  status : String

def storeFilter : Option (Option Id) → Except Failure (Option Id)
  | none => .ok none
  | some none => .error (.serviceError 404 "NOT_FOUND")
  | some (some storeId) => .ok (some storeId)

def deviceFilter (deviceId : String) : Except Failure (Option Id) :=
  if deviceId = "" then .ok none
  else if Digits.isDigits deviceId then
    (MerchantReports.orRaise (Digits.int? deviceId) (.exception "ValueError")).map some
  else .error (.serviceError 422 "INVALID_DEVICE")

def parse (zone : CivilZone) (today : Int) (params : ListParams) : Except Failure Filter := do
  let ⟨(start, stop), _⟩ ← MerchantReports.period today
    { start := params.start, stop := params.stop }
  let environment ← MerchantReports.orRaise (MerchantReports.parseEnvironment params.environment)
    (.serviceError 422 "INVALID_ENVIRONMENT")
  let storeId ← storeFilter params.storeId
  let terminalId ← deviceFilter params.deviceId
  pure
    { start := zone.midnight start
      stop := zone.midnight stop
      environment
      storeId
      terminalId
      status := params.status }

def clauses (p : ListViewer) (f : Filter) (r : OrderRow) : Bool :=
  r.tenantId = p.tenantId ∧ f.start ≤ r.createdAt ∧ r.createdAt < f.stop ∧
    r.environment = f.environment ∧ p.stores.all (fun stores => r.storeId.any (· ∈ stores)) ∧
      f.storeId.all (fun s => r.storeId = some s) ∧ f.terminalId.all (fun t => r.terminalId = t) ∧
        (f.status = "" ∨ r.status.text = f.status ∨ r.paymentStatus.text = f.status)

def orders (py : Interpreter) (zone : CivilZone) (p : ListViewer) (rows : Table OrderRow)
    (today : Int) (params : ListParams) (cursor : Option Text) : Except Failure (Page OrderRow) := do
  let f ← parse zone today params
  listPage py rows.rows (clauses p f) cursor

end MerchantOrders

namespace MerchantReports

def auditClauses (p : ListViewer) (interval : Time × Time) (action : String) (r : AuditRow) : Bool :=
  r.tenantId = p.tenantId ∧ interval.1 ≤ r.createdAt ∧ r.createdAt < interval.2 ∧
    (action = "" ∨ r.action = action)

def audit (py : Interpreter) (zone : CivilZone) (p : ListViewer) (rows : Table AuditRow)
    (today : Int) (params : ListParams) (cursor : Option Text) : Except Failure (Page AuditRow) := do
  let ⟨(start, stop), _⟩ ← period today { start := params.start, stop := params.stop }
  listPage py rows.rows
    (auditClauses p (zone.midnight start, zone.midnight stop) params.action) cursor

end MerchantReports
end CoffeeCloud
