import CoffeeCloud.Library.Dict
import CoffeeCloud.Library.Digits
import CoffeeCloud.Services.Expenses

/-!
The operating report of a merchant: what the ledger and the delivered orders of a
period come to, day by day, in groups of days, and in all. The session it is asked
under is read before, and with it the rows the session may see; the dates, the store
and the device come parsed. The summary that each report writes is never read.
-/
namespace CoffeeCloud
open Library

/-- A zone whose days follow one another, each from its midnight on. -/
structure CivilZone extends Zone where
  begins : ∀ d t, midnight d ≤ t ↔ d ≤ day t

/-- A zone without changes of the clock. -/
def CivilZone.fixed (offset : Time) : CivilZone where
  toZone := .fixed offset
  begins d t := by
    change d * 86400000000 - offset ≤ t ↔ d ≤ (t + offset) / 86400000000
    omega

/-- An amount or a count; `⊤` is one that is unknown. -/
abbrev Amount := WithTop Int

/-- `FIELDS`. -/
inductive ReportField where
  | receivedMinor | refundedMinor | recognizedRevenueMinor | materialCostMinor | wasteCostMinor
  | paymentFeeMinor | operatingExpenseMinor | paidOrderCount | deliveredCupCount
deriving DecidableEq, Repr

abbrev ReportValues := ReportField → Amount

inductive Grain where
  | day | month | year
deriving DecidableEq, Repr

/-- The text of a row's period: a date, a year with its month, or a year. -/
inductive PeriodKey where
  | day (ordinal : Int)
  | month (year month : Int)
  | year (year : Int)
deriving DecidableEq, Repr

/-- The columns of an order that reports and lists of a merchant read. -/
structure MerchantOrder where
  id : Id
  tenantId : Id
  storeId : Option Id
  terminalId : Id
  environment : LedgerEnvironment
  status : OrderStatus
  paymentStatus : PaymentStatus
  paymentMode : PaymentMode
  createdAt : Time
  completedAt : Option Time

instance : Keyed MerchantOrder Id := ⟨MerchantOrder.id⟩

structure ReportDb where
  ledger : Table LedgerEntry
  orders : Table MerchantOrder
  stores : Table MerchantStore

structure ReportQuery where
  start : Int
  stop : Int
  interval : 0 < stop - start ∧ stop - start ≤ 3660
  grain : Grain
  environment : LedgerEnvironment
  storeId : Option Id
  terminalId : Option Id

/-- `if device_id`: the device 0 is none to select by. -/
def ReportQuery.device (q : ReportQuery) : Option Id := q.terminalId.filter (· ≠ 0)

/-- What is sent: `some none` is a text that is no date, or no identifier. -/
structure ReportParams where
  start : Option (Option Int) := none
  stop : Option (Option Int) := none
  grain : String := "DAY"
  environment : String := "LIVE"
  storeId : Option (Option Id) := none
  deviceId : Option String := none

/-- A row of the ledger's aggregate: `sum` of amounts, of which there may be none. -/
structure LedgerGroup where
  day : Int
  kind : LedgerKind
  amount : Option Int
  missing : Nat
  orders : Nat

structure DeliveryGroup where
  day : Int
  cups : Nat
  missing : Nat

/-- The order in which a store returns the rows of an aggregate. -/
structure RowOrder where
  events : List LedgerGroup → List LedgerGroup
  deliveries : List DeliveryGroup → List DeliveryGroup
  events_perm : ∀ groups, (events groups).Perm groups
  deliveries_perm : ∀ groups, (deliveries groups).Perm groups

@[ext] structure Finished where
  values : ReportValues
  netCashMinor : Amount
  grossProfitMinor : Amount
  estimatedProfitMinor : Amount
  missing : List ReportField

structure ReportRow where
  period : PeriodKey
  finished : Finished

structure Report where
  rows : List ReportRow
  totals : Finished

namespace MerchantReports

/-- `KIND`. -/
def kindOf : LedgerKind → Option (ReportField × Int)
  | .collection => some (.receivedMinor, 1)
  | .refund => some (.refundedMinor, 1)
  | .revenue => some (.recognizedRevenueMinor, 1)
  | .revenueReversal => some (.recognizedRevenueMinor, -1)
  | .material => some (.materialCostMinor, 1)
  | .waste => some (.wasteCostMinor, 1)
  | .fee => some (.paymentFeeMinor, 1)
  | .expense => some (.operatingExpenseMinor, 1)
  | .expenseReversal => some (.operatingExpenseMinor, -1)
  | .costAdjustment => none

/-- `a - b`, which raises where one of them is `None`. -/
def minus (a b : Amount) : Except Failure Amount :=
  if a = ⊤ ∨ b = ⊤ then .error (.exception "TypeError")
  else .ok ((a.untopD 0 - b.untopD 0 : Int) : Amount)

def costs : List ReportField :=
  [.materialCostMinor, .wasteCostMinor, .paymentFeeMinor, .operatingExpenseMinor]

def missing (values : ReportValues) : List ReportField := costs.filter fun k => values k = ⊤

def grossProfit (values : ReportValues) : Except Failure Amount :=
  if values .materialCostMinor = ⊤ then pure ⊤
  else minus (values .recognizedRevenueMinor) (values .materialCostMinor)

def estimatedProfit (values : ReportValues) (gross : Amount) : Except Failure Amount :=
  if missing values ≠ [] then pure ⊤
  else do
    let profit ← minus gross (values .wasteCostMinor)
    let profit ← minus profit (values .paymentFeeMinor)
    minus profit (values .operatingExpenseMinor)

def finish (values : ReportValues) : Except Failure Finished := do
  let netCash ← minus (values .receivedMinor) (values .refundedMinor)
  let gross ← grossProfit values
  let estimated ← estimatedProfit values gross
  pure ⟨values, netCash, gross, estimated, missing values⟩

def add (target source : ReportValues) : ReportValues := fun key =>
  if target key = ⊤ ∨ source key = ⊤ then ⊤ else target key + source key

def invalidPeriod : Failure := .serviceError 422 "INVALID_PERIOD"

def period (today : Int) (params : ReportParams) :
    Except Failure { i : Int × Int // 0 < i.2 - i.1 ∧ i.2 - i.1 ≤ 3660 } :=
  match params.start.getD (some (today - 6)), params.stop.getD (some (today + 1)) with
  | some start, some stop =>
      if h : 0 < stop - start ∧ stop - start ≤ 3660 then .ok ⟨(start, stop), h⟩
      else .error invalidPeriod
  | _, _ => .error invalidPeriod

def parseGrain : String → Option Grain
  | "DAY" => some .day
  | "MONTH" => some .month
  | "YEAR" => some .year
  | _ => none

def parseEnvironment : String → Option LedgerEnvironment
  | "LIVE" => some .live
  | "TEST" => some .test
  | _ => none

def orRaise {α : Type} (o : Option α) (e : Failure) : Except Failure α := o.elim (.error e) .ok

/-- The store of a report, which may be closed. -/
def reportStore (db : ReportDb) (tenantId : Id) :
    Option (Option Id) → Except Failure (Option Id)
  | none => .ok none
  | some none => .error (.serviceError 404 "NOT_FOUND")
  | some (some storeId) =>
      if (db.stores.find? storeId).any fun s => s.tenantId = tenantId then .ok (some storeId)
      else .error (.serviceError 404 "NOT_FOUND")

def reportDevice : Option String → Except Failure (Option Id)
  | none => .ok none
  | some text =>
      if text = "" then .ok none
      else if Digits.isDigits text ∧ text.length ≤ 18 then
        (orRaise (Digits.int? text) (.exception "ValueError")).map some
      else .error (.serviceError 422 "INVALID_DEVICE")

def parseQuery (db : ReportDb) (tenantId : Id) (today : Int) (params : ReportParams) :
    Except Failure ReportQuery := do
  let ⟨(start, stop), interval⟩ ← period today params
  let grain ← orRaise (parseGrain params.grain) (.serviceError 422 "INVALID_REPORT")
  let environment ← orRaise (parseEnvironment params.environment)
    (.serviceError 422 "INVALID_REPORT")
  let storeId ← reportStore db tenantId params.storeId
  let terminalId ← reportDevice params.deviceId
  pure { start, stop, interval, grain, environment, storeId, terminalId }

variable (zone : CivilZone) (tenantId : Id)

/-- The rows of the ledger that a report is about. -/
def selects (q : ReportQuery) (e : LedgerEntry) : Bool :=
  e.tenantId = tenantId ∧ zone.midnight q.start ≤ e.occurredAt ∧
    e.occurredAt < zone.midnight q.stop ∧ e.environment = q.environment ∧
      q.storeId.all (fun s => e.storeId = some s) ∧ q.device.all fun t => e.terminalId = some t

def entryKey (e : LedgerEntry) : Int × LedgerKind := (zone.day e.occurredAt, e.kind)

def groupOf (rows : List LedgerEntry) (key : Int × LedgerKind) : LedgerGroup :=
  let group := rows.filter fun e => entryKey zone e = key
  let known := group.filterMap (·.amountMinor)
  { day := key.1
    kind := key.2
    amount := if known = [] then none else some known.sum
    missing := group.countP fun e => e.amountMinor = none
    orders := (group.filterMap (·.orderId)).dedup.length }

/-- `group by day, kind`. -/
def ledgerGroups (rows : List LedgerEntry) : List LedgerGroup :=
  (rows.map (entryKey zone)).dedup.map (groupOf zone rows)

/-- The orders delivered that a report is about, each with its moment. -/
def delivers (q : ReportQuery) (o : MerchantOrder) : Option Time :=
  if o.tenantId = tenantId ∧ o.status = .ready ∧ o.environment = q.environment ∧
      q.storeId.all (fun s => o.storeId = some s) ∧ q.device.all (fun t => o.terminalId = t) then
    o.completedAt.filter fun t => zone.midnight q.start ≤ t ∧ t < zone.midnight q.stop
  else none

/-- An online order whose material is not booked. -/
def unbooked (ledger : Table LedgerEntry) (o : MerchantOrder) : Bool :=
  o.paymentMode = .online ∧ ¬ ledger.rows.any fun e =>
    e.tenantId = o.tenantId ∧ e.orderId = some o.id ∧ e.kind = .material

def deliveries (db : ReportDb) (q : ReportQuery) : List (Int × MerchantOrder) :=
  db.orders.rows.filterMap fun o => (delivers zone tenantId q o).map fun t => (zone.day t, o)

def deliveryGroups (ledger : Table LedgerEntry) (rows : List (Int × MerchantOrder)) : List DeliveryGroup :=
  (rows.map (·.1)).dedup.map fun day =>
    let group := rows.filter fun r => r.1 = day
    { day, cups := group.length, missing := group.countP fun r => unbooked ledger r.2 }

abbrev Daily := Dict Int ReportValues

def days (q : ReportQuery) : List Int :=
  (List.range (q.stop - q.start).toNat).map fun i : Nat => q.start + i

def daysOf (q : ReportQuery) : Daily := (days q).foldl (fun daily d => daily.set d 0) .empty

/-- `daily[day]`. -/
def bucket (daily : Daily) (day : Int) : Except Failure ReportValues :=
  orRaise (daily.get? day) (.exception "KeyError")

def enterEvent (daily : Daily) (row : LedgerGroup) : Except Failure Daily :=
  match kindOf row.kind with
  | none => pure daily
  | some (field, sign) => do
      let values ← bucket daily row.day
      let values := if 0 < row.missing then Function.update values field ⊤
        else if values field ≠ ⊤ then
          Function.update values field (values field + ((sign * row.amount.getD 0 : Int) : Amount))
        else values
      let values := if row.kind = .collection then
          Function.update values .paidOrderCount ((row.orders : Int) : Amount)
        else values
      pure (daily.set row.day values)

def enterDelivery (daily : Daily) (row : DeliveryGroup) : Except Failure Daily := do
  let values ← bucket daily row.day
  let values := Function.update values .deliveredCupCount ((row.cups : Int) : Amount)
  let values := if 0 < row.missing then Function.update values .materialCostMinor ⊤ else values
  pure (daily.set row.day values)

/-- The year and the month of an ordinal, with the first day of the year 1 as 1. -/
def yearMonth (ordinal : Int) : Int × Int :=
  let day := ordinal + 305
  let era := day / 146097
  let ofEra := day % 146097
  let yearOfEra := (ofEra - ofEra / 1460 + ofEra / 36524 - ofEra / 146096) / 365
  let ofYear := ofEra - (365 * yearOfEra + yearOfEra / 4 - yearOfEra / 100)
  let shifted := (5 * ofYear + 2) / 153
  let month := if shifted < 10 then shifted + 3 else shifted - 9
  (yearOfEra + era * 400 + (if month ≤ 2 then 1 else 0), month)

def periodKey (grain : Grain) (day : Int) : PeriodKey :=
  match grain with
  | .day => .day day
  | .month => .month (yearMonth day).1 (yearMonth day).2
  | .year => .year (yearMonth day).1

/-- `groups.setdefault(key, {...})` and `add(groups[key], values)`. -/
def addTo (groups : Dict PeriodKey ReportValues) (key : PeriodKey) (values : ReportValues) :
    Dict PeriodKey ReportValues :=
  groups.set key (add ((groups.get? key).getD 0) values)

/-- The loop over the days, which finishes each for the summary. -/
def gather (grain : Grain) :
    List (Int × ReportValues) → Dict PeriodKey ReportValues → ReportValues →
      Except Failure (Dict PeriodKey ReportValues × ReportValues)
  | [], groups, totals => pure (groups, totals)
  | (day, values) :: rest, groups, totals => do
      let _ ← finish values
      gather grain rest (addTo groups (periodKey grain day) values) (add totals values)

def finishRow (row : PeriodKey × ReportValues) : Except Failure ReportRow :=
  (finish row.2).map fun finished => ⟨row.1, finished⟩

/-- "Every read rebuilds its requested range". -/
def rebuild (order : RowOrder) (db : ReportDb) (q : ReportQuery) : Except Failure Report := do
  let rows := db.ledger.rows.filter (selects zone tenantId q)
  let daily ← (order.events (ledgerGroups zone rows)).foldlM enterEvent (daysOf q)
  let daily ← (order.deliveries (deliveryGroups db.ledger (deliveries zone tenantId db q))).foldlM
    enterDelivery daily
  let (groups, totals) ← gather q.grain daily.items .empty 0
  let totals ← finish totals
  let rows ← groups.items.mapM finishRow
  pure ⟨rows, totals⟩

def operating (order : RowOrder) (db : ReportDb) (today : Int) (params : ReportParams) :
    Except Failure Report :=
  parseQuery db tenantId today params >>= rebuild zone tenantId order db

end MerchantReports
end CoffeeCloud
