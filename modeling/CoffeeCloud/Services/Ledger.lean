import CoffeeCloud.Library.Machine
import CoffeeCloud.Services.Stock

/-!
What is written to the ledger of the merchants. The trigger `merchant_record_money`
books payments, refunds and delivered orders as their rows are written; the services
book what is written off and the days of an expense. An entry whose key is taken is
left out, and none is ever changed or removed. What the material of an order costs
is entered from outside.
-/
namespace CoffeeCloud
open Library

/-! The rows the trigger reads, with the columns it takes from them. -/

structure MoneyOrder where
  id : Id
  tenantId : Id
  merchantStoreId : Option Id
  terminalId : Id
  status : OrderStatus
  paymentMode : PaymentMode
  paidPaymentId : Option Id
  totalAmountMinor : Int
  environment : LedgerEnvironment
  completedAt : Option Time
  updatedAt : Time

structure MoneyPayment where
  id : Id
  amountMinor : Int
  environment : LedgerEnvironment
  paidAt : Option Time

structure MoneyRefund where
  id : Id
  amountMinor : Int
  status : RefundStatus
  completedAt : Option Time
  updatedAt : Time

abbrev LedgerTable := Table LedgerEntry

/-- An entry about an order. -/
def MoneyOrder.entry (o : MoneyOrder) (kind : LedgerKind) (amount : Option Int)
    (environment : LedgerEnvironment) (key : String) (id : Id) (occurredAt : Time)
    (basis : String) : LedgerEntry :=
  { tenantId := o.tenantId, storeId := o.merchantStoreId, terminalId := some o.terminalId
    orderId := some o.id, kind, amountMinor := amount, environment
    sourceKey := .other (key ++ ":" ++ toString id), occurredAt, basis }

namespace RecordMoney

def payment (o : MoneyOrder) (new : MoneyPayment) (ledger : LedgerTable) : LedgerTable :=
  match new.paidAt with
  | none => ledger
  | some paidAt =>
      let test : Bool := new.environment = .test
      let ledger := ledger.insert (o.entry .collection (some new.amountMinor) new.environment
        "payment" new.id paidAt "ACTUAL")
      ledger.insert (o.entry .fee (if test then some 0 else none) new.environment "payment-fee"
        new.id paidAt (if test then "SIMULATION" else "UNKNOWN"))

/-- Revenue that is booked already goes back with the refund of the payment it is owed to. -/
def refund (o : MoneyOrder) (p : MoneyPayment) (new : MoneyRefund) (ledger : LedgerTable) :
    LedgerTable :=
  if new.status ≠ .succeeded then ledger
  else
    let occurredAt := new.completedAt.getD new.updatedAt
    let ledger := ledger.insert (o.entry .refund (some new.amountMinor) p.environment "refund" new.id
      occurredAt "ACTUAL")
    if o.paidPaymentId = some p.id ∧
        ledger.rows.any (fun e => e.orderId = some o.id ∧ e.kind = .revenue) then
      ledger.insert (o.entry .revenueReversal (some new.amountMinor) p.environment "refund-revenue"
        new.id occurredAt "ACTUAL")
    else ledger

/-- A delivered order; `paid` is the payment it was paid by and `refunds` those of that payment. -/
def order (new : MoneyOrder) (paid : Option MoneyPayment) (refunds : List MoneyRefund)
    (ledger : LedgerTable) : LedgerTable :=
  if new.status ≠ .ready ∨ new.paymentMode ≠ .online ∨ new.paidPaymentId = none then ledger
  else
    match paid.filter (·.paidAt.isSome) with
    | none => ledger
    | some _ =>
        let occurredAt := new.completedAt.getD new.updatedAt
        let reversals := (refunds.filter (·.status = .succeeded)).map fun r =>
          new.entry .revenueReversal (some r.amountMinor) new.environment "refund-revenue" r.id
            occurredAt "ACTUAL"
        reversals.foldl Table.insert (ledger.insert (new.entry .revenue (some new.totalAmountMinor)
          new.environment "revenue" new.id occurredAt "ACTUAL"))

end RecordMoney

/-- A kind that nothing here books. -/
def LedgerKind.isForeign : LedgerKind → Bool
  | .material | .costAdjustment => true
  | _ => false

/-- What writes to the ledger. -/
inductive LedgerWrite where
  | payment (order : MoneyOrder) (new : MoneyPayment)
  | refund (order : MoneyOrder) (payment : MoneyPayment) (new : MoneyRefund)
  | order (new : MoneyOrder) (paid : Option MoneyPayment) (refunds : List MoneyRefund)
  | waste (p : MerchantPrincipal) (tenant : TenantProfile) (loc : StockLocation) (uuid : Nat)
      (cost : Option Int) (now : Time)
  | expense (e : Expense) (tenant : TenantProfile) (reverse : Bool) (reason : Json) (index : Nat)
  | foreign (entry : { e : LedgerEntry // e.kind.isForeign = true })

def LedgerWrite.apply (ledger : LedgerTable) : LedgerWrite → LedgerTable
  | .payment o new => RecordMoney.payment o new ledger
  | .refund o p new => RecordMoney.refund o p new ledger
  | .order new paid refunds => RecordMoney.order new paid refunds ledger
  | .waste p tenant loc uuid cost now =>
      ledger.insert (MerchantCosts.wasteEntry tenant p loc uuid cost now)
  | .expense e tenant reverse reason index => ledger.insert (e.entry tenant reverse reason index)
  | .foreign entry => ledger.insert entry

def ledgerMachine : Machine LedgerTable LedgerWrite Unit where
  next ledger w := (w.apply ledger, ())

/-- A ledger as its writers leave it. -/
def Booked (ledger : LedgerTable) : Prop := ledgerMachine.Reachable .empty ledger

end CoffeeCloud
