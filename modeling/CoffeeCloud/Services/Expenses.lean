import CoffeeCloud.Library.Shares
import CoffeeCloud.Services.Members
import CoffeeCloud.Services.PaymentService

/-!
The expenses of a merchant: how one is entered, and how it is posted to the ledger
day by day and reversed. A request is a transaction of its own, statement by
statement. The session it acts under, its rights and its store and device are read
before; a replayed entry is left out.
-/
namespace CoffeeCloud
open Library

/-- A time zone: when its days begin, and on which day a moment falls. Days are ordinals. -/
structure Zone where
  midnight : Int → Time
  day : Time → Int
  day_midnight : ∀ d, day (midnight d) = d

/-- A zone without changes of the clock. -/
def Zone.fixed (offset : Time) : Zone where
  midnight d := d * 86400000000 - offset
  day t := (t + offset) / 86400000000
  day_midnight d := by
    rw [Int.sub_add_cancel]
    exact Int.mul_ediv_cancel d (by decide)

inductive ExpenseCategory where
  | rent | labor | utilities | maintenance | other
deriving DecidableEq, Repr

inductive AllocationMethod where
  | once | dailyEqual
deriving DecidableEq, Repr

inductive ExpenseStatus where
  | draft | posted | reversed
deriving DecidableEq, Repr

inductive LedgerKind where
  | collection | refund | revenue | revenueReversal | material | waste | fee | expense
  | expenseReversal | costAdjustment
deriving DecidableEq, Repr

inductive LedgerEnvironment where
  | live | test
deriving DecidableEq, Repr

structure Expense where
  id : Id
  tenantId : Id
  storeId : Option Id
  terminalId : Option Id
  category : ExpenseCategory
  amountMinor : Int
  amountPositive : 0 < amountMinor
  occurredOn : Int
  allocationStart : Option Int
  allocationEnd : Option Int
  allocationMethod : AllocationMethod
  note : String
  status : ExpenseStatus := .draft
  version : Int := 1
  postedAt : Option Time := none

/-- `source_key`: `expense:` or `expense-reversal:` with the expense and the day's index, or the
key of another writer. -/
inductive SourceKey where
  | expense (reverse : Bool) (expenseId : Id) (index : Nat)
  | other (key : String)
deriving DecidableEq, Repr

structure LedgerEntry where
  tenantId : Id
  sourceKey : SourceKey
  storeId : Option Id := none
  terminalId : Option Id := none
  orderId : Option Id := none
  kind : LedgerKind
  amountMinor : Option Int
  environment : LedgerEnvironment
  occurredAt : Time
  basis : String := "ACTUAL"
  category : Option ExpenseCategory := none
  reason : Json := .null

instance : Keyed Expense Id := ⟨Expense.id⟩
instance : Keyed LedgerEntry (Id × SourceKey) := ⟨fun e => (e.tenantId, e.sourceKey)⟩

structure ExpenseDb where
  expenses : Table Expense := .empty
  ledger : Table LedgerEntry := .empty
  audit : List MerchantAudit := []

inductive ExpenseResource where
  | expense (id : Id)
  | ledger (key : Id × SourceKey)
deriving DecidableEq

abbrev ExpenseLock := Lock ExpenseResource

abbrev ExpenseScript (α : Type) := Script ExpenseDb ExpenseResource Failure α

/-- What a tenant is set up with; its zone is locked, and no request changes the other. -/
structure TenantProfile where
  zone : Zone := .fixed (seconds 28800)
  environment : String := "STANDARD"

/-- What a request sends of an expense; a date that is none is missing, as is an amount that is
not an `int`. -/
structure ExpenseData where
  category : Option String
  allocationMethod : Option String
  amountMinor : Option Int
  occurredOn : Option Int
  allocationStart : Option Int := none
  allocationEnd : Option Int := none
  note : String := ""

/-- Where an expense belongs, if it is not the tenant's as a whole. -/
structure ExpenseLocation where
  storeId : Id
  terminalId : Option Id

namespace MerchantCosts
open Script

def parseCategory : String → Option ExpenseCategory
  | "RENT" => some .rent
  | "LABOR" => some .labor
  | "UTILITIES" => some .utilities
  | "MAINTENANCE" => some .maintenance
  | "OTHER" => some .other
  | _ => none

def parseMethod : String → Option AllocationMethod
  | "ONCE" => some .once
  | "DAILY_EQUAL" => some .dailyEqual
  | _ => none

def money (value : Option Int) : Option Int := value.filter fun v => 1 ≤ v ∧ v ≤ 10 ^ 12

def storeAllowed (p : MerchantPrincipal) (storeId : Option Id) : Bool :=
  p.storeScope.all || storeId.any (· ∈ p.storeScope.storeIds)

/-- `text_field(data, 'reason', 500)`. -/
def reasonField (data : Json) : Option String :=
  ((data.getD "reason").asStr?.filter fun r =>
    stripped r ≠ "" ∧ r.length ≤ 500).map stripped

def record (p : MerchantPrincipal) (action : String) : ExpenseScript Unit :=
  change (fun _ => []) fun _ db => { db with
    audit := db.audit ++ [⟨p.tenantId, p.userId, action, "expense"⟩] }

/-- `ledger`: an entry whose key is taken is left out. -/
def ledger (entry : LedgerEntry) : ExpenseScript Unit :=
  change (fun _ => [⟨.ledger (entry.tenantId, entry.sourceKey), .exclusive⟩])
    fun _ db => { db with ledger := db.ledger.insert entry }

def allocation (data : ExpenseData) (method : AllocationMethod) :
    ExpenseScript (Option (Int × Int)) :=
  match method with
  | .once => pure none
  | .dailyEqual => do
      let start ← require data.allocationStart (.serviceError 422 "INVALID_DATE")
      let last ← require data.allocationEnd (.serviceError 422 "INVALID_DATE")
      ensure (0 ≤ last - start ∧ last - start < 3660) (.serviceError 422 "INVALID_PERIOD")
      pure (some (start, last))

def positive (amount : Int) : Option { v : Int // 0 < v } :=
  if h : 0 < amount then some ⟨amount, h⟩ else none

def createExpense (p : MerchantPrincipal) (data : ExpenseData)
    (location : Except Failure (Option ExpenseLocation)) (id : Id) : ExpenseScript Expense := do
  let category ← require (data.category.bind parseCategory) (.serviceError 422 "INVALID_EXPENSE")
  let method ← require (data.allocationMethod.bind parseMethod)
    (.serviceError 422 "INVALID_EXPENSE")
  let amount ← require ((money data.amountMinor).bind positive) (.serviceError 422 "INVALID_AMOUNT")
  let occurredOn ← require data.occurredOn (.serviceError 422 "INVALID_DATE")
  let interval ← allocation data method
  match location with
  | .error e => raise e
  | .ok location => do
      let row : Expense := {
        id, tenantId := p.tenantId, storeId := location.map (·.storeId)
        terminalId := location.bind (·.terminalId), category
        amountMinor := amount, amountPositive := amount.2, occurredOn
        allocationStart := interval.map (·.1), allocationEnd := interval.map (·.2)
        allocationMethod := method, note := String.ofList (data.note.toList.take 1000) }
      insert [⟨.expense id, .exclusive⟩] (fun db => (db.expenses.find? id).isSome)
        (fun db => { db with expenses := db.expenses.insert row })
        (.uniqueViolation "merchant_expense_pkey")
      record p "expense.create"
      pure row

end MerchantCosts

namespace Expense

def first (e : Expense) : Int := e.allocationStart.getD e.occurredOn

def last (e : Expense) : Int := e.allocationEnd.getD e.first

/-- The days it is spread over. -/
def days (e : Expense) : Nat := (e.last - e.first + 1).toNat

/-- The entry of one day. -/
def entry (e : Expense) (tenant : TenantProfile) (reverse : Bool) (reason : Json) (index : Nat) :
    LedgerEntry :=
  { tenantId := e.tenantId, sourceKey := .expense reverse e.id index, storeId := e.storeId
    terminalId := e.terminalId, kind := if reverse then .expenseReversal else .expense
    amountMinor := some (share e.amountMinor e.days index)
    environment := if tenant.environment = "INTERNAL_TEST" then .test else .live
    occurredAt := tenant.zone.midnight (e.first + index), category := some e.category, reason }

/-- The row once it is posted or reversed. -/
def advance (e : Expense) (reverse : Bool) (now : Time) : Expense :=
  { e with
    status := if reverse then .reversed else .posted
    postedAt := e.postedAt.or (some now), version := e.version + 1 }

end Expense

namespace MerchantCosts
open Script

def bookAll : List LedgerEntry → ExpenseScript Unit
  | [] => pure ()
  | entry :: entries => do
      ledger entry
      bookAll entries

def expenseRow (db : ExpenseDb) (tenantId : Id) (expenseId : Option Id) : Option Expense :=
  (expenseId.bind db.expenses.find?).filter fun e => e.tenantId = tenantId

/-- Whether the request still has the expense to post or to reverse, or finds it done. -/
def admissible (row : Expense) (data : Json) (reverse : Bool) : Except Failure Bool :=
  if reverse then
    if (reasonField data).isNone then .error (.serviceError 422 "INVALID_FIELD")
    else if row.status = .reversed then .ok false
    else if row.status ≠ .posted then .error (.serviceError 409 "BAD_STATE")
    else .ok true
  else if row.status = .posted then .ok false
  else if (data.getD "version").asInt? ≠ some row.version then
    .error (.serviceError 409 "VERSION_CONFLICT")
  else if row.status ≠ .draft then .error (.serviceError 409 "NOT_DRAFT")
  else .ok true

def expenseAction (tenant : TenantProfile) (p : MerchantPrincipal) (expenseId : Option Id)
    (data : Json) (reverse : Bool) (now : Time) : ExpenseScript Expense := do
  let found ← selectFor
    (fun db => (expenseRow db p.tenantId expenseId).toList.map fun e => ⟨.expense e.id, .exclusive⟩)
    fun db => expenseRow db p.tenantId expenseId
  let row ← require found (.serviceError 404 "NOT_FOUND")
  ensure (storeAllowed p row.storeId) (.serviceError 404 "NOT_FOUND")
  match admissible row data reverse with
  | .error e => raise e
  | .ok false => pure row
  | .ok true => do
      let reason := (data.get? "reason").getD (.str "")
      bookAll ((List.range row.days).map (row.entry tenant reverse reason))
      change (fun _ => [⟨.expense row.id, .exclusive⟩]) fun _ db => { db with
        expenses := db.expenses.modify row.id (·.advance reverse now) }
      record p (if reverse then "expense.reverse" else "expense.post")
      pure (row.advance reverse now)

end MerchantCosts
end CoffeeCloud
