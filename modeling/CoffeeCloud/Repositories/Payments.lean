import CoffeeCloud.Schema

/-!
The statements of the payment repository and the payment part of the worker one.
Where a query skips locked rows, any row its predicate admits may be the one it
returns, so the row is a parameter and the predicate is checked.
-/
namespace CoffeeCloud
open Library

namespace PaymentRepository

def find (paymentId : Id) : Sql (Option Payment) :=
  Tx.read (·.payments.find? paymentId)

def findByMerchantNo (provider merchantNo : String) : Sql (Option Payment) :=
  Tx.read (·.payments.first? fun p => p.provider = provider ∧ p.merchantPaymentNo = merchantNo)

def findIdempotent (orderId : Id) (idempotencyKey : String) : Sql (Option Payment) :=
  Tx.read (·.payments.first? fun p => p.orderId = orderId ∧ p.idempotencyKey = idempotencyKey)

def isOpenIntent (orderId : Id) (p : Payment) : Bool :=
  p.orderId = orderId && p.status ∈ openPaymentStatuses

def latestOpenForOrder (orderId : Id) : Sql (Option Payment) :=
  Tx.read fun db =>
    (db.payments.select (isOpenIntent orderId) fun a b => b.createdAt ≤ a.createdAt).head?

/-- All still-open intents; historical data may legitimately contain several. -/
def openIntentsForOrder (orderId : Id) : Sql (List Payment) :=
  Tx.read fun db =>
    db.payments.select (isOpenIntent orderId) fun a b =>
      a.createdAt < b.createdAt || (a.createdAt = b.createdAt && a.id ≤ b.id)

def paidForOrder (orderId : Id) : Sql (Option Payment) :=
  Tx.read fun db =>
    (db.payments.select
      (fun p => p.orderId = orderId && p.status ∈ [.paid, .partiallyRefunded])
      -- A descending order puts nulls first.
      fun a b => match a.paidAt, b.paidAt with
        | none, _ => true
        | some _, none => false
        | some x, some y => y ≤ x).head?

def insert (payment : Payment) : Sql Unit := do
  let db ← Tx.read id
  Tx.ensure (db.payments.find? payment.id).isNone (.uniqueViolation "payment_pkey")
  Tx.ensure (db.payments.first? fun p => p.orderId = payment.orderId ∧
      p.idempotencyKey = payment.idempotencyKey).isNone
    (.uniqueViolation "payment_order_id_idempotency_key_key")
  Tx.ensure (db.payments.first? fun p => p.provider = payment.provider ∧
      p.merchantPaymentNo = payment.merchantPaymentNo).isNone
    (.uniqueViolation "payment_provider_merchant_payment_no_key")
  Tx.write fun db => { db with payments := db.payments.insert payment }

def modifyPayment (paymentId : Id) (f : Payment → Payment) (hf : ∀ p, (f p).id = p.id) :
    Sql Payment := do
  Tx.write fun db => { db with payments := db.payments.modify paymentId f hf }
  Tx.require (← find paymentId) (.exception "TypeError")

/-- The row after a validated transition. -/
def transitioned (revision : Nat) (target : PaymentStatus) (now : Time) (p : Payment) : Payment :=
  { p with
    status := target, revision
    paidAt := if target = .paid then p.paidAt.or (some now) else p.paidAt
    closedAt := if target ∈ [.closed, .failed] then p.closedAt.or (some now) else p.closedAt }

theorem transitioned_id (revision : Nat) (target : PaymentStatus) (now : Time) (p : Payment) :
    (transitioned revision target now p).id = p.id := rfl

/-- Persist one already-validated payment transition. -/
def transitionPayment (payment : Payment) (target : PaymentStatus) (now : Time) : Sql Payment :=
  modifyPayment payment.id (transitioned (payment.revision + 1) target now)
    (transitioned_id _ _ _)

def modifyRefund (refundId : Id) (f : Refund → Refund) (hf : ∀ r, (f r).id = r.id) :
    Sql Unit :=
  Tx.write fun db => { db with refunds := db.refunds.modify refundId f hf }

def findRefund (refundId : Id) : Sql (Option Refund) :=
  Tx.read (·.refunds.find? refundId)

def refundTransitioned (target : RefundStatus) (now : Time) (r : Refund) : Refund :=
  { r with
    status := target, revision := r.revision + 1
    completedAt := if target ∈ refundTerminal then some now else r.completedAt }

theorem refundTransitioned_id (target : RefundStatus) (now : Time) (r : Refund) :
    (refundTransitioned target now r).id = r.id := rfl

/-- Persist one already-validated refund transition. -/
def transitionRefund (refund : Refund) (target : RefundStatus) (now : Time) : Sql Refund := do
  modifyRefund refund.id (refundTransitioned target now) (refundTransitioned_id _ _)
  Tx.require (← findRefund refund.id) (.exception "TypeError")

/-- Another payment of the provider already carries the trade number. -/
def tradeNoTaken (provider tradeNo : String) (paymentId : Id) : Sql Bool :=
  Tx.read fun db => (db.payments.first? fun p =>
    p.provider = provider ∧ p.providerTradeNo = some tradeNo ∧ p.id ≠ paymentId).isSome

/-- Unique on the provider's trade numbers, where there is one. -/
def saveProviderResult (payment : Payment) (providerTradeNo : Option String) : Sql Payment := do
  match providerTradeNo with
  | none => pure ()
  | some tradeNo => do
      let taken ← tradeNoTaken payment.provider tradeNo payment.id
      Tx.ensure (taken = false) (.uniqueViolation "uq_payment_provider_trade")
  modifyPayment payment.id
    (fun p => { p with providerTradeNo := providerTradeNo.or p.providerTradeNo }) (fun _ => rfl)

def scheduleReconciliation (paymentId : Id) (secs : Int) (now : Time) : Sql Unit :=
  Tx.write fun db => { db with
    payments := db.payments.modify paymentId fun p =>
      { p with nextReconcileAt := some (now + seconds secs) } }

def findRefundIdempotent (paymentId : Id) (idempotencyKey : String) : Sql (Option Refund) :=
  Tx.read (·.refunds.first? fun r => r.paymentId = paymentId ∧ r.idempotencyKey = idempotencyKey)

end PaymentRepository

/-- The refunds of one payment in some of the states, added up. -/
def Db.refundedTotal (db : Db) (paymentId : Id) (statuses : List RefundStatus) : Int :=
  db.refunds.sumWhere (fun r => r.paymentId = paymentId ∧ r.status ∈ statuses) (·.amountMinor)

def Db.inflightRefundExists (db : Db) (paymentId : Id) : Bool :=
  db.refunds.rows.any fun r => r.paymentId = paymentId ∧ r.status ∈ inFlightRefundStatuses

namespace PaymentRepository

def refundedTotal (paymentId : Id) (statuses : List RefundStatus) : Sql Int :=
  Tx.read (·.refundedTotal paymentId statuses)

def inflightRefundExists (paymentId : Id) : Sql Bool :=
  Tx.read (·.inflightRefundExists paymentId)

def insertRefund (refund : Refund) : Sql Unit := do
  let db ← Tx.read id
  Tx.ensure (db.refunds.find? refund.id).isNone (.uniqueViolation "refund_pkey")
  Tx.ensure (db.refunds.first? fun r => r.paymentId = refund.paymentId ∧
      r.idempotencyKey = refund.idempotencyKey).isNone
    (.uniqueViolation "refund_payment_id_idempotency_key_key")
  Tx.ensure (db.refunds.first? fun r => r.provider = refund.provider ∧
      r.merchantRefundNo = refund.merchantRefundNo).isNone
    (.uniqueViolation "refund_provider_merchant_refund_no_key")
  Tx.write fun db => { db with refunds := db.refunds.insert refund }

def scheduleRefund (refundId : Id) (now : Time) : Sql Unit :=
  modifyRefund refundId
    (fun r => { r with
      attemptCount := r.attemptCount + 1, nextAttemptAt := some (now + seconds 30) })
    (fun _ => rfl)

def scheduleProcessingRefund (refundId : Id) (now : Time) : Sql Unit :=
  modifyRefund refundId
    (fun r => { r with
      attemptCount := max r.attemptCount 1, nextAttemptAt := some (now + seconds 30) })
    (fun _ => rfl)

end PaymentRepository

namespace WorkerRepository

def isClaimablePayment (now : Time) (p : Payment) : Bool :=
  p.status ∈ openPaymentStatuses && p.nextReconcileAt.all (· ≤ now)

def claimPayment (pick : Id) (reconcileSeconds : Int) (now : Time) : Sql (Option Payment) := do
  match (← PaymentRepository.find pick).filter (isClaimablePayment now) with
  | none => pure none
  | some payment => do
      PaymentRepository.scheduleReconciliation payment.id reconcileSeconds now
      pure (some payment)

def isClaimableRefund (now : Time) (r : Refund) : Bool :=
  r.status ∈ inFlightRefundStatuses && r.nextAttemptAt.all (· ≤ now)

def claimRefund (pick : Id) (now : Time) : Sql (Option Refund) :=
  Tx.read fun db => (db.refunds.find? pick).filter (isClaimableRefund now)

def markRefundAttempt (refundId : Id) (now : Time) : Sql Unit :=
  PaymentRepository.modifyRefund refundId
    (fun r => { r with
      attemptCount := r.attemptCount + 1, nextAttemptAt := some (now + seconds 30) })
    (fun _ => rfl)

end WorkerRepository
end CoffeeCloud
