import CoffeeCloud.Services.Transitions

/-!
The money rules of refunds. The budget counts refunds in flight and succeeded
ones; a permanent channel failure frees its part again, an unknown outcome does
not.
-/
namespace CoffeeCloud
open Library

structure RefundIntent where
  refund : Refund
  created : Bool
  payment : Payment

/-- What a caller asks to be refunded; no amount asks for whatever budget remains. -/
structure RefundRequest where
  paymentId : Id
  idempotencyKey : String
  reason : String
  amountMinor : Option Int := none
  requestDigest : Option String := none

/-- The identifiers a new refund draws. -/
structure FreshRefund where
  id : Id
  merchantRefundNo : String

def remainingBudget (payment : Payment) : Sql Int := do
  let total ← PaymentRepository.refundedTotal payment.id budgetRefundStatuses
  pure (payment.amountMinor - total)

/-- Only the order's primary payment projects refund progress onto the order. -/
def projectPayment (payment : Payment) (status : PaymentStatus) : Sql Unit := do
  match ← OrderRepository.find payment.orderId with
  | none => pure ()
  | some order =>
      Tx.onlyIf (order.paidPaymentId = some payment.id)
        (OrderRepository.updatePaymentStatus order.id status)

/-- The tail of `create_refund_intent`: the budget is checked, the refund inserted and projected. -/
def insertRefundIntent (env : Env) (r : RefundRequest) (payment : Payment) (fresh : FreshRefund)
    (now : Time) : Sql RefundIntent := do
  let remaining ← remainingBudget payment
  let amount := r.amountMinor.getD remaining
  if h : 0 < amount ∧ amount ≤ remaining then do
    let refund : Refund :=
      { id := fresh.id, paymentId := payment.id, provider := payment.provider
        merchantRefundNo := fresh.merchantRefundNo, idempotencyKey := r.idempotencyKey
        requestDigest := r.requestDigest.getD
          (env.canonicalDigest (.obj [("amountMinor", .int amount), ("reason", .str r.reason)]))
        status := .requested, amountMinor := amount, amountPositive := h.1, reason := r.reason
        nextAttemptAt := some now }
    PaymentRepository.insertRefund refund
    let (payment, _) ← transitionPayment payment .refunding now
    projectPayment payment .refunding
    pure ⟨refund, true, payment⟩
  else Tx.raise (.serviceError 409 "refund amount exceeds unrefunded payment amount")

/-- A replay with the same business key returns the existing record before any other check. -/
def createRefundIntent (env : Env) (r : RefundRequest) (fresh : FreshRefund) (now : Time) :
    Sql RefundIntent := do
  let payment ← Tx.require (← PaymentRepository.find r.paymentId)
    (.serviceError 404 "payment not found")
  match ← PaymentRepository.findRefundIdempotent r.paymentId r.idempotencyKey with
  | some existing => do
      Tx.ensure (r.requestDigest.all fun d => existing.requestDigest = d)
        (.serviceError 409 "Idempotency-Key payload conflict")
      pure ⟨existing, false, payment⟩
  | none => do
      Tx.ensure (payment.status ∈ refundablePaymentStatuses)
        (.serviceError 409 "payment is not refundable")
      insertRefundIntent env r payment fresh now

/-- Refund whatever remains; a covered budget is a successful no-op. -/
def ensureAutomaticRefundIntent (env : Env) (paymentId : Id) (idempotencyKey reason : String)
    (fresh : FreshRefund) (now : Time) : Sql (Option RefundIntent) := do
  match (← PaymentRepository.find paymentId).filter (·.status ∈ refundablePaymentStatuses) with
  | none => pure none
  | some payment => do
      match ← PaymentRepository.findRefundIdempotent paymentId idempotencyKey with
      | some existing => pure (some ⟨existing, false, payment⟩)
      | none => do
          let remaining ← remainingBudget payment
          if 0 < remaining then do
            let intent ← createRefundIntent env
              { paymentId, idempotencyKey, reason, amountMinor := some remaining } fresh now
            pure (some intent)
          else pure none

/-- What the refunds of a payment make of it. -/
def settleTarget (payment : Payment) : Sql PaymentStatus := do
  let succeeded ← PaymentRepository.refundedTotal payment.id [.succeeded]
  let inflight ← PaymentRepository.inflightRefundExists payment.id
  pure <|
    if payment.amountMinor ≤ succeeded then .refunded
    else if inflight then .refunding
    else if 0 < succeeded then .partiallyRefunded
    else .paid

def settlePaymentAfterRefund (payment : Payment) (order : Option Order) (actor : String)
    (now : Time) : Sql Unit := do
  let target ← settleTarget payment
  let _ ← transitionPayment payment target now
  match order.filter (·.paidPaymentId = some payment.id) with
  | none => pure ()
  | some order => do
      OrderRepository.updatePaymentStatus order.id target
      if target = .refunded ∧ order.status = .failed then do
        let _ ← transitionOrder order .refunded actor now
      else pure ()

/-- A refund that has succeeded or failed stays as it is, whatever stale result arrives. -/
def applyRefundOutcome (refundId : Id) (target : RefundStatus) (actor : String) (now : Time) :
    Sql (Option Refund) := do
  match ← PaymentRepository.findRefund refundId with
  | none => pure none
  | some located => do
      match ← PaymentRepository.find located.paymentId with
      | none => pure none
      | some payment => do
          let order ← OrderRepository.find payment.orderId
          let refund ← Tx.require (← PaymentRepository.findRefund refundId)
            (.exception "AssertionError")
          if refund.status ∈ refundTerminal then pure (some refund)
          else do
            let (refund, _) ← transitionRefund refund target now
            if target ∈ refundTerminal then do
              settlePaymentAfterRefund payment order actor now
              pure (some refund)
            else pure (some refund)

end CoffeeCloud
