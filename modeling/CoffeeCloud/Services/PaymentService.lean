import CoffeeCloud.Library.Decimal
import CoffeeCloud.Services.RefundIntents

/-!
Recording a paid fact the channel has verified: the amount, the trade number and
the inbox are checked, the money is recorded once, and the order it belongs to
is queued for production or the money is sent back.
-/
namespace CoffeeCloud
open Library

/-- The fields of a callback; every caller passes text. -/
abbrev Values := List (String × String)

namespace Values

def get? (values : Values) (key : String) : Option String :=
  (values.find? fun v => v.1 = key).map (·.2)

/-- `values.get(a) or values.get(b)`, an empty text counting as absent. -/
def either (values : Values) (a b : String) : Option String :=
  match (values.get? a).filter (· ≠ "") with
  | some v => some v
  | none => (values.get? b).filter (· ≠ "")

def digest (env : Env) (values : Values) : String :=
  env.canonicalDigest (.obj (values.map fun v => (v.1, .str v.2)))

end Values

def stripped (text : String) : String := String.ofList (Decimal.strip text.toList)

/-- `total_amount` is in yuan, `amount_minor` in cents; both blank is no amount. -/
def callbackAmountMinor (values : Values) : Except Failure (Option Int) :=
  let present (key : String) := (values.get? key).filter fun v => stripped v ≠ ""
  let source : Option (String × Nat) :=
    match present "total_amount" with
    | some raw => some (raw, 100)
    | none => (present "amount_minor").map fun raw => (raw, 1)
  match source with
  | none => .ok none
  | some (raw, scale) =>
      match Decimal.parse? raw with
      | some (.finite amount) =>
          if !amount.isPositive then
            .error (.httpException 409 "payment callback amount is invalid")
          else
            match if scale = 1 then some amount else amount.mulNat scale with
            | none => .error (.exception "Overflow")
            | some cents =>
                if cents.isIntegral then .ok (some cents.toInt)
                else .error (.httpException 409 "payment callback amount has fractional minor units")
      | _ => .error (.httpException 409 "payment callback amount is invalid")

/-- A `payment.paid` event, once per business key. -/
def enqueueOutbox (eventId : Id) (payment : Payment) (order : Order) (now : Time) : Sql Unit := do
  let key := s!"payment:{payment.id}:paid"
  let db ← Tx.read id
  Tx.ensure (db.businessOutbox.find? eventId).isNone (.uniqueViolation "business_outbox_pkey")
  Tx.onlyIf (db.businessOutbox.first? fun e => e.idempotencyKey = key).isNone
    (Tx.write fun db => { db with
      businessOutbox := db.businessOutbox.insert
        { id := eventId, paymentId := payment.id, orderId := order.id
          terminalId := order.terminalId, idempotencyKey := key, nextAttemptAt := now } })

/-- A closed or failed intent turns out to have received money; only this path may say so. -/
def recordLatePaid (payment : Payment) (now : Time) : Sql Payment :=
  PaymentRepository.modifyPayment payment.id
    (fun p => { p with
      status := .paid, revision := payment.revision + 1, paidAt := p.paidAt.or (some now) })
    (fun _ => rfl)

def inboxConflict (existing : CallbackInbox) (digest : String) : Sql Unit :=
  Tx.ensure (existing.payloadDigest = digest)
    (.httpException 409 "provider event id payload conflict")

/-- Send late or extra money back; a covered budget is a no-op. -/
def ensureExtraRefund (env : Env) (payment : Payment) (idempotencyKey reason : String)
    (fresh : FreshRefund) (now : Time) : Sql Payment :=
  if payment.status ∈ refundablePaymentStatuses then do
    let intent ← ensureAutomaticRefundIntent env payment.id idempotencyKey reason fresh now
    pure ((intent.map (·.payment)).getD payment)
  else pure payment

/-- The first recorded trade number is the fact; a different one is rejected, never merged. -/
def recordTradeNo (payment : Payment) (tradeNo : Option String) : Sql Payment :=
  match tradeNo with
  | none => pure payment
  | some incoming => do
      let recorded := stripped (payment.providerTradeNo.getD "")
      Tx.ensure (recorded = "" ∨ recorded = stripped incoming)
        (.httpException 409 "provider trade number conflict")
      let taken ← PaymentRepository.tradeNoTaken payment.provider incoming payment.id
      Tx.ensure (taken = false) (.httpException 409 "provider trade number conflict")
      PaymentRepository.modifyPayment payment.id
        (fun p => { p with providerTradeNo := some incoming }) (fun _ => rfl)

/-- The payment with its money recorded, and whether it already was. -/
def recordPaid (payment : Payment) (now : Time) : Sql (Payment × Bool) :=
  if payment.status ∈ paidCallbackStatuses then pure (payment, true)
  else if payment.status ∈ [.closed, .failed] then do
    let payment ← recordLatePaid payment now
    pure (payment, false)
  else transitionPayment payment .paid now

def insertInbox (row : CallbackInbox) : Sql Unit :=
  Tx.write fun db => { db with callbackInbox := db.callbackInbox.insert row }

/-- Recorded where the order has no primary payment yet; the primary payment's id. -/
def claimPrimary (order : Order) (payment : Payment) : Sql Id :=
  match order.paidPaymentId with
  | some primary => pure primary
  | none => do
      Tx.write fun db => { db with
        orders := db.orders.modify order.id fun o =>
          { o with paidPaymentId := o.paidPaymentId.or (some payment.id) } }
      pure payment.id

/-- Late money on a dead order goes back; the order itself never revives. -/
def paidOnDeadOrder (env : Env) (order : Order) (payment : Payment) (fresh : FreshRefund)
    (now : Time) : Sql Payment := do
  let primary ← claimPrimary order payment
  Tx.onlyIf (primary = payment.id)
    (Tx.write fun db => { db with
      orders := db.orders.modify order.id fun o => { o with
        paymentStatus :=
          if o.paymentStatus ∈ [.notStarted, .pending, .paid, .partiallyRefunded] then .refunding
          else o.paymentStatus } })
  ensureExtraRefund env payment s!"payment:{payment.id}:cancelled-order-refund"
    "payment completed after order cancellation" fresh now

/-- Money on the primary payment queues the order; on any other intent it goes back. -/
def paidOnLiveOrder (env : Env) (order : Order) (payment : Payment) (fresh : FreshRefund)
    (eventId : Id) (now : Time) : Sql Payment := do
  let primary ← claimPrimary order payment
  if primary ≠ payment.id then
    ensureExtraRefund env payment s!"payment:{payment.id}:extra-paid-refund"
      "duplicate payment received for order" fresh now
  else if order.paymentStatus ≠ .paid then do
    Tx.write fun db => { db with
      orders := db.orders.modify order.id fun o => { o with
        paymentStatus := .paid
        status := if o.status ∈ [.created, .awaitingPayment] then .paid else o.status } }
    enqueueOutbox eventId payment order now
    pure payment
  else pure payment

/-- What is done under the financial locks: order first, then payment, then refund rows. -/
def applyPaidLocked (env : Env) (provider eventId : String) (values : Values) (order : Order)
    (payment : Payment) (fresh : FreshRefund) (outboxId : Id) (now : Time) :
    Sql (Payment × Bool) := do
  let digest := values.digest env
  let payment ← recordTradeNo payment (values.either "trade_no" "provider_trade_no")
  let (payment, duplicate) ← recordPaid payment now
  insertInbox ⟨provider, eventId, payment.id, digest⟩
  if duplicate then pure (payment, true)
  else if order.status ∈ deadOrderStatuses then do
    let payment ← paidOnDeadOrder env order payment fresh now
    pure (payment, duplicate)
  else do
    let payment ← paidOnLiveOrder env order payment fresh outboxId now
    pure (payment, duplicate)

/-- The paid payment, and whether its money was already recorded. -/
def applyPaidCallback (env : Env) (provider eventId : String) (values : Values)
    (fresh : FreshRefund) (outboxId : Id) (now : Time) : Sql (Payment × Bool) := do
  let digest := values.digest env
  let db ← Tx.read id
  match db.callbackInbox.find? (provider, eventId) with
  | some existing => do
      inboxConflict existing digest
      let payment ← Tx.require (← PaymentRepository.find existing.paymentId)
        (.exception "TypeError")
      pure (payment, true)
  | none => do
      let merchantNo := (values.either "out_trade_no" "merchant_payment_no").getD ""
      let payment ← Tx.require (← PaymentRepository.findByMerchantNo provider merchantNo)
        (.httpException 404 "payment not found")
      match callbackAmountMinor values with
      | .error e => Tx.raise e
      | .ok none => Tx.raise (.httpException 409 "payment callback amount is required")
      | .ok (some amount) => do
          Tx.ensure (amount = payment.amountMinor)
            (.httpException 409 "payment callback amount mismatch")
          let order ← Tx.require (← OrderRepository.find payment.orderId)
            (.httpException 404 "order not found")
          let payment ← Tx.require (← PaymentRepository.find payment.id)
            (.exception "AssertionError")
          -- The second look at the inbox, which a concurrent callback may have filled meanwhile.
          match (← Tx.read id).callbackInbox.find? (provider, eventId) with
          | some existing => do
              inboxConflict existing digest
              pure (payment, true)
          | none => applyPaidLocked env provider eventId values order payment fresh outboxId now

end CoffeeCloud
