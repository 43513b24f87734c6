import CoffeeCloud.Services.PaymentService

/-!
The payment API: opening an intent for an order, recording what the channel
answered to it, and refunds asked for by an operator or a merchant. The channel
is called between the two transactions of `create`, so its answer reaches the
second one as an argument.
-/
namespace CoffeeCloud
open Library

namespace PaymentApplicationService

/-- The order whose access token the caller holds. -/
def authenticateOrder (env : Env) (orderId : Id) (token : Option String) : Sql Order :=
  match token.filter (· ≠ "") with
  | none => Tx.raise (.serviceError 401 "missing order access token")
  | some token => do
      Tx.require
        ((← OrderRepository.findWithTerminal orderId).filter fun o =>
          stripped o.accessTokenHash = env.hashToken token)
        (.serviceError 404 "order not found")

structure CreateRequest where
  orderId : Id
  provider : Option String
  accessToken : Option String
  idempotencyKey : String

def CreateRequest.digest (env : Env) (r : CreateRequest) : String :=
  env.canonicalDigest (.obj [("provider", match r.provider with | some p => .str p | none => .null)])

/-- An order bound to a merchant account is paid through that account's channel only. -/
def channelFor (r : CreateRequest) (provider : String) (order : Order) : Sql String :=
  match order.paymentAccountId with
  | none => pure provider
  | some accountId => do
      let account ← Tx.require
        ((← Tx.read (·.merchantAccounts.find? accountId)).filter fun a =>
          some a.tenantId = order.tenantId && a.validated)
        (.serviceError 409 "order payment account is unavailable; create a new order")
      Tx.ensure (r.provider.all (· = account.provider))
        (.serviceError 409 "provider differs from order payment account")
      pure account.provider

/-- What the first transaction of `create` leaves to be asked of the channel. -/
inductive Opened where
  | duplicate (payment : Payment)
  | proceed (payment : Payment) (duplicate : Bool)

/-- A new intent: the order leaves CREATED and its projection becomes PENDING. -/
def openIntent (env : Env) (r : CreateRequest) (order : Order) (provider : String)
    (paymentId : Id) (merchantNo : String) (now : Time) : Sql Payment :=
  if h : 0 < order.totalAmountMinor then do
    let payment : Payment :=
      { id := paymentId, orderId := order.id, provider, merchantPaymentNo := merchantNo
        idempotencyKey := r.idempotencyKey, requestDigest := r.digest env, status := .created
        amountMinor := order.totalAmountMinor, amountPositive := h, createdAt := now }
    PaymentRepository.insert payment
    if order.status = .created then do
      let _ ← transitionOrder order .awaitingPayment "payment-service" now
      OrderRepository.updatePaymentStatus order.id .pending
      pure payment
    else do
      OrderRepository.updatePaymentStatus order.id .pending
      pure payment
  else Tx.raise (.checkViolation "payment.amount_minor")

def create (env : Env) (r : CreateRequest) (paymentId : Id) (merchantNo : String) (now : Time) :
    Sql Opened := do
  Tx.ensure (r.idempotencyKey ≠ "" ∧ r.idempotencyKey.length ≤ 160)
    (.serviceError 400 "Idempotency-Key is required and must be <= 160 characters")
  let provider := ((r.provider.filter (· ≠ "")).getD env.paymentDefaultProvider).toLower
  Tx.ensure (provider = "mock" → env.allowMockPayment = true)
    (.serviceError 503 "mock payment provider is disabled")
  let order ← authenticateOrder env r.orderId r.accessToken
  let provider ← channelFor r provider order
  Tx.ensure (order.paymentMode ≠ .testFree)
    (.serviceError 409 "test-free order does not require payment")
  match ← PaymentRepository.findIdempotent order.id r.idempotencyKey with
  | some existing => do
      Tx.ensure (existing.requestDigest = r.digest env)
        (.serviceError 409 "Idempotency-Key payload conflict")
      if existing.status ≠ .created then pure (.duplicate existing)
      else pure (.proceed existing true)
  | none => do
      Tx.ensure (order.paymentStatus ∉ paidCallbackStatuses)
        (.serviceError 409 "order payment is already complete")
      Tx.ensure (order.status ∈ [.created, .awaitingPayment])
        (.serviceError 409 "order can no longer accept a new payment")
      match ← PaymentRepository.latestOpenForOrder order.id with
      | some openIntent => do
          -- A different key must not open a second merchant payment for the same order.
          Tx.ensure (openIntent.provider = provider)
            (.serviceError 409 "order already has an active payment intent with another provider")
          pure (.proceed openIntent true)
      | none => do
          let payment ← openIntent env r order provider paymentId merchantNo now
          pure (.proceed payment false)

/-- The channel's answer to a query, a creation or a close request. -/
structure ChannelAnswer where
  status : String
  providerTradeNo : Option String

/-- The paid fact as the services state it about an intent they queried themselves. -/
def queriedPaid (merchantNo : String) (amountMinor : Int) (answer : ChannelAnswer) : Values :=
  [("merchant_payment_no", merchantNo), ("amount_minor", toString amountMinor),
    ("provider_trade_no", answer.providerTradeNo.getD "")]

/-- The second transaction of `create`, with the answer to the intent it asked about. -/
def created (env : Env) (payment : Payment) (answer : ChannelAnswer) (fresh : FreshRefund)
    (outboxId : Id) (now : Time) : Sql Payment :=
  if answer.status = "PAID" then do
    let (current, _) ← applyPaidCallback env payment.provider
      s!"query-paid:{payment.merchantPaymentNo}"
      (queriedPaid payment.merchantPaymentNo payment.amountMinor answer) fresh outboxId now
    pure current
  else do
    let current ← Tx.require (← PaymentRepository.find payment.id) (.exception "AssertionError")
    let current ← PaymentRepository.saveProviderResult current answer.providerTradeNo
    if current.status = .created then do
      let (current, _) ← transitionPayment current .pending now
      PaymentRepository.scheduleReconciliation current.id env.paymentReconcileSeconds now
      pure current
    else pure current

/-- A manual refund: the intent is recorded, the worker submits it. -/
def refund (env : Env) (paymentId : Id) (idempotencyKey reason : String)
    (amountMinor : Option Int) (fresh : FreshRefund) (now : Time) : Sql RefundIntent := do
  Tx.ensure (idempotencyKey ≠ "" ∧ idempotencyKey.length ≤ 160)
    (.serviceError 400 "Idempotency-Key is required and must be <= 160 characters")
  let digest := env.canonicalDigest (.obj [
    ("amountMinor", match amountMinor with | some n => .int n | none => .null),
    ("reason", .str reason)])
  let payment ← Tx.require (← PaymentRepository.find paymentId)
    (.serviceError 404 "payment not found")
  let _ ← Tx.require (← OrderRepository.find payment.orderId) (.serviceError 404 "order not found")
  createRefundIntent env
    { paymentId, idempotencyKey, reason, amountMinor, requestDigest := some digest } fresh now

end PaymentApplicationService

/-- A merchant refunds the primary payment of an order in its scope. -/
def MerchantOrders.refund (env : Env) (orderId : Id) (key reason : String) (amountMinor : Int)
    (fresh : FreshRefund) (now : Time) : Sql RefundIntent := do
  Tx.ensure (0 < amountMinor) (.serviceError 422 "INVALID_AMOUNT")
  let order ← Tx.require (← OrderRepository.find orderId) (.serviceError 404 "ORDER_NOT_FOUND")
  let paymentId ← Tx.require order.paidPaymentId (.serviceError 409 "REFUND_NOT_ALLOWED")
  createRefundIntent env
    { paymentId, idempotencyKey := "merchant:" ++ key, reason, amountMinor := some amountMinor }
    fresh now

end CoffeeCloud
