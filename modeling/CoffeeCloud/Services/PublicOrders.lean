import CoffeeCloud.Services.Payments
import CoffeeCloud.Repositories.Workers

/-!
Order creation and customer cancellation. What the menu, the inventory and the
quote say about the product reaches `create` as the outcome of its admission.
-/
namespace CoffeeCloud
open Library

namespace PublicOrderService

/-- A terminal by its device id or else by its serial number. -/
def findTerminal (identifier : String) (db : Db) : Option Terminal :=
  (db.terminals.first? fun t => t.deviceId = identifier).or
    (db.terminals.first? fun t => t.serialNumber = identifier)

theorem findTerminal_mem {identifier : String} {db : Db} {terminal : Terminal}
    (h : findTerminal identifier db = some terminal) : terminal ∈ db.terminals.rows := by
  rcases Option.or_eq_some_iff.mp h with found | ⟨-, found⟩
  · exact (Table.first?_some found).1
  · exact (Table.first?_some found).1

structure CreateRequest where
  identifier : String
  paymentMode : PaymentMode
  idempotencyKey : String
  requestDigest : String
  accessToken : String

/-- The identifiers a new order draws. -/
structure FreshOrder where
  orderId : Id
  jobId : Id
  taskId : String

def initialStatus : PaymentMode → OrderStatus × PaymentStatus
  | .testFree => (.queued, .notRequired)
  | .online => (.created, .notStarted)

/-- The order's id and whether the request was answered before. -/
def create (env : Env) (r : CreateRequest) (paymentMode : PaymentMode)
    (admitted : Except Failure Product) (fresh : FreshOrder) (now : Time) : Sql (Id × Bool) := do
  Tx.ensure (r.idempotencyKey ≠ "" ∧ r.idempotencyKey.length ≤ 160)
    (.serviceError 400 "Idempotency-Key is required and must be <= 160 characters")
  let terminal ← Tx.require (← Tx.read (findTerminal r.identifier))
    (.serviceError 404 "device not found")
  Tx.ensure (r.paymentMode = paymentMode)
    (.serviceError 409 "payment mode changed; refresh the menu")
  match ← OrderRepository.findIdempotent terminal.id r.idempotencyKey with
  | some existing => do
      Tx.ensure (existing.requestDigest = r.requestDigest)
        (.serviceError 409 "Idempotency-Key payload conflict")
      pure (existing.id, true)
  | none =>
      match admitted with
      | .error e => Tx.raise e
      | .ok product => do
          let active ← OrderRepository.activeCount terminal.id
          Tx.ensure (active < env.publicOrderQueueLimit)
            (.serviceError 429 "device order queue is full")
          let (status, paymentStatus) := initialStatus r.paymentMode
          OrderRepository.insert
            { id := fresh.orderId, terminalId := terminal.id
              accessTokenHash := env.hashToken r.accessToken, idempotencyKey := r.idempotencyKey
              requestDigest := r.requestDigest, status, paymentMode := r.paymentMode, paymentStatus
              totalAmountMinor := product.priceMinor, product, createdAt := now }
          OrderRepository.insertInitialTransition fresh.orderId status
          Tx.onlyIf (r.paymentMode = .testFree) (do
            OrderRepository.insertProductionJob
              (OrderRepository.queuedJob fresh.jobId fresh.taskId fresh.orderId terminal.id
                product.estimatedDurationSeconds now)
            DispatchRepository.enqueue terminal.id now)
          pure (fresh.orderId, false)

/-- The payment whose remaining money a dying order returns. -/
def paymentToReturn (order : Order) : Sql (Option Id) :=
  match order.paidPaymentId with
  | some id => pure (some id)
  | none => do
      let payment ← PaymentRepository.paidForOrder order.id
      pure (payment.map (·.id))

/-- A paid queued order returns what remains of its money in the same transaction. -/
def refundCancelled (env : Env) (order : Order) (fresh : FreshRefund) (now : Time) : Sql Unit :=
  if order.status = .queued ∧ order.paymentStatus ∈ refundablePaymentStatuses then do
    match ← paymentToReturn order with
    | none => pure ()
    | some paymentId => do
        let _ ← ensureAutomaticRefundIntent env paymentId
          s!"order:{order.id}:cancelled-order-refund" "order cancelled before dispatch" fresh now
        pure ()
  else pure ()

/-- The intents left to be closed at the channel; none where the order is cancelled already. -/
def cancel (env : Env) (orderId : Id) (accessToken : Option String) (fresh : FreshRefund)
    (now : Time) : Sql (List Payment) := do
  let order ← PaymentApplicationService.authenticateOrder env orderId accessToken
  if order.status = .cancelled then pure []
  else do
    Tx.ensure (order.status ∈ [.created, .awaitingPayment, .queued])
      (.serviceError 409 "only unpaid or queued orders can be cancelled safely")
    let intents ← PaymentRepository.openIntentsForOrder order.id
    refundCancelled env order fresh now
    let _ ← transitionOrder order .cancelled "customer" now
    OrderRepository.cancelJob order.id now
    pure intents

/-- A close request the channel answered, and what recording the answer may draw. -/
structure Closed where
  intent : Payment
  answer : PaymentApplicationService.ChannelAnswer
  fresh : FreshRefund
  outboxId : Id

def recordClosed (env : Env) (c : Closed) (now : Time) : Sql Unit := do
  match (← PaymentRepository.find c.intent.id).filter (·.status ∈ openPaymentStatuses) with
  | none => pure ()
  | some current =>
      if c.answer.status = "CLOSED" then do
        let _ ← transitionPayment current .closed now
      else if c.answer.status = "PAID" then do
        let _ ← applyPaidCallback env c.intent.provider
          s!"close-paid:{c.intent.merchantPaymentNo}"
          (PaymentApplicationService.queriedPaid c.intent.merchantPaymentNo current.amountMinor
            c.answer) c.fresh c.outboxId now
      else
        -- Undecided results stay with the reconciliation worker.
        PaymentRepository.scheduleReconciliation current.id env.paymentReconcileSeconds now

/-- The second transaction of a cancellation: what the channel answered to the close requests. -/
def closeIntents (env : Env) (orderId : Id) (closed : List Closed) (now : Time) : Sql Unit := do
  match ← OrderRepository.find orderId with
  | none => pure ()
  | some _ => do
      Tx.forEach closed fun c => recordClosed env c now
      -- Read again: a paid answer may have moved the projection meanwhile.
      let order ← Tx.require (← OrderRepository.find orderId) (.exception "TypeError")
      let intents ← PaymentRepository.openIntentsForOrder orderId
      Tx.onlyIf (intents.isEmpty ∧ order.paymentStatus ∈ [.notStarted, .pending])
        (OrderRepository.updatePaymentStatus orderId .closed)

end PublicOrderService
end CoffeeCloud
