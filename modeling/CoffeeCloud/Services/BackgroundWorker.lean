import CoffeeCloud.Services.Production

/-!
Retryable jobs and recovery scans. A channel call stands between two
transactions, so each function here is one transaction and the channel's answer
is an argument of the second.
-/
namespace CoffeeCloud
open Library ProductionService

namespace BackgroundWorkerService

def markOffline (env : Env) (clock : Time) : Sql Unit :=
  WorkerRepository.markOffline (clock - seconds env.offlineThresholdSeconds)

/-- Never expire an order whose payment is already in flight. -/
def expireUnpaid (env : Env) (picks : List Id) (now : Time) : Sql Unit :=
  Tx.forEach picks fun pick => do
    match (← OrderRepository.find pick).filter
        (OrderRepository.isExpiredUnpaid env.paymentPendingTtlSeconds now) with
    | none => pure ()
    | some order => do
        let _ ← transitionOrder order .expired "order-expiration" now

/-- The identifiers a job created by a paid event draws. -/
structure FreshJob where
  jobId : Id
  taskId : String

/-- The production job of a paid order, where it has none yet. -/
def ensureJob (order : Order) (fresh : FreshJob) (now : Time) : Sql Unit := do
  match ← OrderRepository.job order.id with
  | some _ => pure ()
  | none =>
      OrderRepository.insertProductionJob
        (OrderRepository.queuedJob fresh.jobId fresh.taskId order.id order.terminalId
          order.product.estimatedDurationSeconds now)

/-- A paid order that can still be made gets its job and its place in the queue. -/
def processPaidEvent (event : BusinessEvent) (fresh : FreshJob) (now : Time) : Sql Unit := do
  match (← OrderRepository.findWithTerminal event.orderId).filter (·.paymentStatus = .paid) with
  | none => pure ()
  | some order =>
      if order.status ∈ finalOrders then pure ()
      else if order.paidPaymentId.any (· ≠ event.paymentId) then pure ()
      else do
        ensureJob order fresh now
        Tx.onlyIf (order.status = .paid) (do
          let _ ← transitionOrder order .queued "outbox-worker" now)
        requestDispatch order.terminalId now

/-- One event of a batch. `disturbed` stands for what may go wrong beyond the rows it reads. -/
def handleEvent (event : BusinessEvent) (disturbed : Bool) (fresh : FreshJob) (now : Time) :
    Sql Unit := do
  let handled ← Tx.savepoint (do
    processPaidEvent event fresh now
    Tx.ensure (disturbed = false) (.exception "disturbed")
    WorkerRepository.markBusinessProcessed event.id now)
  match handled with
  | .ok _ => pure ()
  | .error _ => WorkerRepository.markBusinessRetry event.id now

def processBusinessOutboxBatch (picks : List Id) (disturbed : Id → Bool) (fresh : Id → FreshJob)
    (now : Time) : Sql Unit := do
  let events ← WorkerRepository.claimBusinessEvents now picks
  Tx.forEach events fun event => handleEvent event (disturbed event.id) (fresh event.id) now

def claimDispatch (pick : Id) (now : Time) : Sql (Option DispatchRequest) :=
  DispatchRepository.claim pick now

/-- A retryable outcome keeps the request while the terminal has work; any other one ends it. -/
def processDispatch (env : Env) (request : DispatchRequest) (fresh : FreshCommand) (now : Time) :
    Sql DispatchReason := do
  let outcome ← dispatchNextOrderResult env request.terminalId fresh now
  let next ← OrderRepository.nextQueuedJob request.terminalId
  if outcome.retryable && next.isSome then do
    DispatchRepository.retry request.terminalId request.revision now
    pure outcome
  else do
    DispatchRepository.complete request.terminalId request.revision now
    pure outcome

/-- After a dispatch that raised. -/
def retryDispatch (request : DispatchRequest) (now : Time) : Sql Unit :=
  DispatchRepository.retry request.terminalId request.revision now

def claimPayment (env : Env) (pick : Id) (now : Time) : Sql (Option Payment) :=
  WorkerRepository.claimPayment pick env.paymentReconcileSeconds now

/-- The state a channel's closing answer puts an open intent in. -/
def closingTarget? (status : String) : Option PaymentStatus :=
  if status = "CLOSED" then some .closed
  else if status = "FAILED" then some .failed
  else none

/-- What the channel said about a claimed intent. -/
def reconcilePayment (env : Env) (payment : Payment)
    (answer : PaymentApplicationService.ChannelAnswer) (fresh : FreshRefund) (outboxId : Id)
    (now : Time) : Sql Unit :=
  if answer.status = "PAID" then do
    let _ ← applyPaidCallback env payment.provider
      s!"reconcile-paid:{payment.merchantPaymentNo}"
      (PaymentApplicationService.queriedPaid payment.merchantPaymentNo payment.amountMinor answer)
      fresh outboxId now
  else
    match closingTarget? answer.status with
    | none => pure ()
    | some target => do
        match ← OrderRepository.find payment.orderId with
        | none => pure ()
        | some _ => do
            match (← PaymentRepository.find payment.id).filter (·.status ∈ openPaymentStatuses) with
            | none => pure ()
            | some current => do
                let _ ← transitionPayment current target now
                OrderRepository.updatePaymentOutcome current.orderId target

/-- The refund to be submitted, marked PROCESSING. -/
def claimRefund (pick : Id) (now : Time) : Sql (Option Refund) := do
  match ← WorkerRepository.claimRefund pick now with
  | none => pure none
  | some refund => do
      match ← PaymentRepository.find refund.paymentId with
      | none => pure none
      | some _ =>
          if refund.status ≠ .processing then do
            let (refund, _) ← transitionRefund refund .processing now
            WorkerRepository.markRefundAttempt refund.id now
            pure (some refund)
          else do
            WorkerRepository.markRefundAttempt refund.id now
            pure (some refund)

/-- How a channel call about a refund ends. -/
inductive RefundAnswer where
  | status (text : String)
  | raised
deriving DecidableEq, Repr

def RefundAnswer.target : RefundAnswer → RefundStatus
  | .status text =>
      if text = "REFUNDED" then .succeeded
      else if text = "FAILED" then .failed
      else .processing
  | .raised => .unknown

/-- The answer is recorded, and what is still open is scheduled again. -/
def recordRefund (refundId : Id) (answer : RefundAnswer) (now : Time) : Sql Unit := do
  match ← applyRefundOutcome refundId answer.target "refund-reconciliation" now with
  | none => pure ()
  | some current =>
      if current.status = .unknown then PaymentRepository.scheduleRefund current.id now
      else if current.status = .processing then
        PaymentRepository.scheduleProcessingRefund current.id now
      else pure ()

end BackgroundWorkerService
end CoffeeCloud
