import CoffeeCloud.Services.Production

/-!
The human-confirmed resolution of an order on hold. It never moves hardware; the
dispatcher checks the device again on its own.
-/
namespace CoffeeCloud
open Library ProductionService

namespace OrderAdjudicationService

inductive Outcome where
  | succeeded | failed | cancelled
deriving DecidableEq, Repr

def Outcome.orderStatus : Outcome → OrderStatus
  | .succeeded => .ready
  | .failed => .failed
  | .cancelled => .cancelled

def Outcome.jobStatus : Outcome → JobStatus
  | .succeeded => .succeeded
  | .failed => .failed
  | .cancelled => .cancelled

def Outcome.commandStatus : Outcome → CommandStatus
  | .succeeded => .succeeded
  | .failed => .failed
  | .cancelled => .cancelled

structure Request where
  orderId : Id
  taskId : String
  expectedRevision : Int
  outcome : Outcome
  key : String
  digest : String
  actor : String

def jobOutcome (outcome : Outcome) (job : Job) (now : Time) : OrderRepository.JobOutcome :=
  let done := outcome = .succeeded
  { status := outcome.jobStatus
    progress := if done then 1 else job.progress
    stepProgress := if done then 1 else job.stepProgress
    planned := none
    elapsed := some job.elapsedSeconds
    remaining := if done then some 0 else job.remainingSeconds
    deviceRevision := none
    acceptedAt := job.acceptedAt
    startedAt := job.startedAt
    completedAt := some now }

/-- The three rows move to the outcome, and an order not made returns its money. -/
def resolve (env : Env) (r : Request) (order : Order) (job : Job) (command : Command)
    (fresh : FreshRefund) (now : Time) : Sql Adjudication := do
  let _ ← transitionCommand command r.outcome.commandStatus r.actor true now
  OrderRepository.updateJobTerminal job.id (jobOutcome r.outcome job now) now
  OrderRepository.clearJobHold job.id
  let order ← transitionOrder order r.outcome.orderStatus r.actor now
  Tx.onlyIf (r.outcome ≠ .succeeded)
    (createAutomaticRefundRecord env order job "manual-adjudication" fresh now)
  let terminal ← OrderRepository.terminalForUpdate order.terminalId
  let result : Adjudication :=
    { orderId := r.orderId, idempotencyKey := r.key, requestDigest := r.digest, taskId := r.taskId
      status := r.outcome.orderStatus, productionStatus := r.outcome.jobStatus
      productionRevision := job.revision + 1
      deviceReleasePending := terminal.all fun t => deviceIsBusy t.reportedStatus }
  requestDispatch order.terminalId now
  AdjudicationRepository.insert result
  pure result

/-- The production command of the held job, as the adjudication must find it. -/
def heldCommand (order : Order) (job : Job) (taskId : String) : Sql Command := do
  let command ← match job.commandId with
    | none => pure none
    | some id => CommandRepository.byDbId id
  Tx.require
    (command.filter fun c =>
      c.commandType = "MAKE_DRINK" && c.terminalId = order.terminalId && c.taskId = some taskId)
    (.serviceError 409 "production command association mismatch")

def adjudicate (env : Env) (r : Request) (fresh : FreshRefund) (now : Time) :
    Sql Adjudication := do
  Tx.ensure (stripped r.key ≠ "" ∧ r.key.length ≤ 160)
    (.serviceError 422 "Idempotency-Key must contain 1 to 160 characters")
  let order ← Tx.require (← OrderRepository.findWithTerminal r.orderId)
    (.serviceError 404 "order not found")
  match ← AdjudicationRepository.find r.orderId r.key with
  | some previous => do
      Tx.ensure (previous.requestDigest = r.digest)
        (.serviceError 409 "Idempotency-Key payload conflict")
      pure previous
  | none => do
      let job ← Tx.require ((← OrderRepository.job r.orderId).filter (·.taskId = r.taskId))
        (.serviceError 409 "task does not belong to this order")
      Tx.ensure (job.revision = r.expectedRevision)
        (.serviceError 409 "production job revision changed; refresh before adjudication")
      Tx.ensure (order.status = .hold ∧ job.status = .hold ∧ job.manualReviewRequired = true)
        (.serviceError 409 "order is not awaiting manual review")
      let command ← heldCommand order job r.taskId
      Tx.ensure ((decideTransition command.status r.outcome.commandStatus).allowed = true)
        (.serviceError 409 "command cannot accept this adjudication")
      resolve env r order job command fresh now

end OrderAdjudicationService
end CoffeeCloud
