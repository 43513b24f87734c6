import CoffeeCloud.Schema

/-!
The statements of the order repository. `for update` has no counterpart: a
transaction is one step of the model, so the rows it locks are the rows it sees.
-/
namespace CoffeeCloud
open Library

namespace OrderRepository

def find (orderId : Id) : Sql (Option Order) :=
  Tx.read (·.orders.find? orderId)

/-- The order joined with its terminal. -/
def findWithTerminal (orderId : Id) : Sql (Option Order) :=
  Tx.read fun db =>
    (db.orders.find? orderId).filter fun o => (db.terminals.find? o.terminalId).isSome

def findIdempotent (terminalId : Id) (idempotencyKey : String) : Sql (Option Order) :=
  Tx.read (·.orders.first? fun o => o.terminalId = terminalId ∧ o.idempotencyKey = idempotencyKey)

/-- The states in which an order holds a place in the queue of its terminal. -/
def activeOrderStatuses : List OrderStatus :=
  [.created, .awaitingPayment, .paid, .queued, .dispatched, .accepted, .making, .hold]

def activeCount (terminalId : Id) : Sql Nat :=
  Tx.read fun db =>
    (db.orders.rows.filter fun o => o.terminalId = terminalId ∧ o.status ∈ activeOrderStatuses).length

/-- Whether a row is one the unpaid-order scan may pick at `now`. -/
def isExpiredUnpaid (ttlSeconds : Int) (now : Time) (o : Order) : Bool :=
  o.status = .created && o.paymentStatus = .notStarted && o.createdAt < now - seconds ttlSeconds

def insert (order : Order) : Sql Unit := do
  let db ← Tx.read id
  Tx.ensure (db.orders.find? order.id).isNone (.uniqueViolation "sales_order_pkey")
  Tx.ensure (db.orders.first? fun o => o.terminalId = order.terminalId ∧
      o.idempotencyKey = order.idempotencyKey).isNone
    (.uniqueViolation "sales_order_terminal_id_idempotency_key_key")
  Tx.write fun db => { db with orders := db.orders.insert order }

def insertInitialTransition (orderId : Id) (status : OrderStatus) : Sql Unit :=
  Tx.write fun db => { db with
    orderTransitions := db.orderTransitions ++ [⟨orderId, 0, none, status, "public-api"⟩] }

/-- A job as it is first queued. -/
def queuedJob (jobId : Id) (taskId : String) (orderId terminalId : Id)
    (plannedDurationSeconds : Option Rat) (now : Time) : Job :=
  { id := jobId, taskId, orderId, terminalId, status := .queued, plannedDurationSeconds
    createdAt := now, updatedAt := now }

def insertProductionJob (job : Job) : Sql Unit := do
  let db ← Tx.read id
  Tx.ensure (db.jobs.find? job.id).isNone (.uniqueViolation "production_job_pkey")
  Tx.ensure (db.jobs.first? fun j => j.taskId = job.taskId).isNone
    (.uniqueViolation "production_job_task_id_key")
  Tx.ensure (db.jobs.first? fun j => j.orderId = job.orderId).isNone
    (.uniqueViolation "production_job_order_id_key")
  Tx.write fun db => { db with jobs := db.jobs.insert job }

def job (orderId : Id) : Sql (Option Job) :=
  Tx.read (·.jobs.first? fun j => j.orderId = orderId)

def jobForCommand (commandId : Id) : Sql (Option Job) :=
  Tx.read (·.jobs.first? fun j => j.commandId = some commandId)

def jobForTask (terminalId : Id) (taskId : String) : Sql (Option Job) :=
  Tx.read (·.jobs.first? fun j => j.terminalId = terminalId ∧ j.taskId = taskId)

def lockJob (jobId : Id) : Sql (Option Job) :=
  Tx.read (·.jobs.find? jobId)

def modifyJob (jobId : Id) (f : Job → Job) (hf : ∀ j, (f j).id = j.id) : Sql Unit :=
  Tx.write fun db => { db with jobs := db.jobs.modify jobId f hf }

def updateJobExpired (jobId : Id) (now : Time) : Sql Unit :=
  modifyJob jobId
    (fun j => { j with
      status := .expired, revision := j.revision + 1, completedAt := some now, updatedAt := now })
    (fun _ => rfl)

def updateJobHold (jobId : Id) (holdReason : String) (now : Time) : Sql Unit :=
  modifyJob jobId
    (fun j => { j with
      status := .hold, holdReason := some holdReason, manualReviewRequired := true
      revision := j.revision + 1, updatedAt := now })
    (fun _ => rfl)

def updateJobProgress (jobId : Id) (progress stepProgress : Rat) (elapsed remaining : Option Rat)
    (deviceRevision attempt : Option Int) (now : Time) : Sql Unit :=
  modifyJob jobId
    (fun j => { j with
      progress, stepProgress
      elapsedSeconds := elapsed.getD j.elapsedSeconds
      remainingSeconds := remaining.or j.remainingSeconds
      lastDeviceRevision := max j.lastDeviceRevision (deviceRevision.getD j.lastDeviceRevision)
      executionAttempt := max j.executionAttempt (attempt.getD j.executionAttempt)
      revision := j.revision + 1, updatedAt := now })
    (fun _ => rfl)

structure JobOutcome where
  status : JobStatus
  progress : Rat
  stepProgress : Rat
  planned : Option Rat
  elapsed : Option Rat
  remaining : Option Rat
  deviceRevision : Option Int
  acceptedAt : Option Time
  startedAt : Option Time
  completedAt : Option Time
  attempt : Option Int := none

def JobOutcome.apply (u : JobOutcome) (now : Time) (j : Job) : Job :=
  { j with
    status := u.status, progress := u.progress, stepProgress := u.stepProgress
    plannedDurationSeconds := u.planned.or j.plannedDurationSeconds
    elapsedSeconds := u.elapsed.getD j.elapsedSeconds
    remainingSeconds := u.remaining.or j.remainingSeconds
    lastDeviceRevision := max j.lastDeviceRevision (u.deviceRevision.getD j.lastDeviceRevision)
    executionAttempt := max j.executionAttempt (u.attempt.getD j.executionAttempt)
    revision := j.revision + 1
    acceptedAt := u.acceptedAt, startedAt := u.startedAt, completedAt := u.completedAt
    updatedAt := now }

theorem JobOutcome.apply_id (u : JobOutcome) (now : Time) (j : Job) : (u.apply now j).id = j.id :=
  rfl

def updateJobTerminal (jobId : Id) (u : JobOutcome) (now : Time) : Sql Unit :=
  modifyJob jobId (u.apply now) (u.apply_id now)

def clearJobHold (jobId : Id) : Sql Unit :=
  modifyJob jobId (fun j => { j with holdReason := none, manualReviewRequired := false })
    (fun _ => rfl)

def cancelJob (orderId : Id) (now : Time) : Sql Unit :=
  Tx.write fun db => { db with
    jobs := db.jobs.modifyWhere (fun j => j.orderId = orderId)
      (fun j => { j with
        status := .cancelled, revision := j.revision + 1, updatedAt := now
        completedAt := some now }) }

def terminalForUpdate (terminalId : Id) : Sql (Option Terminal) :=
  Tx.read (·.terminals.find? terminalId)

def activeJobExists (terminalId : Id) : Sql Bool :=
  Tx.read fun db => db.jobs.rows.any fun j => j.terminalId = terminalId ∧ j.status ∈ activeJobs

/-- Queued jobs of queued orders, oldest first. -/
def nextQueuedJob (terminalId : Id) : Sql (Option Job) :=
  Tx.read fun db =>
    (db.jobs.select
      (fun j => j.terminalId = terminalId && j.status = .queued &&
        (db.orders.find? j.orderId).any (·.status = .queued))
      (fun a b => a.createdAt < b.createdAt || (a.createdAt = b.createdAt && a.id ≤ b.id))).head?

/-- Unique on `command_id`, and on the terminal among its active jobs. -/
def linkCommand (jobId commandId : Id) (now : Time) : Sql Unit := do
  let db ← Tx.read id
  Tx.ensure (db.jobs.first? fun j => j.commandId = some commandId).isNone
    (.uniqueViolation "production_job_command_id_key")
  let terminalId := (db.jobs.find? jobId).map (·.terminalId)
  Tx.ensure (db.jobs.first? fun j =>
      j.id ≠ jobId ∧ some j.terminalId = terminalId ∧ j.status ∈ activeJobs).isNone
    (.uniqueViolation "uq_production_job_active_terminal")
  modifyJob jobId
    (fun j => { j with
      commandId := some commandId, status := .dispatched, revision := j.revision + 1
      updatedAt := now })
    (fun _ => rfl)

def updatePaymentStatus (orderId : Id) (status : PaymentStatus) : Sql Unit :=
  Tx.write fun db => { db with
    orders := db.orders.modify orderId fun o => { o with paymentStatus := status } }

def updatePaymentOutcome (orderId : Id) (status : PaymentStatus) : Sql Unit :=
  Tx.write fun db => { db with
    orders := db.orders.modify orderId fun o => { o with
      paymentStatus := status
      status := if o.status ∈ [.created, .awaitingPayment] then .cancelled else o.status } }

def nextTransitionRevision (orderId : Id) : Sql Nat :=
  Tx.read fun db =>
    ((db.orderTransitions.filter (·.orderId = orderId)).map (·.revision + 1)).foldl max 0

def updateTransitionState (orderId : Id) (target : OrderStatus)
    (startedAt completedAt cancelledAt : Option Time) : Sql Order := do
  Tx.write fun db => { db with
    orders := db.orders.modify orderId fun o => { o with
      status := target, startedAt, completedAt, cancelledAt } }
  Tx.require (← find orderId) (.exception "TypeError")

def insertTransition (t : OrderTransition) : Sql Unit :=
  Tx.write fun db => { db with orderTransitions := db.orderTransitions ++ [t] }

end OrderRepository
end CoffeeCloud
