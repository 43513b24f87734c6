import CoffeeCloud.Library.Json

/-!
Order and job states, the order transition table, the targets of the device's
task events and the decision whether a job accepts one.
-/
namespace CoffeeCloud
open Library

inductive OrderStatus where
  | created | awaitingPayment | paid | queued | dispatched | accepted | making | ready
  | failed | cancelled | expired | refunded | hold
deriving DecidableEq, Repr

inductive JobStatus where
  | queued | dispatched | accepted | executing | paused | retryWait | hold | unknown
  | succeeded | failed | rejected | cancelled | expired
deriving DecidableEq, Repr

inductive TaskEvent where
  | acknowledged | started | paused | resumed | retryWait | retry | recovered
  | succeeded | failed | rejected | cancelled
deriving DecidableEq, Repr

def finalJobs : List JobStatus := [.succeeded, .failed, .rejected, .cancelled, .expired]

def activeJobs : List JobStatus :=
  [.dispatched, .accepted, .executing, .paused, .retryWait, .hold, .unknown]

def finalOrders : List OrderStatus := [.ready, .failed, .cancelled, .expired, .refunded]

/-- The states a late payment never revives. -/
def deadOrderStatuses : List OrderStatus := [.cancelled, .expired, .failed]

def orderTransitions : OrderStatus → List OrderStatus
  | .created => [.awaitingPayment, .paid, .queued, .cancelled, .expired]
  | .awaitingPayment => [.paid, .cancelled, .expired]
  | .paid => [.queued, .cancelled, .hold]
  | .queued => [.dispatched, .cancelled, .expired, .hold]
  | .dispatched => [.accepted, .making, .ready, .failed, .cancelled, .expired, .hold]
  | .accepted => [.making, .ready, .failed, .cancelled, .hold]
  | .making => [.ready, .failed, .cancelled, .hold]
  | .hold => [.ready, .failed, .cancelled]
  | .failed => [.refunded]
  | _ => []

/-- The key of a task event in the table of event targets. -/
def taskEvent? : String → Option TaskEvent
  | "task.acknowledged" => some .acknowledged
  | "task.started" => some .started
  | "task.paused" => some .paused
  | "task.resumed" => some .resumed
  | "task.retry_wait" => some .retryWait
  | "task.retry" => some .retry
  | "task.recovered" => some .recovered
  | "task.succeeded" => some .succeeded
  | "task.failed" => some .failed
  | "task.rejected" => some .rejected
  | "task.cancelled" => some .cancelled
  | _ => none

def TaskEvent.orderTarget : TaskEvent → OrderStatus
  | .acknowledged => .accepted
  | .started | .paused | .resumed | .retryWait | .retry => .making
  | .recovered => .hold
  | .succeeded => .ready
  | .failed | .rejected => .failed
  | .cancelled => .cancelled

def TaskEvent.jobTarget : TaskEvent → JobStatus
  | .acknowledged => .accepted
  | .started | .resumed | .retry => .executing
  | .paused => .paused
  | .retryWait => .retryWait
  | .recovered => .hold
  | .succeeded => .succeeded
  | .failed => .failed
  | .rejected => .rejected
  | .cancelled => .cancelled

def orderTransitionAllowed (current target : OrderStatus) : Bool :=
  current = target || target ∈ orderTransitions current

structure EventDecision where
  allowed : Bool
  duplicate : Bool := false
  reason : Option String := none
deriving DecidableEq, Repr

/-- What each event asks of the job it finds, final and held jobs aside. -/
def TaskEvent.accepts (current : JobStatus) : TaskEvent → Bool
  | .acknowledged | .rejected => current ∈ [.dispatched, .accepted]
  | .started => current ∈ [.dispatched, .accepted, .executing]
  | .resumed => current ∈ [.paused, .executing]
  | .retry => current ∈ [.retryWait, .executing]
  | .paused => current ∈ [.dispatched, .accepted, .executing, .paused]
  | .retryWait => current ∈ [.dispatched, .accepted, .executing, .retryWait]
  | .recovered | .succeeded | .failed | .cancelled => current ∈ activeJobs

def decideJobEvent (current : JobStatus) (event : TaskEvent) (revision : Option Int)
    (lastRevision : Int) : EventDecision :=
  let target := event.jobTarget
  if revision.any (· < lastRevision) then
    { allowed := false, duplicate := true, reason := some "STALE_REVISION" }
  else if revision = some lastRevision then
    { allowed := false
      duplicate := current = target
      reason := some (if current = target then "DUPLICATE_REVISION" else "REVISION_CONFLICT") }
  else if current ∈ finalJobs then
    { allowed := false, duplicate := current = target, reason := some "FINAL_JOB" }
  else if current ∈ [.hold, .unknown] then
    { allowed := target ∈ finalJobs, reason := some "MANUAL_REVIEW_REQUIRED" }
  else if current = .queued then
    { allowed := false, reason := some "NOT_DISPATCHED" }
  else
    let allowed := event.accepts current
    { allowed
      duplicate := current = target && revision.isNone
      reason := if allowed then none else some "ILLEGAL_JOB_TRANSITION" }

/-- Whether the device's own report forbids handing it work. A malformed report does. -/
def deviceIsBusy (reported : Json) : Bool :=
  let value := if reported.truthy then reported else .obj []
  if !value.isObj then true
  else
    let task := match value.get? "currentTask" with
      | some t => if t.truthy then t else .obj []
      | none => .obj []
    if !task.isObj then true
    else
      let taskState := match value.get? "currentTaskState" with
        | some s => if s.truthy then some s else task.get? "state"
        | none => task.get? "state"
      let deviceStatus := value.get? "deviceStatus"
      let text? : Option Json → Option (Option String)
        | none | some .null => some none
        | some (.str s) => some (some s)
        | some _ => none
      match text? taskState, text? deviceStatus with
      | some state, some status =>
          state.any (· ∈ ["RECEIVED", "VALIDATING", "ACKNOWLEDGED", "RUNNING", "PAUSED",
            "RETRY_WAIT"]) ||
          status.any (· ∈ ["BUSY", "RESERVED", "RECOVERING", "RUNNING", "PAUSED", "RETRY_WAIT"])
      | _, _ => true

end CoffeeCloud
