import CoffeeCloud.Services.PublicOrders

/-!
Production orchestration: dispatching the next queued order, reconciling what a
device reports with the order, job and command it concerns, expiring commands
that were never delivered and holding jobs the device no longer answers for.
-/
namespace CoffeeCloud
open Library

def TaskEvent.commandTarget : TaskEvent → CommandStatus
  | .acknowledged => .acked
  | .started | .paused | .resumed | .retryWait | .retry => .executing
  | .recovered => .unknown
  | .succeeded => .succeeded
  | .failed => .failed
  | .rejected => .rejected
  | .cancelled => .cancelled

def TaskEvent.type : TaskEvent → String
  | .acknowledged => "task.acknowledged"
  | .started => "task.started"
  | .paused => "task.paused"
  | .resumed => "task.resumed"
  | .retryWait => "task.retry_wait"
  | .retry => "task.retry"
  | .recovered => "task.recovered"
  | .succeeded => "task.succeeded"
  | .failed => "task.failed"
  | .rejected => "task.rejected"
  | .cancelled => "task.cancelled"

namespace ProductionService

/-- A number read from JSON; booleans are none. -/
def number? : Json → Option Rat
  | .int n => some n
  | .float q => some q
  | _ => none

def numberField? (payload : Json) (key : String) : Option Rat :=
  (payload.field? key).bind number?

def textField? (payload : Json) (key : String) : Option String :=
  (payload.field? key).bind Json.asStr?

/-- The task an event speaks of: the body's own field where it is set, else the payload's. -/
def eventTaskId (body : Json) : Option String :=
  let direct := (body.get? "taskId").filter Json.truthy
  let value := direct.or ((body.get? "payload").bind (Json.get? · "taskId"))
  (value.bind Json.asStr?).filter (· ≠ "")

def revision (payload : Json) : Except Failure (Option Int) :=
  match payload.field? "taskRevision" with
  | none => .ok none
  | some (.int n) =>
      if 0 ≤ n then .ok (some n)
      else .error (.serviceError 422 "taskRevision must be a non-negative integer")
  | some _ => .error (.serviceError 422 "taskRevision must be a non-negative integer")

/-- An integer no finite float is near: `math.isfinite` raises on it. -/
def exceedsFloat (n : Int) : Bool := 2 ^ 1024 - 2 ^ 970 ≤ n.natAbs

def validateNumber (payload : Json) (key : String) : Except Failure Unit :=
  let refused := Failure.serviceError 422 s!"{key} must be a finite non-negative number"
  match payload.field? key with
  | none => .ok ()
  | some (.int n) =>
      if exceedsFloat n then .error (.exception "OverflowError")
      else if 0 ≤ n then .ok () else .error refused
  | some (.float q) => if 0 ≤ q then .ok () else .error refused
  | some _ => .error refused

def validateText (payload : Json) (key : String) : Except Failure Unit :=
  match payload.field? key with
  | none | some (.str _) => .ok ()
  | some _ => .error (.serviceError 422 s!"{key} must be a string")

def validateAttempt (payload : Json) : Except Failure Unit :=
  let refused := Failure.serviceError 422 "attempt must be a positive integer"
  match payload.field? "attempt" with
  | none => .ok ()
  | some (.int n) => if 1 ≤ n ∧ n ≤ 2147483647 then .ok () else .error refused
  | some _ => .error refused

def validateFailure (payload : Json) : Except Failure Unit :=
  match payload.field? "failure" with
  | none | some (.obj _) => .ok ()
  | some _ => .error (.serviceError 422 "failure must be an object")

def validateMetrics (payload : Json) : Except Failure Unit := do
  validateAttempt payload
  ["taskId", "messageId", "orderId", "stepId", "stepName", "state"].forM (validateText payload)
  ["overallProgress", "stepProgress", "progress", "plannedDurationSeconds", "elapsedSeconds",
    "remainingSeconds"].forM (validateNumber payload)
  validateFailure payload

def clamp (q : Rat) : Rat := max 0 (min 1 q)

/-- Overall and step progress; an explicit null step progress is no number. -/
def deviceProgress (payload : Json) (overall step : Rat) : Except Failure (Rat × Rat) :=
  let legacy := numberField? payload "progress"
  let overall :=
    match numberField? payload "overallProgress" with
    | some q => q
    | none => (legacy.map (max overall)).getD overall
  match payload.get? "stepProgress" with
  | some .null => .error (.exception "TypeError")
  | some reported => .ok (clamp overall, clamp ((number? reported).getD step))
  | none => .ok (clamp overall, clamp (legacy.getD step))

/-- A failed or rejected task names its failure by text, or not at all. -/
def failureCode (event : TaskEvent) (payload : Json) : Except Failure Unit :=
  if event = .failed ∨ event = .rejected then
    let failure := (payload.get? "failure").filter Json.truthy
    let named :=
      match failure with
      | some f => ((f.get? "code").filter Json.truthy).or ((f.get? "errorCode").filter Json.truthy)
      | none =>
          if event = TaskEvent.rejected then (payload.get? "reasonCode").filter Json.truthy else none
    match named with
    | none | some (.str _) => .ok ()
    | some _ => .error (.exception "TypeError")
  else .ok ()

def lift {α : Type} : Except Failure α → Sql α
  | .ok a => pure a
  | .error e => Tx.raise e

structure CommandReply where
  messageId : String
  status : CommandStatus
  revision : Nat
  duplicate : Bool
deriving DecidableEq, Repr

def CommandReply.of (c : Command) (duplicate : Bool) : CommandReply :=
  ⟨c.messageId, c.status, c.revision, duplicate⟩

/-- What the reconciliation of one device event answers. -/
inductive EventReply where
  | none
  | ephemeralProgress
  | ignoredRecovery
  | standaloneHold
  | standalone (command : CommandReply)
  | notDispatched
  | ignored (orderId : Id) (status : OrderStatus) (reason : String) (command : CommandReply)
  | progress (orderId : Id)
  | applied (orderId : Id) (status : OrderStatus) (command : CommandReply)
deriving DecidableEq, Repr

/-- What an event says, its fields validated. -/
structure EventInput where
  payload : Json
  revision : Option Int
  taskId : String

def EventInput.attempt (e : EventInput) : Option Int := (e.payload.field? "attempt").bind Json.asInt?

/-- The event types that speak of a task. -/
inductive EventKind where
  | step
  | task (event : TaskEvent)

def eventKind? (eventType : String) : Option EventKind :=
  if eventType ∈ ["step.started", "step.completed"] then some .step
  else (taskEvent? eventType).map .task

def readEvent (body : Json) : Except Failure EventInput := do
  let payload := match body.get? "payload" with
    | some (.obj members) => .obj members
    | _ => .obj []
  let revision ← revision payload
  validateMetrics payload
  match eventTaskId body with
  | none => .error (.serviceError 422 "taskId is required for production events")
  | some taskId =>
      match body.field? "taskId", textField? payload "taskId" with
      | some outer, some inner =>
          if outer.asStr? = some inner then .ok ⟨payload, revision, taskId⟩
          else .error (.serviceError 409 "conflicting taskId fields")
      | _, _ => .ok ⟨payload, revision, taskId⟩

/-- A task no order owns: only the command moves, and only where it may. -/
def reconcileStandalone (terminalId : Id) (input : EventInput) (kind : EventKind) (now : Time) :
    Sql EventReply := do
  match ← CommandRepository.byTask terminalId input.taskId, kind with
  | some command, .task event => do
      Tx.ensure ((textField? input.payload "messageId").all (· = command.messageId))
        (.serviceError 409 "task command association mismatch")
      if command.status = .unknown ∧ event.commandTarget ∉ terminalStates then
        pure .standaloneHold
      else do
        let (updated, duplicate) ←
          transitionCommand command event.commandTarget "device-event" false now
        pure (.standalone (.of updated duplicate))
  | _, _ => pure .none

/-- The remaining money of the order's payment goes back, where there is one. -/
def createAutomaticRefundRecord (env : Env) (order : Order) (job : Job) (reason : String)
    (fresh : FreshRefund) (now : Time) : Sql Unit := do
  match ← PublicOrderService.paymentToReturn order with
  | none => pure ()
  | some paymentId => do
      match (← PaymentRepository.find paymentId).filter (·.status ∈ refundablePaymentStatuses) with
      | none => pure ()
      | some _ => do
          let _ ← ensureAutomaticRefundIntent env paymentId
            s!"production:{job.id}:automatic-refund" s!"production failure: {reason}" fresh now
          pure ()

def requestDispatch (terminalId : Id) (now : Time) : Sql Unit :=
  DispatchRepository.enqueue terminalId now

def jobOutcome (event : TaskEvent) (input : EventInput) (job : Job) (progress step : Rat)
    (now : Time) : OrderRepository.JobOutcome :=
  let planned := numberField? input.payload "plannedDurationSeconds"
  let done := event = .succeeded
  { status := event.jobTarget
    progress := if done then 1 else progress
    stepProgress := if done then 1 else step
    planned
    elapsed :=
      if done ∧ planned.isSome then planned else numberField? input.payload "elapsedSeconds"
    remaining := if done then some 0 else numberField? input.payload "remainingSeconds"
    deviceRevision := input.revision
    acceptedAt := if event.jobTarget = .accepted then job.acceptedAt.or (some now) else job.acceptedAt
    startedAt := if event.jobTarget = .executing then job.startedAt.or (some now) else job.startedAt
    completedAt := if event.jobTarget ∈ finalJobs then some now else job.completedAt
    attempt := input.attempt }

/-- A held job asks for manual review; a final one no longer does. -/
def markHold (event : TaskEvent) (jobId : Id) (now : Time) : Sql Unit :=
  if event.jobTarget = .hold then
    OrderRepository.updateJobHold jobId "DEVICE_RESTARTED_OUTCOME_UNKNOWN" now
  else if event.jobTarget ∈ finalJobs then OrderRepository.clearJobHold jobId
  else pure ()

/-- The writes of an accepted event, all three rows in one transaction. -/
def applyEvent (env : Env) (terminalId : Id) (event : TaskEvent) (input : EventInput)
    (order : Order) (job : Job) (command : Command) (fresh : FreshRefund) (now : Time) :
    Sql EventReply := do
  lift (failureCode event input.payload)
  let (progress, step) ← lift (deviceProgress input.payload job.progress job.stepProgress)
  let (updated, duplicate) ←
    transitionCommand command event.commandTarget "device-event" true now
  OrderRepository.updateJobTerminal job.id (jobOutcome event input job progress step now) now
  markHold event job.id now
  let order ← transitionOrder order event.orderTarget "device-event" now
  Tx.onlyIf (event ∈ ([.failed, .rejected, .cancelled] : List TaskEvent))
    (createAutomaticRefundRecord env order job event.type fresh now)
  Tx.onlyIf (event.orderTarget ∈ finalOrders) (requestDispatch terminalId now)
  pure (.applied order.id order.status (.of updated duplicate))

def applyStep (input : EventInput) (order : Order) (job : Job) (now : Time) : Sql EventReply := do
  let (progress, step) ← lift (deviceProgress input.payload job.progress job.stepProgress)
  OrderRepository.updateJobProgress job.id progress step
    (numberField? input.payload "elapsedSeconds") (numberField? input.payload "remainingSeconds")
    input.revision input.attempt now
  pure (.progress order.id)

/-- Judge the event against the three rows it concerns, then apply it or leave all as it is. -/
def judgeEvent (env : Env) (terminalId : Id) (kind : EventKind) (input : EventInput)
    (order : Order) (job : Job) (command : Command) (fresh : FreshRefund) (now : Time) :
    Sql EventReply :=
  let ignored (reason : String) : Sql EventReply :=
    pure (.ignored order.id order.status reason (.of command true))
  if input.attempt.any (· < job.executionAttempt) then ignored "STALE_ATTEMPT"
  else if order.status ∈ finalOrders ∨ job.status ∈ finalJobs ∨ command.status ∈ terminalStates then
    ignored "FINAL_STATE"
  else
    match kind with
    | .step =>
        if job.status ≠ .executing ∨ order.status ≠ .making ∨
            input.revision.any (· ≤ job.lastDeviceRevision) then ignored "STALE_STEP"
        else applyStep input order job now
    | .task event =>
        let decision := decideJobEvent job.status event input.revision job.lastDeviceRevision
        if !decision.allowed || decision.duplicate then
          ignored (decision.reason.getD "DUPLICATE")
        else if !orderTransitionAllowed order.status event.orderTarget ||
            !(decideTransition command.status event.commandTarget).allowed then
          ignored "ILLEGAL_COORDINATED_TRANSITION"
        else applyEvent env terminalId event input order job command fresh now

/-- The production command a job is bound to, checked against the task the event names. -/
def boundCommand (terminalId : Id) (taskId : String) (commandId : Id) : Sql Command := do
  Tx.require
    ((← CommandRepository.byDbId commandId).filter fun c =>
      c.commandType = "MAKE_DRINK" && c.terminalId = terminalId && c.taskId = some taskId)
    (.serviceError 409 "production command association mismatch")

def reconcileLocated (env : Env) (terminalId : Id) (kind : EventKind) (input : EventInput)
    (located : Job) (fresh : FreshRefund) (now : Time) : Sql EventReply := do
  match ← OrderRepository.findWithTerminal located.orderId, ← OrderRepository.lockJob located.id with
  | some order, some job =>
      match job.commandId with
      | none => pure .notDispatched
      | some commandId => do
          let command ← boundCommand terminalId input.taskId commandId
          Tx.ensure ((textField? input.payload "messageId").all (· = command.messageId) ∧
              (textField? input.payload "orderId").all (· = toString order.id))
            (.serviceError 409 "task event association mismatch")
          judgeEvent env terminalId kind input order job command fresh now
  | _, _ => pure .notDispatched

/-- Validate the complete order, job and command plan before changing any row. -/
def reconcileDeviceEvent (env : Env) (terminalId : Id) (body : Json) (eventType : String)
    (fresh : FreshRefund) (now : Time) : Sql EventReply :=
  if eventType = "task.progress" then pure .ephemeralProgress
  else
    match eventKind? eventType with
    | none => pure .none
    | some kind => do
        let input ← lift (readEvent body)
        if eventType = "task.recovered" ∧ textField? input.payload "state" ≠ some "PAUSED" then
          pure .ignoredRecovery
        else do
          match ← OrderRepository.jobForTask terminalId input.taskId with
          | none => reconcileStandalone terminalId input kind now
          | some located => reconcileLocated env terminalId kind input located fresh now

/-- The acknowledgement endpoint: an accepted or rejected task as the matching device event. -/
def reconcileOrderAck (env : Env) (terminalId : Id) (taskId : String) (body : Json)
    (fresh : FreshRefund) (now : Time) : Sql EventReply := do
  let accepted ← Tx.require
    (match body.get? "accepted" with | some (.bool b) => some b | _ => none)
    (.serviceError 422 "accepted must be a boolean")
  let messageId ← Tx.require
    ((((body.get? "messageId").bind Json.asStr?).filter (· ≠ "")).filter fun _ => taskId ≠ "")
    (.serviceError 422 "messageId and taskId are required")
  let _ ← Tx.require
    ((← DeviceMessageRepository.command terminalId messageId).filter fun c =>
      c.commandType = "MAKE_DRINK" && c.taskId = some taskId)
    (.serviceError 404 "task command not found")
  let members := match body with | .obj members => members | _ => []
  reconcileDeviceEvent env terminalId
    (.obj [("payload", .obj (("taskId", .str taskId) :: members.filter fun m => m.1 ≠ "taskId"))])
    (if accepted then "task.acknowledged" else "task.rejected") fresh now

/-- Delivery may have happened: the publication row was ever claimed, or a time stamp says so. -/
def deliveredEvidence (command : Command) (outbox : Option CommandOutbox) : Bool :=
  (outbox.any fun o => o.status ≠ .pending || 0 < o.attemptCount || o.publishedAt.isSome) ||
    command.publishedAt.isSome || command.deliveredAt.isSome

/-- Only a publication row that was never claimed is made unpublishable. -/
def terminalizeUnclaimed (outbox : Option CommandOutbox) (now : Time) : Sql Unit :=
  match outbox.filter fun o => o.status = .pending && o.attemptCount = 0 && o.publishedAt.isNone with
  | none => pure ()
  | some o => CommandRepository.terminalizeOutbox o.id .expired now

/-- The collected money of an order whose command never left goes back. -/
def refundExpired (env : Env) (order : Order) (fresh : FreshRefund) (now : Time) : Sql Unit :=
  if order.paymentStatus ∈ refundablePaymentStatuses then do
    match ← PublicOrderService.paymentToReturn order with
    | none => pure ()
    | some paymentId => do
        let _ ← ensureAutomaticRefundIntent env paymentId
          s!"order:{order.id}:command-expired-refund" "command expired before delivery" fresh now
        pure ()
  else pure ()

/-- The job and order of a command past its deadline: held where it may have left, else expired. -/
def expireCoordinated (env : Env) (order : Order) (job : Job) (delivered : Bool)
    (fresh : FreshRefund) (now : Time) : Sql Unit :=
  if delivered then do
    OrderRepository.updateJobHold job.id "COMMAND_EXPIRED_AFTER_DELIVERY" now
    let _ ← transitionOrder order .hold "timeout-monitor" now
  else do
    OrderRepository.updateJobExpired job.id now
    let _ ← transitionOrder order .expired "timeout-monitor" now
    refundExpired env order fresh now

/-- The order and the job of a command, both or neither. -/
def coordinated (commandId : Id) : Sql (Option (Order × Job)) := do
  match ← OrderRepository.jobForCommand commandId with
  | none => pure none
  | some located => do
      let order ← OrderRepository.findWithTerminal located.orderId
      let job ← OrderRepository.jobForCommand commandId
      pure (order.bind fun o => job.map fun j => (o, j))

/-- The recorded verdict, or nothing where the command is past CREATED or not due by `clock`. -/
def expireOrderForCommand (env : Env) (commandId : Id) (clock : Time) (fresh : FreshRefund)
    (now : Time) : Sql (Option CommandStatus) := do
  let rows ← coordinated commandId
  match (← CommandRepository.byDbId commandId).filter fun c =>
      c.status = .created && c.expiresAt.any (· ≤ clock) with
  | none => pure none
  | some current => do
      let outbox ← CommandRepository.outboxForCommand current.id
      terminalizeUnclaimed outbox now
      let delivered := deliveredEvidence current outbox
      let verdict := if delivered then CommandStatus.unknown else CommandStatus.expired
      match rows.filter fun r => r.2.status ∈ [.dispatched, .queued] with
      | none => do
          let _ ← transitionCommand current verdict "timeout-monitor" true now
          pure (some verdict)
      | some (order, job) => do
          expireCoordinated env order job delivered fresh now
          let _ ← transitionCommand current verdict "timeout-monitor" true now
          pure (some verdict)

inductive DispatchReason where
  | deviceMissing | deviceDisabled | waitingHeartbeat | activeJob | pickupBlocked | deviceBusy
  | noOrders | queueChanged | dispatched
deriving DecidableEq, Repr

def DispatchReason.retryable : DispatchReason → Bool
  | .deviceDisabled | .waitingHeartbeat | .activeJob | .pickupBlocked | .deviceBusy
  | .queueChanged => true
  | _ => false

/-- The identifiers a new command draws. -/
structure FreshCommand where
  commandId : Id
  messageId : String
  payloadDigest : String
  outboxId : Id

def terminalIsOnline (terminal : Terminal) (thresholdSeconds : Int) (now : Time) : Bool :=
  terminal.connectionStatus ≠ "offline" &&
    terminal.lastHeartbeatAt.any (now - seconds thresholdSeconds ≤ ·)

/-- The writes of a dispatch: the command, its publication row, the job's link, the order's move. -/
def dispatchJob (job : Job) (terminalId : Id) (fresh : FreshCommand) (now : Time) : Sql Unit := do
  CommandRepository.insert
    { id := fresh.commandId, terminalId, messageId := fresh.messageId, commandType := "MAKE_DRINK"
      taskId := some job.taskId, payloadDigest := fresh.payloadDigest
      idempotencyKey := some s!"order:{job.orderId}:make"
      expiresAt := some (now + seconds 600) }
  CommandRepository.insertInitialTransition fresh.commandId "order-service"
  CommandRepository.insertOutbox fresh.outboxId fresh.commandId terminalId now
  OrderRepository.linkCommand job.id fresh.commandId now
  match ← OrderRepository.findWithTerminal job.orderId with
  | none => pure ()
  | some order => do
      let _ ← transitionOrder order .dispatched "order-service" now

def dispatchNextOrderResult (env : Env) (terminalId : Id) (fresh : FreshCommand) (now : Time) :
    Sql DispatchReason := do
  match ← OrderRepository.terminalForUpdate terminalId with
  | none => pure .deviceMissing
  | some terminal =>
      if terminal.lifecycleStatus ≠ "ACTIVE" then pure .deviceDisabled
      else if !terminalIsOnline terminal env.offlineThresholdSeconds now then pure .waitingHeartbeat
      else if ← OrderRepository.activeJobExists terminalId then pure .activeJob
      else if ← PickupRepository.blocked terminalId then pure .pickupBlocked
      else if deviceIsBusy terminal.reportedStatus then pure .deviceBusy
      else do
        match ← OrderRepository.nextQueuedJob terminalId with
        | none => pure .noOrders
        | some job => do
            let order ← OrderRepository.findWithTerminal job.orderId
            let current ← OrderRepository.lockJob job.id
            if order.any (·.status = .queued) ∧ current.any (·.status = .queued) then do
              dispatchJob job terminalId fresh now
              pure .dispatched
            else pure .queueChanged

/-- The last moment a date can name. -/
def maxTime : Time := 253402300799999999

/-- Whole microseconds, half to even. -/
def microseconds (s : Rat) : Int :=
  let us := s * 1000000
  let frac := us - us.floor
  if frac < 1 / 2 then us.floor
  else if 1 / 2 < frac then us.floor + 1
  else if us.floor % 2 = 0 then us.floor else us.floor + 1

/-- `t + timedelta(seconds=s)`; both the span and the sum may overflow. -/
def addSeconds (t : Time) (s : Rat) : Except Failure Time :=
  let span := microseconds s
  if span / 86400000000 < -999999999 ∨ 999999999 < span / 86400000000 then
    .error (.exception "OverflowError")
  else if maxTime < t + span then .error (.exception "OverflowError")
  else .ok (t + span)

/-- Whether the next sign of the device is overdue at `now`. -/
def overdue (env : Env) (job : Job) (command : Command) (now : Time) : Except Failure Bool :=
  let past (since : Option Time) (s : Rat) : Except Failure Bool :=
    match since with
    | none => .ok false
    | some t => (addSeconds t s).map fun due => due < now
  if job.status ∈ [.paused, .retryWait] then
    past (some job.updatedAt) env.productionWaitTimeoutSeconds
  else if command.status ∈ [.delivering, .published] then
    past (command.publishedAt.or command.deliveredAt) env.commandAckTimeoutSeconds
  else if command.status = .acked then past command.ackedAt env.commandStartTimeoutSeconds
  else if command.status = .executing then
    let planned := (job.plannedDurationSeconds.filter (· ≠ 0)).getD 300
    past (some job.updatedAt)
      (job.remainingSeconds.getD planned + env.productionTimeoutGraceSeconds)
  else .ok false

def holdOverdueJob (env : Env) (orderId jobId : Id) (clock now : Time) : Sql Unit := do
  match ← OrderRepository.findWithTerminal orderId, ← OrderRepository.lockJob jobId with
  | some order, some job =>
      if order.status ∉ finalOrders ∧
          job.status ∈ [.dispatched, .accepted, .executing, .paused, .retryWait] then do
        let command ← match job.commandId with
          | none => pure none
          | some id => CommandRepository.byDbId id
        match command.filter (·.status ∉ terminalStates) with
        | none => pure ()
        | some command => do
            let due ← lift (overdue env job command clock)
            Tx.onlyIf (due = true) (do
              let _ ← transitionCommand command .unknown "watchdog" true now
              OrderRepository.updateJobHold jobId "DEVICE_OUTCOME_UNKNOWN" now
              let _ ← transitionOrder order .hold "watchdog" now)
      else pure ()
  | _, _ => pure ()

/-- Stored events in the order they were received. -/
def storedEvents (p : String → Bool) : Sql (List TerminalEvent) :=
  Tx.read fun db => db.terminalEvents.select (fun e => p e.eventType)
    fun a b => a.receivedAt ≤ b.receivedAt

def reconcileStored (env : Env) (p : String → Bool) (fresh : Nat → FreshRefund) (now : Time) :
    Sql Unit := do
  let items ← storedEvents p
  Tx.forEach items.zipIdx fun item => do
    let _ ← reconcileDeviceEvent env item.1.terminalId item.1.payload item.1.eventType
      (fresh item.2) now

def reconcileStoredCommandEvents (env : Env) : (Nat → FreshRefund) → Time → Sql Unit :=
  reconcileStored env
    (· ∈ ["task.started", "task.succeeded", "task.failed", "task.cancelled"])

def reconcileStoredOrderEvents (env : Env) : (Nat → FreshRefund) → Time → Sql Unit :=
  reconcileStored env fun t => t.startsWith "task." || t.startsWith "step."

end ProductionService
end CoffeeCloud
