import CoffeeCloud.Services.Parameters

/-!
The two sides of a device command: the gateway that publishes it and the device
that polls it, acknowledges its task and reports events and results.
-/
namespace CoffeeCloud
open Library ProductionService

namespace CommandService

/-- The rows handed to the gateway. -/
def claim (env : Env) (gatewayId : String) (picks : List Id) (now : Time) :
    Sql (List CommandOutbox) :=
  CommandRepository.claim gatewayId env.commandPublishLeaseSeconds now picks

inductive PublishReply where
  | ok | duplicate | late
deriving DecidableEq, Repr

/-- The command of a confirmed publication moves on, and only while it still waits for one. -/
def confirmPublished (commandId : Id) (now : Time) : Sql Unit := do
  match ← CommandRepository.byDbId commandId with
  | none => pure ()
  | some command => do
      Tx.onlyIf (command.status ∈ [.created, .delivering]) (do
        let _ ← transitionCommand command .published "mqtt-gateway" true now)
      CommandRepository.setPublishedAt command.id now

def published (outboxId : Id) (gatewayId : String) (now : Time) : Sql PublishReply := do
  let located ← Tx.require (← CommandRepository.findOutbox outboxId)
    (.serviceError 404 "command outbox item not found")
  let command ← CommandRepository.byDbId located.commandId
  let outbox ← Tx.require (← CommandRepository.outbox outboxId) (.exception "TypeError")
  if outbox.status = .published then pure .duplicate
  else if outbox.status = .expired then do
    -- Delivery evidence is recorded, but neither command nor order is revived.
    match command with
    | none => pure .late
    | some command => do
        CommandRepository.setPublishedAt command.id now
        pure .late
  else do
    Tx.ensure (outbox.status = .publishing ∧ outbox.lockedBy = some gatewayId)
      (.serviceError 409 "command publish lease mismatch")
    CommandRepository.markPublished outbox.id now
    confirmPublished outbox.commandId now
    pure .ok

def retry (outboxId : Id) (gatewayId : String) (now : Time) : Sql PublishReply := do
  let row ← Tx.require (← CommandRepository.findOutbox outboxId)
    (.serviceError 404 "command outbox item not found")
  if row.status = .published then pure .duplicate
  else do
    Tx.ensure (row.lockedBy = some gatewayId) (.serviceError 409 "command publish lease mismatch")
    CommandRepository.markRetry row.id now
    pure .ok

structure CreateRequest where
  terminalId : Id
  commandType : String
  taskId : Option String
  expiresAt : Option Time

def insertCommand (r : CreateRequest) (idempotencyKey : Option String) (actor : String)
    (fresh : FreshCommand) (now : Time) : Sql Unit := do
  CommandRepository.insert
    { id := fresh.commandId, terminalId := r.terminalId, messageId := fresh.messageId
      commandType := r.commandType, taskId := r.taskId, payloadDigest := fresh.payloadDigest
      idempotencyKey, expiresAt := r.expiresAt }
  CommandRepository.insertInitialTransition fresh.commandId actor
  CommandRepository.insertOutbox fresh.outboxId fresh.commandId r.terminalId now

def createRaw (r : CreateRequest) (fresh : FreshCommand) (now : Time) : Sql Unit :=
  insertCommand r none "debug-api" fresh now

/-- Whether the request was answered before. -/
def createAdmin (r : CreateRequest) (key : String) (fresh : FreshCommand) (clock now : Time) :
    Sql Bool := do
  Tx.ensure (key ≠ "" ∧ key.length ≤ 160)
    (.serviceError 400 "Idempotency-Key is required and must be <= 160 characters")
  let expiresAt := r.expiresAt.getD (clock + seconds 300)
  Tx.ensure (clock < expiresAt) (.serviceError 422 "expiresAt must be in the future")
  let terminal ← Tx.require (← OrderRepository.terminalForUpdate r.terminalId)
    (.serviceError 404 "device not found")
  match ← CommandRepository.byIdempotency terminal.id key with
  | some existing => do
      Tx.ensure (existing.payloadDigest = fresh.payloadDigest)
        (.serviceError 409 "Idempotency-Key payload conflict")
      pure true
  | none => do
      insertCommand { r with expiresAt := some expiresAt } (some key) "admin-api" fresh now
      pure false

end CommandService

namespace DeviceMessageService

/-- What a poll does with one candidate. -/
inductive Polled where
  | skipped
  | handed (command : Command)
  | judged (verdict : Option CommandStatus)

/-- A polled command that is still to be made becomes DELIVERING and is handed out. -/
def deliver (row : Command) (now : Time) : Sql Polled := do
  let row ←
    if row.status = .created then do
      let (row, _) ← transitionCommand row .delivering "cloud" true now
      pure row
    else pure row
  pure (if row.status = .delivering ∨ row.status = .published then .handed row else .skipped)

/-- One candidate of a poll, as it was read: expired, skipped or handed out. -/
def pollCandidate (env : Env) (candidate : Command) (clock clock' : Time) (fresh : FreshRefund)
    (now : Time) : Sql Polled :=
  if candidate.expiresAt.any (· ≤ clock) then do
    let verdict ← expireOrderForCommand env candidate.id clock' fresh now
    pure (.judged verdict)
  else do
    match (← CommandRepository.byDbId candidate.id).filter fun c =>
        !c.expiresAt.any (· ≤ clock') with
    | none => pure .skipped
    | some row => deliver row now

inductive EventAnswer where
  | dropped
  | duplicate
  | accepted (reply : EventReply)
deriving DecidableEq, Repr

structure DeviceEvent where
  eventId : String
  bootId : Option String := none
  sequence : Option Int := none
  eventType : String
  body : Json

def DeviceEvent.payload (e : DeviceEvent) : Json := (e.body.get? "payload").getD (.obj [])

def isBigint (n : Int) : Bool := 0 ≤ n && n < 2 ^ 63

/-- A task or inventory event raises the watermark of the inventory it speaks of. -/
def recordInventory (terminalId : Id) (e : DeviceEvent) : Sql Unit :=
  if e.eventType.startsWith "task." || e.eventType.startsWith "inventory." then
    match e.payload.field? "inventoryVersion" with
    | none => pure ()
    | some (.int version) => do
        Tx.ensure (isBigint version) (.serviceError 422 "invalid inventoryVersion")
        DeviceMessageRepository.requireInventoryVersion terminalId version
    | some _ => Tx.raise (.serviceError 422 "invalid inventoryVersion")
  else pure ()

def slotState? : String → Option SlotState
  | "EMPTY" => some .empty
  | "OCCUPIED" => some .occupied
  | "NEEDS_CHECK" => some .needsCheck
  | _ => none

/-- The slot a report describes; revision zero describes none. -/
def readSlot (terminalId : Id) (reported : Json) : Except Failure (Option PickupSlot) :=
  match reported.isObj, (reported.get? "revision").bind Json.asInt? with
  | true, some revision =>
      if !isBigint revision then .error (.serviceError 422 "invalid pickup slot revision")
      else if revision = 0 then .ok none
      else
        match (reported.get? "state").bind fun s => s.asStr?.bind slotState?,
            ((reported.get? "taskId").bind Json.asStr?).filter (· ≠ "") with
        | some state, some taskId => .ok (some ⟨terminalId, revision, state, taskId⟩)
        | _, _ => .error (.serviceError 422 "invalid pickup slot")
  | _, _ => .error (.serviceError 422 "invalid pickup slot revision")

def slotEvents : List String :=
  ["task.succeeded", "task.recovered", "pickup.collected", "pickup.overdue"]

/-- The pickup slot an event reports, applied in the transaction of the event. -/
def recordSlot (terminalId : Id) (e : DeviceEvent) (now : Time) : Sql Unit := do
  let reported := (e.payload.get? "pickupSlot").getD .null
  Tx.ensure (e.eventType.startsWith "pickup." →
      reported.isObj ∧ ((reported.get? "revision").getD .null).truthy)
    (.serviceError 422 "pickup events require a versioned slot")
  if reported.truthy ∧ e.eventType ∈ slotEvents then do
    match ← lift (readSlot terminalId reported) with
    | none => pure ()
    | some slot => do
        let collected : Bool := e.eventType = "pickup.collected"
        Tx.ensure (collected → slot.state = .empty ∧
            (e.payload.get? "taskId").bind Json.asStr? = some slot.taskId)
          (.serviceError 422 "pickup confirmation does not match task")
        PickupRepository.apply slot collected now
        Tx.onlyIf (collected = true) (requestDispatch terminalId now)
  else pure ()

/-- One event of a device: recorded once, reconciled, its inventory and slot reports applied. -/
def event (env : Env) (terminalId : Id) (e : DeviceEvent) (fresh : FreshRefund) (now : Time) :
    Sql EventAnswer :=
  if e.eventType = "task.progress" then pure .dropped
  else do
    let digest := env.canonicalDigest e.body
    match ← DeviceMessageRepository.event terminalId e.eventId with
    | some existing => do
        Tx.ensure (existing.payloadDigest = digest) (.serviceError 409 "eventId payload conflict")
        pure .duplicate
    | none => do
        let _ ← DeviceMessageRepository.insertEvent env.driver
          { terminalId, eventId := e.eventId, bootId := e.bootId, sequence := e.sequence
            eventType := e.eventType, payloadDigest := digest, payload := e.body, receivedAt := now }
        let reply ← reconcile env.driver env terminalId e.body e.eventType fresh now
        recordInventory terminalId e
        recordSlot terminalId e now
        pure (.accepted reply)

def taskAck (env : Env) (terminalId : Id) (taskId : String) (body : Json) (fresh : FreshRefund)
    (now : Time) : Sql EventReply :=
  reconcileOrderAck env terminalId taskId body fresh now

/-- The result of a control command; production commands answer through events only. -/
def commandResult (terminalId : Id) (messageId status : String) (now : Time) :
    Sql CommandReply := do
  let command ← Tx.require (← DeviceMessageRepository.command terminalId messageId)
    (.serviceError 404 "command not found")
  Tx.ensure (command.commandType ≠ "MAKE_DRINK")
    (.serviceError 409 "MAKE_DRINK requires task acknowledgement or lifecycle events")
  let (updated, duplicate) ←
    transitionCommand command (resultState status) "device-result" true now
  pure (.of updated duplicate)

end DeviceMessageService
end CoffeeCloud
