import CoffeeCloud.Schema

/-!
The statements of the pickup, dispatch, adjudication and business outbox
repositories, and the scans of the background worker.
-/
namespace CoffeeCloud
open Library

namespace PickupRepository

def blocked (terminalId : Id) : Sql Bool :=
  Tx.read fun db => (db.pickupSlots.find? terminalId).any (·.state ≠ .empty)

/-- The order that waits at the slot is marked, then the slot is moved forward, never back. -/
def apply (slot : PickupSlot) (collected : Bool) (now : Time) : Sql Unit := do
  Tx.write fun db =>
    match db.jobs.first? fun j => j.terminalId = slot.terminalId ∧ j.taskId = slot.taskId with
    | none => db
    | some j => { db with
        orders := db.orders.modify j.orderId fun o => { o with
          pickupRequired := true
          collectedAt := if collected then o.collectedAt.or (some now) else o.collectedAt } }
  let db ← Tx.read id
  match db.pickupSlots.find? slot.terminalId with
  | none => Tx.write fun db => { db with pickupSlots := db.pickupSlots.insert slot }
  | some current =>
      if current.revision < slot.revision then
        Tx.write fun db => { db with
          pickupSlots := db.pickupSlots.modify slot.terminalId fun s =>
            { s with revision := slot.revision, state := slot.state, taskId := slot.taskId } }
      else
        Tx.ensure
          (current.revision = slot.revision → current.state = slot.state ∧
            current.taskId = slot.taskId)
          (.serviceError 409 "conflicting pickup state at the same revision")

end PickupRepository

namespace DispatchRepository

/-- Durable, coalescing: one row a terminal, its revision counting the requests. -/
def enqueue (terminalId : Id) (now : Time) : Sql Unit :=
  Tx.write fun db => { db with
    dispatchRequests :=
      match db.dispatchRequests.find? terminalId with
      | none => db.dispatchRequests.insert { terminalId, requestedAt := now, nextAttemptAt := now }
      | some _ => db.dispatchRequests.modify terminalId fun r =>
          { r with
            requestedAt := now, revision := r.revision + 1
            status := if r.status = .processing then .processing else .pending
            nextAttemptAt := now } }

/-- Terminals with a queued job of a queued order and no request. -/
def missing (db : Db) : List Id :=
  ((db.jobs.rows.filter fun j =>
      j.status = .queued && (db.orders.find? j.orderId).any (·.status = .queued) &&
        (db.dispatchRequests.find? j.terminalId).isNone).map (·.terminalId)).dedup

def repairMissing (limit : Nat) (now : Time) : Sql Nat := do
  let db ← Tx.read id
  let terminals := ((missing db).insertionSort (· ≤ ·)).take limit
  Tx.forEach terminals fun terminalId =>
    Tx.write fun db => { db with
      dispatchRequests :=
        db.dispatchRequests.insert { terminalId, requestedAt := now, nextAttemptAt := now } }
  pure terminals.length

def isClaimable (now : Time) (r : DispatchRequest) : Bool :=
  (r.status ∈ [.pending, .retry] && r.nextAttemptAt ≤ now) ||
    (r.status = .processing && r.lockedUntil.any (· < now))

def claim (pick : Id) (now : Time) : Sql (Option DispatchRequest) := do
  let db ← Tx.read id
  match (db.dispatchRequests.find? pick).filter (isClaimable now) with
  | none => pure none
  | some r => do
      Tx.write fun db => { db with
        dispatchRequests := db.dispatchRequests.modify r.terminalId fun r =>
          { r with status := .processing, lockedUntil := some (now + seconds 30) } }
      Tx.read (·.dispatchRequests.find? r.terminalId)

/-- Hand a request raised meanwhile back to the queue. -/
def release (terminalId : Id) (now : Time) (t : Table DispatchRequest) : Table DispatchRequest :=
  t.modifyWhere (fun r => r.terminalId = terminalId && r.status = .processing) fun r =>
    { r with status := .pending, nextAttemptAt := now, lockedUntil := none }

def complete (terminalId : Id) (revision : Nat) (now : Time) : Sql Unit :=
  Tx.write fun db => { db with
    dispatchRequests :=
      if (db.dispatchRequests.find? terminalId).any (·.revision = revision) then
        db.dispatchRequests.deleteWhere fun r =>
          r.terminalId = terminalId && r.revision = revision
      else release terminalId now db.dispatchRequests }

def retry (terminalId : Id) (revision : Nat) (now : Time) : Sql Unit :=
  Tx.write fun db => { db with
    dispatchRequests :=
      if (db.dispatchRequests.find? terminalId).any (·.revision = revision) then
        db.dispatchRequests.modify terminalId fun r =>
          { r with
            status := .retry
            nextAttemptAt := now + seconds (min 30 (2 ^ min (r.attemptCount + 1) 5))
            attemptCount := r.attemptCount + 1, lockedUntil := none }
      else release terminalId now db.dispatchRequests }

end DispatchRepository

namespace AdjudicationRepository

def find (orderId : Id) (key : String) : Sql (Option Adjudication) :=
  Tx.read (·.adjudications.find? (orderId, key))

def insert (a : Adjudication) : Sql Unit := do
  let db ← Tx.read id
  Tx.ensure (db.adjudications.find? (a.orderId, a.idempotencyKey)).isNone
    (.uniqueViolation "order_adjudication_order_id_idempotency_key_key")
  Tx.write fun db => { db with adjudications := db.adjudications.insert a }

end AdjudicationRepository

namespace WorkerRepository

def markOffline (cutoff : Time) : Sql Unit :=
  Tx.write fun db => { db with
    terminals := db.terminals.modifyWhere
      (fun t => t.connectionStatus ≠ "offline" && t.lastHeartbeatAt.all (· < cutoff))
      fun t => { t with connectionStatus := "offline" } }

/-- Read-only expiry candidates; each is judged again under its own locks. -/
def expiredCommands (now : Time) : Sql (List Command) :=
  Tx.read fun db =>
    (db.commands.select (fun c => c.status = .created && c.expiresAt.any (· ≤ now))
      fun a b => a.id ≤ b.id).take 200

def isClaimableEvent (now : Time) (e : BusinessEvent) : Bool :=
  e.status ∈ [.pending, .retry] && e.nextAttemptAt ≤ now

/-- The picked rows that a claim may take become PROCESSING and are returned as updated. -/
def claimBusinessEvents (now : Time) : List Id → Sql (List BusinessEvent)
  | [] => pure []
  | pick :: rest => do
      let db ← Tx.read id
      match (db.businessOutbox.find? pick).filter (isClaimableEvent now) with
      | none => claimBusinessEvents now rest
      | some e => do
          Tx.write fun db => { db with
            businessOutbox := db.businessOutbox.modify e.id fun e =>
              { e with status := .processing } }
          let events ← claimBusinessEvents now rest
          pure ({ e with status := .processing } :: events)

def markBusinessProcessed (eventId : Id) (now : Time) : Sql Unit :=
  Tx.write fun db => { db with
    businessOutbox := db.businessOutbox.modify eventId fun e =>
      { e with status := .processed, processedAt := some now } }

def markBusinessRetry (eventId : Id) (now : Time) : Sql Unit :=
  Tx.write fun db => { db with
    businessOutbox := db.businessOutbox.modify eventId fun e =>
      { e with
        status := .retry
        nextAttemptAt := now + seconds (min 300 (2 ^ min (e.attemptCount + 1) 8))
        attemptCount := e.attemptCount + 1 } }

/-- Commands and jobs whose next sign from the device is overdue, as far as this scan can tell. -/
def isOverdue (env : Env) (now : Time) (c : Command) (j : Job) : Bool :=
  (c.status ∈ [.delivering, .published] &&
      (c.publishedAt.or c.deliveredAt).any (· < now - seconds env.commandAckTimeoutSeconds)) ||
    (c.status = .acked && c.ackedAt.any (· < now - seconds env.commandStartTimeoutSeconds)) ||
    (c.status = .executing && j.status = .executing &&
      ((j.updatedAt : Rat) + 1000000 *
        (((j.remainingSeconds.or j.plannedDurationSeconds).getD 300) +
          env.productionTimeoutGraceSeconds) < now)) ||
    (j.status ∈ [.paused, .retryWait] &&
      j.updatedAt < now - seconds env.productionWaitTimeoutSeconds)

def watchdogRows (env : Env) (now : Time) : Sql (List (Id × Id)) :=
  Tx.read fun db =>
    ((db.jobs.select
      (fun j => (j.commandId.bind db.commands.find?).any fun c => isOverdue env now c j)
      fun a b => a.orderId ≤ b.orderId).take 200).map fun j => (j.orderId, j.id)

/-- History past its retention goes; what is still to be processed never does. -/
def cleanupHistory (env : Env) (events : List (Id × String)) (business outbox : List Id)
    (now : Time) : Sql Unit :=
  let days (n : Int) := now - seconds (86400 * n)
  Tx.write fun db => { db with
    terminalEvents := db.terminalEvents.deleteWhere fun e =>
      (e.terminalId, e.eventId) ∈ events && e.receivedAt < days env.deviceEventRetentionDays
    businessOutbox := db.businessOutbox.deleteWhere fun e =>
      e.id ∈ business && e.status = .processed &&
        e.processedAt.any (· < days env.processedOutboxRetentionDays)
    commandOutbox := db.commandOutbox.deleteWhere fun o =>
      o.id ∈ outbox && o.status = .published &&
        o.publishedAt.any (· < days env.processedOutboxRetentionDays) }

end WorkerRepository
end CoffeeCloud
