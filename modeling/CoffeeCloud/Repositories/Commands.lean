import CoffeeCloud.Schema

/-!
The statements of the command repository and the message lookups of the device
one. A claim skips rows other transactions hold, so any of its candidates may be
the ones it takes: they are a parameter and each is checked again, as the claim does.
-/
namespace CoffeeCloud
open Library

namespace CommandRepository

/-- The command still asks to be delivered at `now`. -/
def isDeliverable (now : Time) (c : Command) : Bool :=
  c.status ∈ deliverableCommandStates && c.expiresAt.all (now < ·)

/-- The publication row is due, or its lease has run out. -/
def isClaimable (now : Time) (o : CommandOutbox) : Bool :=
  (o.status ∈ [.pending, .retry] && o.nextAttemptAt ≤ now) ||
    (o.status = .publishing && o.lockedUntil.any (· < now))

def modifyOutbox (outboxId : Id) (f : CommandOutbox → CommandOutbox)
    (hf : ∀ o, (f o).id = o.id) : Sql Unit :=
  Tx.write fun db => { db with commandOutbox := db.commandOutbox.modify outboxId f hf }

/-- Unlocked locate used to establish the lock order command, then outbox. -/
def findOutbox (outboxId : Id) : Sql (Option CommandOutbox) :=
  Tx.read (·.commandOutbox.find? outboxId)

def outbox (outboxId : Id) : Sql (Option CommandOutbox) :=
  Tx.read (·.commandOutbox.find? outboxId)

def outboxForCommand (commandId : Id) : Sql (Option CommandOutbox) :=
  Tx.read (·.commandOutbox.first? fun o => o.commandId = commandId)

def byDbId (commandId : Id) : Sql (Option Command) :=
  Tx.read (·.commands.find? commandId)

/-- One candidate of a claim: both rows are checked again under their locks. -/
def claimCandidate (gatewayId : String) (leaseSeconds : Int) (now : Time) (candidate : Id) :
    Sql (Option CommandOutbox) := do
  match ← findOutbox candidate with
  | none => pure none
  | some o =>
      match (← byDbId o.commandId).filter (isDeliverable now) with
      | none => pure none
      | some _ =>
          if isClaimable now o then do
            modifyOutbox o.id
              (fun o => { o with
                status := .publishing, attemptCount := o.attemptCount + 1
                lockedBy := some gatewayId, lockedUntil := some (now + seconds leaseSeconds) })
              (fun _ => rfl)
            outbox o.id
          else pure none

def claim (gatewayId : String) (leaseSeconds : Int) (now : Time) :
    List Id → Sql (List CommandOutbox)
  | [] => pure []
  | candidate :: rest => do
      let row ← claimCandidate gatewayId leaseSeconds now candidate
      let rows ← claim gatewayId leaseSeconds now rest
      pure (row.toList ++ rows)

/-- Make a publication row permanently unpublishable. -/
def terminalizeOutbox (outboxId : Id) (status : OutboxStatus) (now : Time) : Sql Unit :=
  modifyOutbox outboxId
    (fun o => { o with
      status, lockedBy := none, lockedUntil := none, nextAttemptAt := now + seconds 3600 })
    (fun _ => rfl)

def markPublished (outboxId : Id) (now : Time) : Sql Unit :=
  modifyOutbox outboxId
    (fun o => { o with
      status := .published, publishedAt := some now, lockedBy := none, lockedUntil := none })
    (fun _ => rfl)

def markRetry (outboxId : Id) (now : Time) : Sql Unit :=
  modifyOutbox outboxId
    (fun o => { o with
      status := .retry, nextAttemptAt := now + seconds (min 60 (2 ^ min o.attemptCount 6))
      lockedBy := none, lockedUntil := none })
    (fun _ => rfl)

/-- The newest production command of the task. -/
def byTask (terminalId : Id) (taskId : String) : Sql (Option Command) :=
  Tx.read fun db =>
    (db.commands.select
      (fun c => c.terminalId = terminalId && c.taskId = some taskId && c.commandType = "MAKE_DRINK")
      fun a b => b.id ≤ a.id).head?

def modifyCommand (commandId : Id) (f : Command → Command) (hf : ∀ c, (f c).id = c.id) :
    Sql Unit :=
  Tx.write fun db => { db with commands := db.commands.modify commandId f hf }

/-- The row after a validated transition; the time stamps come from the row as it was read. -/
def transitioned (command : Command) (target : CommandStatus) (now : Time) (c : Command) :
    Command :=
  { c with
    status := target, revision := command.revision + 1
    completedAt := if target ∈ terminalStates then some now else command.completedAt
    deliveredAt :=
      if target ∈ [.delivering, .published] then command.deliveredAt.or (some now)
      else command.deliveredAt
    ackedAt := if target = .acked then command.ackedAt.or (some now) else command.ackedAt
    executingAt :=
      if target = .executing then command.executingAt.or (some now) else command.executingAt }

theorem transitioned_id (command : Command) (target : CommandStatus) (now : Time) (c : Command) :
    (transitioned command target now c).id = c.id := rfl

def transition (command : Command) (target : CommandStatus) (actor : String) (now : Time) :
    Sql Command := do
  modifyCommand command.id (transitioned command target now) (transitioned_id _ _ _)
  let updated ← Tx.require (← byDbId command.id) (.exception "TypeError")
  Tx.write fun db => { db with
    commandTransitions := db.commandTransitions ++
      [⟨command.id, command.revision + 1, some command.status, target, actor⟩] }
  pure updated

def setPublishedAt (commandId : Id) (now : Time) : Sql Unit :=
  modifyCommand commandId (fun c => { c with publishedAt := c.publishedAt.or (some now) })
    (fun _ => rfl)

def byIdempotency (terminalId : Id) (key : String) : Sql (Option Command) :=
  Tx.read (·.commands.first? fun c => c.terminalId = terminalId ∧ c.idempotencyKey = some key)

/-- Unique on the terminal's message ids, and on its idempotency keys where there is one. -/
def insert (command : Command) : Sql Unit := do
  let db ← Tx.read id
  Tx.ensure (db.commands.find? command.id).isNone (.uniqueViolation "terminal_command_pkey")
  Tx.ensure (db.commands.first? fun c => c.terminalId = command.terminalId ∧
      c.messageId = command.messageId).isNone
    (.uniqueViolation "terminal_command_terminal_id_message_id_key")
  Tx.ensure (db.commands.first? fun c => c.terminalId = command.terminalId ∧
      command.idempotencyKey.isSome ∧ c.idempotencyKey = command.idempotencyKey).isNone
    (.uniqueViolation "uq_terminal_command_idempotency")
  Tx.write fun db => { db with commands := db.commands.insert command }

def insertInitialTransition (commandId : Id) (actor : String) : Sql Unit :=
  Tx.write fun db => { db with
    commandTransitions := db.commandTransitions ++ [⟨commandId, 0, none, .created, actor⟩] }

/-- A command has one publication row; a second insert does nothing. -/
def insertOutbox (outboxId commandId terminalId : Id) (now : Time) : Sql Unit := do
  let db ← Tx.read id
  Tx.ensure (db.commandOutbox.find? outboxId).isNone (.uniqueViolation "command_outbox_pkey")
  Tx.onlyIf (db.commandOutbox.first? fun o => o.commandId = commandId).isNone
    (Tx.write fun db => { db with
      commandOutbox := db.commandOutbox.insert
        { id := outboxId, commandId, terminalId, nextAttemptAt := now } })

end CommandRepository

namespace DeviceMessageRepository

def command (terminalId : Id) (messageId : String) : Sql (Option Command) :=
  Tx.read (·.commands.first? fun c => c.terminalId = terminalId ∧ c.messageId = messageId)

def commandsAfter (terminalId cursor : Id) (limit : Nat) : Sql (List Command) :=
  Tx.read fun db =>
    (db.commands.select (fun c => c.terminalId = terminalId && cursor < c.id)
      fun a b => a.id ≤ b.id).take limit

def event (terminalId : Id) (eventId : String) : Sql (Option TerminalEvent) :=
  Tx.read (·.terminalEvents.find? (terminalId, eventId))

/-- `on conflict do nothing`; whether the row is new. -/
def insertEvent (driver : Driver) (e : TerminalEvent) : Sql Bool := do
  Tx.ensure (e.parameters.all (·.taken driver)) (.exception "DataError")
  match ← event e.terminalId e.eventId with
  | some _ => pure false
  | none => do
      Tx.write fun db => { db with terminalEvents := db.terminalEvents.insert e }
      pure true

def requireInventoryVersion (terminalId : Id) (version : Int) : Sql Unit :=
  Tx.write fun db => { db with
    watermarks :=
      match db.watermarks.find? terminalId with
      | none => db.watermarks.insert ⟨terminalId, version⟩
      | some _ => db.watermarks.modify terminalId fun w =>
          { w with inventoryVersion := max w.inventoryVersion version } }

end DeviceMessageRepository
end CoffeeCloud
