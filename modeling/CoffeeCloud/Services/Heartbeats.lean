import CoffeeCloud.Library.Tx
import CoffeeCloud.Schema

/-!
Heartbeats of one terminal. Whether a heartbeat is out of order is judged on
the identity the caller came with: the row as an earlier transaction read it,
or no more than the terminal's id and device, as the telemetry cache keeps it.
-/
namespace CoffeeCloud
open Library

/-- The columns of `terminal` a heartbeat reads or writes. -/
structure HeartbeatTerminal where
  id : Id
  deviceId : String
  connectionStatus : String := "offline"
  lastSeenAt : Option Time := none
  lastHeartbeatAt : Option Time := none
  lastConnectedAt : Option Time := none
  activeBootId : Option String := none
  lastSequence : Option Nat := none
  heartbeatCount : Nat := 0
  reportedStatus : Json := .null

/-- A row of `heartbeat_inbox`. -/
structure HeartbeatRow where
  messageId : String
  payloadDigest : String
  bootId : Option String
  sequence : Option Nat
  disposition : String

/-- The unique index on boot and sequence, where both are given. -/
def HeartbeatRow.Conflicts (r : HeartbeatRow) (bootId : Option String) (sequence : Option Nat) :
    Prop :=
  r.bootId.isSome ∧ r.sequence.isSome ∧ r.bootId = bootId ∧ r.sequence = sequence

instance (r : HeartbeatRow) (bootId : Option String) (sequence : Option Nat) :
    Decidable (r.Conflicts bootId sequence) :=
  inferInstanceAs (Decidable (_ ∧ _))

structure HeartbeatRows where
  terminal : HeartbeatTerminal
  inbox : List HeartbeatRow := []
  /-- The reasons dispatches were requested for. -/
  dispatchRequests : List String := []

/-- What a caller knows of the terminal. -/
structure HeartbeatIdentity where
  id : Id
  deviceId : String
  connectionStatus : Option String := none
  activeBootId : Option String := none
  lastSequence : Option Nat := none
  lastConnectedAt : Option Time := none

def HeartbeatTerminal.identity (t : HeartbeatTerminal) : HeartbeatIdentity where
  id := t.id
  deviceId := t.deviceId
  connectionStatus := some t.connectionStatus
  activeBootId := t.activeBootId
  lastSequence := t.lastSequence
  lastConnectedAt := t.lastConnectedAt

/-- What `_terminal_for_telemetry` makes of a cached id. -/
def HeartbeatTerminal.cached (t : HeartbeatTerminal) : HeartbeatIdentity where
  id := t.id
  deviceId := t.deviceId

/-- A validated heartbeat, and the whole of it as `model_dump` gives it. -/
structure Heartbeat where
  deviceId : String
  messageId : Option String := none
  bootId : Option String := none
  sequence : Option Nat := none
  deviceStatus : String := "UNKNOWN"
  body : Json := .obj []

/-- What the insert into the history binds. -/
def Heartbeat.historyParameters (h : Heartbeat) (messageId : String) : List Parameter :=
  [.text (.str messageId), .document h.body] ++
    h.bootId.toList.map (fun b => .text (.str b)) ++ h.sequence.toList.map (.bigint ·)

/-- What the terminal reports by a heartbeat. -/
def Heartbeat.reportedStatus (h : Heartbeat) : Json :=
  let member key := (key, (h.body.get? key).getD .null)
  .obj [("deviceStatus", .str h.deviceStatus), member "currentTaskId",
    member "currentTaskState", member "currentTaskRevision", member "recovery",
    member "deliveries", member "sentAt"]

/-- What the update of the terminal binds. -/
def Heartbeat.rowParameters (h : Heartbeat) : List Parameter :=
  ["instanceId", "storeId", "appVersion", "capabilityVersion", "inventoryVersion"].map
      (fun key => .text ((h.body.get? key).getD .null)) ++
    h.bootId.toList.map (fun b => .text (.str b)) ++ h.sequence.toList.map (.bigint ·) ++
    [.document h.reportedStatus]

structure HeartbeatAnswer where
  duplicate : Bool
  disposition : String
  receivedAt : Time
deriving DecidableEq

abbrev HeartbeatSql (α : Type) := Tx HeartbeatRows Failure α

namespace HeartbeatRepository

/-- The driver and the database take all that a statement binds. -/
def Taken (driver : Driver) (parameters : List Parameter) : Prop :=
  parameters.all (·.taken driver) = true

instance (driver : Driver) (parameters : List Parameter) : Decidable (Taken driver parameters) :=
  inferInstanceAs (Decidable (_ = _))

def bindParameters (driver : Driver) (parameters : List Parameter) : HeartbeatSql Unit :=
  Tx.ensure (Taken driver parameters) (.exception "DataError")

def insertHeartbeat (driver : Driver) (payload : Heartbeat) (row : HeartbeatRow) :
    HeartbeatSql Unit := do
  bindParameters driver (payload.historyParameters row.messageId)
  let clash ← Tx.read fun rows => rows.inbox.any fun r => r.Conflicts row.bootId row.sequence
  Tx.ensure (clash = false) (.serviceError 409 "bootId/sequence conflict")
  Tx.write fun rows => { rows with inbox := rows.inbox ++ [row] }

def update (terminalId : Id) (f : HeartbeatTerminal → HeartbeatTerminal) : HeartbeatSql Unit :=
  Tx.write fun rows =>
    { rows with terminal := if rows.terminal.id = terminalId then f rows.terminal else rows.terminal }

def touchOnline (terminalId : Id) (receivedAt : Time) (connectedAt : Option Time) :
    HeartbeatSql Unit :=
  update terminalId fun t => { t with
    connectionStatus := "online", lastSeenAt := some receivedAt
    lastHeartbeatAt := some receivedAt, heartbeatCount := t.heartbeatCount + 1
    lastConnectedAt := connectedAt.or t.lastConnectedAt }

def updateFromHeartbeat (driver : Driver) (terminalId : Id) (receivedAt connectedAt : Time)
    (payload : Heartbeat) : HeartbeatSql Unit := do
  bindParameters driver payload.rowParameters
  update terminalId fun t => { t with
    connectionStatus := "online", lastSeenAt := some receivedAt
    lastHeartbeatAt := some receivedAt, lastConnectedAt := some connectedAt
    activeBootId := payload.bootId, lastSequence := payload.sequence
    heartbeatCount := t.heartbeatCount + 1, reportedStatus := payload.reportedStatus }

def requestDispatch (reason : String) : HeartbeatSql Unit :=
  Tx.write fun rows => { rows with dispatchRequests := rows.dispatchRequests ++ [reason] }

end HeartbeatRepository

namespace HeartbeatService
open HeartbeatRepository

/-- Whether the identity shows the boot of the heartbeat at its sequence number or beyond it. -/
def OutOfOrder (identity : HeartbeatIdentity) (payload : Heartbeat) : Prop :=
  payload.bootId.any (· ≠ "") = true ∧ identity.activeBootId = payload.bootId ∧
    payload.sequence.any (fun sequence => identity.lastSequence.any (sequence ≤ ·)) = true

instance (identity : HeartbeatIdentity) (payload : Heartbeat) :
    Decidable (OutOfOrder identity payload) :=
  inferInstanceAs (Decidable (_ ∧ _))

/-- A heartbeat the history does not have yet. -/
def recordHeartbeat (driver : Driver) (messageId digest : String) (payload : Heartbeat)
    (identity : HeartbeatIdentity) (persistHistory : Bool) (receivedAt : Time) :
    HeartbeatSql HeartbeatAnswer := do
  let outOfOrder : Bool := OutOfOrder identity payload
  let disposition := if outOfOrder then "OUT_OF_ORDER" else "ACCEPTED"
  let wasOffline : Bool := identity.connectionStatus ≠ some "online"
  Tx.onlyIf (persistHistory = true)
    (insertHeartbeat driver payload
      { messageId, payloadDigest := digest, bootId := payload.bootId
        sequence := payload.sequence, disposition })
  let connectedAt :=
    if wasOffline ∨ identity.activeBootId ≠ payload.bootId then receivedAt
    else identity.lastConnectedAt.getD receivedAt
  if outOfOrder then
    touchOnline identity.id receivedAt (some connectedAt)
  else
    updateFromHeartbeat driver identity.id receivedAt connectedAt payload
  Tx.onlyIf (wasOffline = true) (requestDispatch "heartbeat-online")
  pure { duplicate := false, disposition, receivedAt }

/-- The message's own id, or one made of its content. -/
def messageId (env : Env) (payload : Heartbeat) : String :=
  payload.messageId.getD ("legacy:" ++ env.canonicalDigest payload.body)

def heartbeat (env : Env) (deviceId : String) (payload : Heartbeat)
    (identity : HeartbeatIdentity) (persistHistory : Bool) (receivedAt : Time) :
    HeartbeatSql HeartbeatAnswer := do
  Tx.ensure (payload.deviceId = deviceId) (.serviceError 400 "payload deviceId mismatch")
  let digest := env.canonicalDigest payload.body
  let messageId := messageId env payload
  Tx.onlyIf (persistHistory = true) (bindParameters env.driver [.text (.str messageId)])
  let existing ← Tx.read fun rows =>
    if persistHistory then rows.inbox.find? fun r => r.messageId = messageId else none
  match existing with
  | some existing => do
      Tx.ensure (existing.payloadDigest = digest) (.serviceError 409 "messageId payload conflict")
      touchOnline identity.id receivedAt none
      Tx.onlyIf (identity.connectionStatus ≠ some "online") (requestDispatch "heartbeat-online")
      pure { duplicate := true, disposition := existing.disposition, receivedAt }
  | none => recordHeartbeat env.driver messageId digest payload identity persistHistory receivedAt

end HeartbeatService
end CoffeeCloud
