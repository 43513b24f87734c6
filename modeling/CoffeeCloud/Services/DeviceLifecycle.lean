import CoffeeCloud.Services.DeviceIdentity

/-!
Who a device belongs to and whether it may work: software pairing, the life cycle
a merchant or an administrator gives it, and transfers between merchants. What
blocks a device, and whether a proof is valid, is found out elsewhere, so the
verdicts are arguments; a pairing code is given by the session it is of.
-/
namespace CoffeeCloud
open Library

/-- The columns of a terminal that say whose it is. -/
structure Ownership where
  terminalId : Id
  tenantId : Id
  frozen : Bool := false
  ownershipVersion : Nat := 1
  merchantVersion : Nat := 1
deriving DecidableEq

inductive TransferStatus where
  | pendingRecipient | pendingPlatform | cancelled
deriving DecidableEq, Repr

structure DeviceTransfer where
  id : Id
  terminalId : Id
  sourceTenantId : Id
  targetTenantId : Option Id
  status : TransferStatus
  ownershipVersion : Nat
  previousLifecycle : String
  version : Nat := 1
deriving DecidableEq

instance : Keyed Ownership Id := ⟨Ownership.terminalId⟩
instance : Keyed DeviceTransfer Id := ⟨DeviceTransfer.id⟩

structure LifecycleDb where
  identity : IdentityDb := {}
  ownerships : Table Ownership := .empty
  transfers : Table DeviceTransfer := .empty

abbrev LifecycleSql (α : Type) := Tx LifecycleDb Failure α

/-- A transaction over the rows of identity alone. -/
def onIdentity {α : Type} (m : IdentitySql α) : LifecycleSql α := fun db =>
  match m db.identity with
  | .ok (a, identity) => .ok (a, { db with identity })
  | .error e => .error e

theorem ran_onIdentity {α : Type} {m : IdentitySql α} {db : LifecycleDb} {a : α}
    {identity : IdentityDb} (ran : Tx.Ran m db.identity a identity) :
    Tx.Ran (onIdentity m) db a { db with identity } := by
  simp only [Tx.Ran, onIdentity] at ran ⊢
  rw [ran]

def setLifecycle (terminalId : Id) (status : String) : LifecycleSql Unit :=
  Tx.write fun db => { db with
    identity := { db.identity with
      devices := db.identity.devices.modify terminalId fun d => { d with lifecycleStatus := status } } }

/-- The tenant of devices that are nobody's. -/
def legacyTenant : Id := 0

namespace SimulatorPairingService

structure FreshTerminal where
  id : Id
  deviceId : String

/-- The terminal of the serial number; one that is new begins as platform inventory. -/
def bootstrapTerminal (serialNumber : String) (fresh : FreshTerminal) : LifecycleSql Device := do
  match ← onIdentity (TerminalRepository.find serialNumber) with
  | some terminal => pure terminal
  | none => do
      let db ← Tx.read id
      Tx.ensure (db.identity.devices.find? fresh.id).isNone (.uniqueViolation "terminal_pkey")
      Tx.ensure (db.identity.devices.first? fun d => d.deviceId = fresh.deviceId).isNone
        (.uniqueViolation "terminal_device_id_key")
      let device : Device := { id := fresh.id, deviceId := fresh.deviceId, serialNumber }
      Tx.write fun db => { db with
        identity := { db.identity with devices := db.identity.devices.insert device }
        ownerships := db.ownerships.insert { terminalId := fresh.id, tenantId := legacyTenant } }
      pure device

def createSession (serialNumber : String) (proof : Device → Except Failure Unit) (sessionId : Id)
    (fresh : FreshTerminal) (expiresAt : Time) : LifecycleSql Unit := do
  let terminal ← bootstrapTerminal serialNumber fresh
  match proof terminal with
  | .error e => Tx.raise e
  | .ok _ => do
      Tx.write fun db => { db with
        identity := { db.identity with
          sessions := db.identity.sessions.modifyWhere
            (fun s => s.terminalId = terminal.id ∧ s.status = .pending)
            fun s => { s with status := .cancelled } } }
      setLifecycle terminal.id "PENDING_ACTIVATION"
      let db ← Tx.read id
      Tx.ensure (db.identity.sessions.find? sessionId).isNone
        (.uniqueViolation "device_pairing_session_pkey")
      Tx.write fun db => { db with
        identity := { db.identity with
          sessions := db.identity.sessions.insert
            { id := sessionId, terminalId := terminal.id, serialNumber := terminal.serialNumber
              status := .pending, expiresAt } } }

def sessionStatus (sessionId : Id) (serialNumber : String)
    (verified : PairingSession → Except Failure Unit) (now : Time) :
    LifecycleSql PairingStatus := do
  let row ← Tx.require (← onIdentity (SimulatorPairingRepository.session sessionId serialNumber))
    (.serviceError 404 "pairing session not found")
  match verified row with
  | .error e => Tx.raise e
  | .ok _ =>
      if row.status = .pending ∧ row.expiresAt ≤ now then do
        onIdentity (SimulatorPairingRepository.expire sessionId)
        pure .expired
      else pure row.status

end SimulatorPairingService

namespace MerchantAssets

/-- A merchant's user, as far as devices go. -/
structure Principal where
  tenantId : Id
  permissions : List String

/-- A device of the merchant. -/
def device (p : Principal) (terminalId : Id) : LifecycleSql (Device × Ownership) := do
  let db ← Tx.read id
  Tx.require
    (do
      let d ← db.identity.devices.find? terminalId
      let o ← (db.ownerships.find? terminalId).filter (·.tenantId = p.tenantId)
      pure (d, o))
    (.serviceError 404 "NOT_FOUND")

/-- What the merchant may make of the life cycle of the device. -/
def lifecycleActions (p : Principal) (d : Device) (o : Ownership) : List String :=
  if o.frozen ∨ "devices.manage" ∉ p.permissions then []
  else if d.lifecycleStatus = "ACTIVE" then ["SUSPEND"]
  else if d.lifecycleStatus = "SUSPENDED" then ["RESUME", "ARCHIVE"]
  else []

def lifecycleOf : String → Option String
  | "SUSPEND" => some "SUSPENDED"
  | "RESUME" => some "ACTIVE"
  | "ARCHIVE" => some "RETIRED"
  | _ => none

def bumpVersion (terminalId : Id) (f : Ownership → Ownership)
    (hf : ∀ o, (f o).terminalId = o.terminalId) : LifecycleSql Unit :=
  Tx.write fun db => { db with
    ownerships := db.ownerships.modify terminalId
      (fun o => { f o with merchantVersion := o.merchantVersion + 1 }) hf }

def update (p : Principal) (terminalId : Id) (version : Nat) (action : String) (blocking : Bool) :
    LifecycleSql Unit := do
  let (d, o) ← device p terminalId
  Tx.ensure (o.merchantVersion = version) (.serviceError 409 "VERSION_CONFLICT")
  Tx.ensure (o.frozen = false) (.serviceError 409 "DEVICE_FROZEN")
  Tx.ensure (action ∈ lifecycleActions p d o) (.serviceError 409 "BAD_STATE")
  Tx.ensure (action = "ARCHIVE" → blocking = false) (.serviceError 409 "DEVICE_BUSY")
  let status ← Tx.require (lifecycleOf action) (.serviceError 409 "BAD_STATE")
  setLifecycle d.id status
  bumpVersion d.id id fun _ => rfl

/-- A pairing session is claimed by a merchant, and the device becomes the merchant's. -/
def claim (p : Principal) (sessionId : Id) (blocking : Bool) (now : Time) : LifecycleSql Unit := do
  let db ← Tx.read id
  let session ← Tx.require
    ((db.identity.sessions.find? sessionId).filter fun s => s.status = .pending && now < s.expiresAt)
    (.serviceError 409 "PAIRING_INVALID")
  let o ← Tx.require (db.ownerships.find? session.terminalId) (.exception "TypeError")
  Tx.ensure (o.tenantId = legacyTenant ∧ o.frozen = false ∧ blocking = false)
    (.serviceError 409 "PAIRING_INVALID")
  bumpVersion session.terminalId
    (fun o => { o with tenantId := p.tenantId, ownershipVersion := o.ownershipVersion + 1 })
    fun _ => rfl
  Tx.write fun db => { db with
    identity := { db.identity with
      sessions := db.identity.sessions.modify sessionId fun s => { s with status := .claimed } } }

/-- A transfer, or an unbinding where there is no target, freezes and suspends the device. -/
def transfer (p : Principal) (terminalId : Id) (ownershipVersion : Nat) (target : Option Id)
    (transferId : Id) (blocking : Bool) : LifecycleSql Unit := do
  let (d, o) ← device p terminalId
  Tx.ensure (o.ownershipVersion = ownershipVersion) (.serviceError 409 "VERSION_CONFLICT")
  Tx.ensure (o.frozen = false) (.serviceError 409 "DEVICE_FROZEN")
  Tx.ensure (blocking = false) (.serviceError 409 "DEVICE_BUSY")
  Tx.ensure (target.all fun t => t ≠ p.tenantId ∧ t ≠ legacyTenant) (.serviceError 404 "NOT_FOUND")
  let db ← Tx.read id
  Tx.ensure (db.transfers.find? transferId).isNone
    (.uniqueViolation "merchant_device_transfer_pkey")
  Tx.ensure (db.transfers.first? fun t =>
      t.terminalId = terminalId ∧ t.status ∈ [.pendingRecipient, .pendingPlatform]).isNone
    (.uniqueViolation "merchant_transfer_active")
  Tx.write fun db => { db with
    transfers := db.transfers.insert
      { id := transferId, terminalId, sourceTenantId := p.tenantId, targetTenantId := target
        status := if target.isSome then .pendingRecipient else .pendingPlatform
        ownershipVersion := o.ownershipVersion, previousLifecycle := d.lifecycleStatus } }
  setLifecycle terminalId "SUSPENDED"
  bumpVersion terminalId (fun o => { o with frozen := true }) fun _ => rfl

def setTransfer (transferId : Id) (status : TransferStatus) : LifecycleSql Unit :=
  Tx.write fun db => { db with
    transfers := db.transfers.modify transferId fun t =>
      { t with status, version := t.version + 1 } }

/-- A transfer that is called off gives the device back the life cycle it had. -/
def transferAction (p : Principal) (transferId : Id) (version : Nat) (accept : Bool) :
    LifecycleSql Unit := do
  let db ← Tx.read id
  let row ← Tx.require
    ((db.transfers.find? transferId).filter fun t =>
      t.sourceTenantId = p.tenantId || t.targetTenantId = some p.tenantId)
    (.serviceError 404 "NOT_FOUND")
  Tx.ensure (row.version = version) (.serviceError 409 "VERSION_CONFLICT")
  if accept then do
    Tx.ensure (row.targetTenantId = some p.tenantId ∧ row.status = .pendingRecipient)
      (.serviceError 409 "BAD_STATE")
    setTransfer transferId .pendingPlatform
  else do
    Tx.ensure (row.sourceTenantId = p.tenantId ∧
        row.status ∈ [.pendingRecipient, .pendingPlatform])
      (.serviceError 409 "BAD_STATE")
    setTransfer transferId .cancelled
    Tx.onlyIf ((db.ownerships.find? row.terminalId).any fun o =>
        o.ownershipVersion = row.ownershipVersion) (do
      setLifecycle row.terminalId row.previousLifecycle
      bumpVersion row.terminalId (fun o => { o with frozen := false }) fun _ => rfl)

end MerchantAssets

namespace AdminOperationsService

def updateLifecycle (identifier status : String) : LifecycleSql Unit := do
  Tx.ensure (status ∈ ["ACTIVE", "SUSPENDED", "MAINTENANCE"]) (.serviceError 422 "status")
  let terminal ← Tx.require (← onIdentity (TerminalRepository.find identifier))
    (.serviceError 404 "device not found")
  Tx.ensure (terminal.lifecycleStatus ≠ "PENDING")
    (.serviceError 409 "pending device must complete activation first")
  setLifecycle terminal.id status

end AdminOperationsService
end CoffeeCloud
