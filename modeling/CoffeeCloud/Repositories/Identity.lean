import CoffeeCloud.Schema

/-!
The rows of device identity (terminals, activation codes, device credentials,
rotation requests, pairing sessions) and the statements over them. Secrets are
stored as digests only, so a row holds the digest. The MQTT credentials, which
share nothing with these rows, have a store of their own.
-/
namespace CoffeeCloud
open Library

inductive ActivationStatus where
  | pending | cancelled | locked | consumed | expired
deriving DecidableEq, Repr

/-- States of a device credential. -/
inductive CredentialStatus where
  | active | grace | expired | revoked
deriving DecidableEq, Repr

/-- States of an MQTT credential. -/
inductive MqttStatus where
  | pendingProvision | active | revoked
deriving DecidableEq, Repr

inductive PairingStatus where
  | pending | claimed | provisioned | expired | cancelled
deriving DecidableEq, Repr

structure Device where
  id : Id
  deviceId : String
  serialNumber : String
  lifecycleStatus : String := "PENDING_ACTIVATION"
deriving DecidableEq

structure Activation where
  id : Id
  activationId : Id
  terminalId : Id
  codeHash : String
  status : ActivationStatus := .pending
  attemptCount : Int := 0
  maxAttempts : Int
  expiresAt : Time
  consumedCredentialId : Option Id := none
deriving DecidableEq

structure Credential where
  id : Id
  terminalId : Id
  tokenHash : String
  credentialId : Id
  version : Int
  notBefore : Option Time
  status : CredentialStatus := .active
  expiresAt : Option Time := none
  graceExpiresAt : Option Time := none
  rotatedFromId : Option Id := none
deriving DecidableEq

/-- What a caller is told about a credential. -/
structure CredentialPayload where
  credentialId : Id
  version : Int
  status : CredentialStatus
  notBefore : Option Time
  expiresAt : Option Time
  graceExpiresAt : Option Time
  duplicate : Bool
deriving DecidableEq

structure RotationResponse where
  deviceId : String
  credential : CredentialPayload
  previousCredentialGraceExpiresAt : Time
deriving DecidableEq

structure RotationRequest where
  terminalId : Id
  idempotencyKey : String
  requestDigest : String
  oldCredentialId : Id
  newCredentialId : Id
  response : RotationResponse
deriving DecidableEq

structure PairingSession where
  id : Id
  terminalId : Id
  serialNumber : String
  status : PairingStatus
  expiresAt : Time
  provisionedCredentialId : Option Id := none
deriving DecidableEq

structure MqttCredential where
  id : Id
  terminalId : Id
  username : String
  secretHash : String
  version : Int
  status : MqttStatus := .pendingProvision
deriving DecidableEq

instance : Keyed Device Id := ⟨Device.id⟩
instance : Keyed Activation Id := ⟨Activation.id⟩
instance : Keyed Credential Id := ⟨Credential.id⟩
instance : Keyed RotationRequest (Id × String) := ⟨fun r => (r.terminalId, r.idempotencyKey)⟩
instance : Keyed PairingSession Id := ⟨PairingSession.id⟩
instance : Keyed MqttCredential Id := ⟨MqttCredential.id⟩

structure IdentityDb where
  devices : Table Device := .empty
  activations : Table Activation := .empty
  credentials : Table Credential := .empty
  rotations : Table RotationRequest := .empty
  sessions : Table PairingSession := .empty

abbrev IdentitySql (α : Type) := Tx IdentityDb Failure α

abbrev MqttSql (α : Type) := Tx (Table MqttCredential) Failure α

namespace TerminalRepository

/-- By device id, else by serial number. -/
def named (db : IdentityDb) (identifier : String) : Option Device :=
  (db.devices.first? fun d => d.deviceId = identifier).or
    (db.devices.first? fun d => d.serialNumber = identifier)

def find (identifier : String) : IdentitySql (Option Device) :=
  Tx.read fun db => named db identifier

end TerminalRepository

namespace IdentityRepository

def cancelPendingActivations (terminalId : Id) : IdentitySql Unit :=
  Tx.write fun db => { db with
    activations := db.activations.modifyWhere
      (fun a => a.terminalId = terminalId ∧ a.status = .pending)
      fun a => { a with status := .cancelled } }

/-- Unique on the public id and on the code. -/
def createActivation (activation : Activation) : IdentitySql Unit := do
  let db ← Tx.read id
  Tx.ensure (db.activations.find? activation.id).isNone (.uniqueViolation "terminal_activation_pkey")
  Tx.ensure (db.activations.first? fun a => a.activationId = activation.activationId).isNone
    (.uniqueViolation "terminal_activation_activation_id_key")
  Tx.ensure (db.activations.first? fun a => a.codeHash = activation.codeHash).isNone
    (.uniqueViolation "terminal_activation_code_hash_key")
  Tx.write fun db => { db with activations := db.activations.insert activation }

def activationByCode (terminalId : Id) (codeHash : String) : IdentitySql (Option Activation) :=
  Tx.read fun db =>
    (db.activations.select (fun a => a.terminalId = terminalId && a.codeHash = codeHash)
      fun a b => b.id ≤ a.id).head?

def pendingActivation (terminalId : Id) : IdentitySql (Option Activation) :=
  Tx.read fun db =>
    (db.activations.select (fun a => a.terminalId = terminalId && a.status = .pending)
      fun a b => b.id ≤ a.id).head?

def modifyActivation (activationId : Id) (f : Activation → Activation)
    (hf : ∀ a, (f a).id = a.id) : IdentitySql Unit :=
  Tx.write fun db => { db with activations := db.activations.modify activationId f hf }

def recordFailedAttempt (activationId : Id) (attempts : Int) (status : ActivationStatus) :
    IdentitySql Unit :=
  modifyActivation activationId (fun a => { a with attemptCount := attempts, status })
    (fun _ => rfl)

def expireActivation (activationId : Id) : IdentitySql Unit :=
  modifyActivation activationId (fun a => { a with status := .expired }) (fun _ => rfl)

def consumeActivation (activationId credentialDbId : Id) : IdentitySql Unit :=
  modifyActivation activationId
    (fun a => { a with status := .consumed, consumedCredentialId := some credentialDbId })
    (fun _ => rfl)

def credentialById (credentialDbId : Id) : IdentitySql (Option Credential) :=
  Tx.read (·.credentials.find? credentialDbId)

def tokenExists (tokenHash : String) : IdentitySql Bool :=
  Tx.read fun db => (db.credentials.first? fun c => c.tokenHash = tokenHash).isSome

def nextHttpVersion (terminalId : Id) : IdentitySql Int :=
  Tx.read fun db =>
    ((db.credentials.rows.filter (·.terminalId = terminalId)).map (·.version)).max?.getD 0 + 1

def graceActiveHttpCredentials (terminalId : Id) (expiresAt : Time) : IdentitySql Unit :=
  Tx.write fun db => { db with
    credentials := db.credentials.modifyWhere
      (fun c => c.terminalId = terminalId ∧ c.status = .active)
      fun c => { c with status := .grace, graceExpiresAt := some expiresAt } }

def graceHttpCredential (credentialDbId : Id) (expiresAt : Time) : IdentitySql Unit :=
  Tx.write fun db => { db with
    credentials := db.credentials.modify credentialDbId fun c =>
      { c with status := .grace, graceExpiresAt := some expiresAt } }

/-- Unique on the token, on the public id and on the terminal's versions. -/
def createHttpCredential (credential : Credential) : IdentitySql Credential := do
  let db ← Tx.read id
  Tx.ensure (db.credentials.find? credential.id).isNone (.uniqueViolation "terminal_credential_pkey")
  Tx.ensure (db.credentials.first? fun c => c.tokenHash = credential.tokenHash).isNone
    (.uniqueViolation "terminal_credential_token_hash_key")
  Tx.ensure (db.credentials.first? fun c => c.credentialId = credential.credentialId).isNone
    (.uniqueViolation "uq_terminal_credential_id")
  Tx.ensure (db.credentials.first? fun c =>
      c.terminalId = credential.terminalId ∧ c.version = credential.version).isNone
    (.uniqueViolation "uq_terminal_credential_version")
  Tx.write fun db => { db with credentials := db.credentials.insert credential }
  pure credential

def activateTerminal (terminalId : Id) : IdentitySql Unit :=
  Tx.write fun db => { db with
    devices := db.devices.modify terminalId fun d => { d with lifecycleStatus := "ACTIVE" } }

def rotationRequest (terminalId : Id) (key : String) : IdentitySql (Option RotationRequest) :=
  Tx.read (·.rotations.find? (terminalId, key))

def saveRotationRequest (r : RotationRequest) : IdentitySql Unit := do
  let db ← Tx.read id
  Tx.ensure (db.rotations.find? (r.terminalId, r.idempotencyKey)).isNone
    (.uniqueViolation "credential_rotation_request_terminal_id_idempotency_key_key")
  Tx.write fun db => { db with rotations := db.rotations.insert r }

def httpCredential (terminalId credentialId : Id) : IdentitySql (Option Credential) :=
  Tx.read (·.credentials.first? fun c => c.terminalId = terminalId ∧ c.credentialId = credentialId)

/-- The updated row, where there was one to revoke. -/
def revokeHttpCredential (terminalId credentialId : Id) : IdentitySql (Option Credential) := do
  let db ← Tx.read id
  let addressed (c : Credential) : Bool :=
    c.terminalId = terminalId && c.credentialId = credentialId && c.status ≠ .revoked
  Tx.write fun db => { db with
    credentials := db.credentials.modifyWhere addressed fun c =>
      { c with status := .revoked, graceExpiresAt := none } }
  pure ((db.credentials.first? addressed).map fun c =>
    { c with status := .revoked, graceExpiresAt := none })

/-- Whether the row lets its token in at `now`. -/
def isAccepted (now : Time) (c : Credential) : Bool :=
  (c.status = .active || (c.status = .grace && c.graceExpiresAt.any (now < ·))) &&
    c.notBefore.all (· ≤ now) && c.expiresAt.all (now < ·)

def nextMqttVersion (terminalId : Id) : MqttSql Int :=
  Tx.read fun rows =>
    ((rows.rows.filter (·.terminalId = terminalId)).map (·.version)).max?.getD 0 + 1

def createPendingMqtt (credentialId : Id) (terminal : Device) (secretHash : String) (version : Int) :
    MqttSql Unit := do
  let rows ← Tx.read id
  Tx.ensure (rows.find? credentialId).isNone (.uniqueViolation "mqtt_credential_pkey")
  Tx.ensure (rows.first? fun c => c.terminalId = terminal.id ∧ c.version = version).isNone
    (.uniqueViolation "mqtt_credential_terminal_id_version_key")
  Tx.write fun rows => rows.insert
    { id := credentialId, terminalId := terminal.id, username := terminal.deviceId, secretHash
      version }

/-- Two statements: the terminal's other active rows, then the row itself. -/
def activateMqtt (terminalId credentialId : Id) : MqttSql Unit := do
  Tx.write fun rows => rows.modifyWhere
    (fun c => c.terminalId = terminalId ∧ c.status = .active ∧ c.id ≠ credentialId)
    fun c => { c with status := .revoked }
  Tx.write fun rows => rows.modify credentialId fun c => { c with status := .active }

/-- How many rows the statement changed. -/
def revokeMqtt (terminalId : Id) : MqttSql Nat := do
  let rows ← Tx.read id
  Tx.write fun rows => rows.modifyWhere
    (fun c => c.terminalId = terminalId ∧ c.status ≠ .revoked)
    fun c => { c with status := .revoked }
  pure (rows.rows.filter fun c => c.terminalId = terminalId ∧ c.status ≠ .revoked).length

def authenticate (deviceId tokenHash : String) (now : Time) :
    IdentitySql (Option (Device × Credential)) :=
  Tx.read fun db => do
    let device ← db.devices.first? fun d => d.deviceId = deviceId
    let credential ← db.credentials.first? fun c =>
      c.terminalId = device.id ∧ c.tokenHash = tokenHash ∧ isAccepted now c = true
    pure (device, credential)

end IdentityRepository

namespace WorkerRepository

def expireCredentials (now : Time) : IdentitySql Unit :=
  Tx.write fun db => { db with
    credentials := db.credentials.modifyWhere
      (fun c => (c.status = .grace ∧ c.graceExpiresAt.any (· ≤ now)) ∨
        (c.status = .active ∧ c.expiresAt.any (· ≤ now)))
      fun c => { c with status := .expired } }

end WorkerRepository

namespace SimulatorPairingRepository

def session (sessionId : Id) (serialNumber : String) : IdentitySql (Option PairingSession) :=
  Tx.read fun db => (db.sessions.find? sessionId).filter (·.serialNumber = serialNumber)

def expire (sessionId : Id) : IdentitySql Unit :=
  Tx.write fun db => { db with
    sessions := db.sessions.modify sessionId fun s => { s with status := .expired } }

def credentialForToken (terminalId : Id) (tokenHash : String) : IdentitySql (Option Credential) :=
  Tx.read (·.credentials.first? fun c => c.terminalId = terminalId ∧ c.tokenHash = tokenHash)

def provisionedCredential (credentialId : Option Id) (terminalId : Id) :
    IdentitySql (Option Credential) :=
  Tx.read fun db => (credentialId.bind db.credentials.find?).filter (·.terminalId = terminalId)

def markProvisioned (sessionId credentialId : Id) : IdentitySql Unit :=
  Tx.write fun db => { db with
    sessions := db.sessions.modify sessionId fun s => { s with
      status := .provisioned
      provisionedCredentialId := s.provisionedCredentialId.or (some credentialId) } }

end SimulatorPairingRepository
end CoffeeCloud
