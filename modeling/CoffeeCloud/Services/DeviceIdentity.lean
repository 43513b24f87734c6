import CoffeeCloud.Repositories.Identity

/-!
Device identity: activation codes, HTTP device credentials and their rotation,
software pairing, and the MQTT credentials. A transaction that raises is undone
as a whole. The signature over a pairing session is checked by code outside, so
its verdict is an argument.
-/
namespace CoffeeCloud
open Library

structure IdentityEnv where
  canonicalDigest : Json → String
  hashToken : String → String
  activationTtlSeconds : Int := 600
  activationMaxAttempts : Int := 5
  credentialGraceSeconds : Int := 300
  attemptsPositive : 1 ≤ activationMaxAttempts := by decide
  graceNonnegative : 0 ≤ credentialGraceSeconds := by decide

/-- A request that authenticated: its terminal and the credential it came with. -/
structure Identity where
  id : Id
  deviceId : String
  credentialDbId : Id
deriving DecidableEq

namespace DeviceIdentityService

/-- The identifiers a new credential row draws. -/
structure FreshCredential where
  id : Id
  credentialId : Id

def credentialPayload (row : Credential) (duplicate : Bool) : CredentialPayload where
  credentialId := row.credentialId
  version := row.version
  status := row.status
  notBefore := row.notBefore
  expiresAt := row.expiresAt
  graceExpiresAt := row.graceExpiresAt
  duplicate := duplicate

def terminal (identifier : String) : IdentitySql Device := do
  Tx.require (← TerminalRepository.find identifier) (.serviceError 404 "device not found")

def authenticate (env : IdentityEnv) (deviceId : String) (headerDevice token : Option String)
    (now : Time) : IdentitySql Identity := do
  Tx.ensure (headerDevice = some deviceId) (.serviceError 401 "device identity mismatch")
  let token ← Tx.require token (.serviceError 401 "missing device credential")
  let (device, credential) ←
    Tx.require (← IdentityRepository.authenticate deviceId (env.hashToken token) now)
      (.serviceError 401 "invalid device credential")
  pure ⟨device.id, device.deviceId, credential.id⟩

/-- `ttl_seconds or activation_ttl_seconds`: zero counts as absent. -/
def activationTtl (env : IdentityEnv) (ttlSeconds : Option Int) : Int :=
  match ttlSeconds with
  | some ttl => if ttl ≠ 0 then ttl else env.activationTtlSeconds
  | none => env.activationTtlSeconds

def createActivationCode (env : IdentityEnv) (identifier : String) (ttlSeconds : Option Int)
    (code : String) (id activationId : Id) (now : Time) : IdentitySql Unit := do
  let expiresAt := now + seconds (activationTtl env ttlSeconds)
  let device ← terminal identifier
  IdentityRepository.cancelPendingActivations device.id
  IdentityRepository.createActivation
    { id, activationId, terminalId := device.id, codeHash := env.hashToken code
      maxAttempts := env.activationMaxAttempts, expiresAt }

structure ActivationRequest where
  deviceId : String
  serialNumber : Option String := none
  activationCode : String
  deviceToken : String

/-- A code that is none of the terminal's counts against the pending activation. -/
def countFailedAttempt (terminalId : Id) : IdentitySql Unit := do
  match ← IdentityRepository.pendingActivation terminalId with
  | none => pure ()
  | some pending =>
      let attempts := pending.attemptCount + 1
      IdentityRepository.recordFailedAttempt pending.id attempts
        (if pending.maxAttempts ≤ attempts then .locked else .pending)

/-- A consumed code answers only the token it was consumed for. -/
def replayActivation (activation : Activation) (tokenHash : String) :
    IdentitySql CredentialPayload := do
  let credential ← match activation.consumedCredentialId with
    | none => pure none
    | some credentialDbId => IdentityRepository.credentialById credentialDbId
  let credential ← Tx.require (credential.filter fun c => c.tokenHash = tokenHash)
    (.serviceError 409 "activation code already consumed")
  pure (credentialPayload credential true)

/-- Every active credential of the terminal moves to grace and a new one takes its place. -/
def replaceCredential (env : IdentityEnv) (terminalId : Id) (tokenHash : String)
    (fresh : FreshCredential) (now : Time) : IdentitySql Credential := do
  let version ← IdentityRepository.nextHttpVersion terminalId
  IdentityRepository.graceActiveHttpCredentials terminalId
    (now + seconds env.credentialGraceSeconds)
  IdentityRepository.createHttpCredential
    { id := fresh.id, terminalId, tokenHash, credentialId := fresh.credentialId, version
      notBefore := some now }

/-- The credential a pending code is consumed for. -/
def consumeCode (env : IdentityEnv) (device : Device) (activation : Activation) (tokenHash : String)
    (fresh : FreshCredential) (now : Time) : IdentitySql CredentialPayload := do
  Tx.ensure (¬ (← IdentityRepository.tokenExists tokenHash) = true)
    (.serviceError 409 "credential token already registered")
  let credential ← replaceCredential env device.id tokenHash fresh now
  IdentityRepository.consumeActivation activation.id credential.id
  IdentityRepository.activateTerminal device.id
  pure (credentialPayload credential false)

def invalidCode : Failure := .serviceError 401 "invalid or expired activation code"

def activate (env : IdentityEnv) (r : ActivationRequest) (fresh : FreshCredential) (now : Time) :
    IdentitySql CredentialPayload := do
  let codeHash := env.hashToken r.activationCode
  let tokenHash := env.hashToken r.deviceToken
  let device ← terminal r.deviceId
  Tx.ensure (∀ serialNumber ∈ r.serialNumber, device.serialNumber = serialNumber)
    (.serviceError 409 "device serial number does not match pre-registration")
  match ← IdentityRepository.activationByCode device.id codeHash with
  | none => do
      countFailedAttempt device.id
      Tx.raise invalidCode
  | some activation =>
      if activation.status = .consumed then
        replayActivation activation tokenHash
      else if activation.status ≠ .pending ∨ activation.expiresAt ≤ now then do
        Tx.onlyIf (activation.status = .pending)
          (IdentityRepository.expireActivation activation.id)
        Tx.raise invalidCode
      else
        consumeCode env device activation tokenHash fresh now

/-- A rotation answered before under its key, and with the same body. -/
def replayRotation (existing : RotationRequest) (digest : String) : IdentitySql RotationResponse := do
  Tx.ensure (existing.requestDigest = digest) (.serviceError 409 "Idempotency-Key payload conflict")
  pure { existing.response with
    credential := { existing.response.credential with duplicate := true } }

structure RotationCall where
  deviceId : String
  newToken : String
  idempotencyKey : Option String
  requestBody : Json

def rotateHttp (env : IdentityEnv) (identity : Identity) (r : RotationCall)
    (fresh : FreshCredential) (now : Time) : IdentitySql RotationResponse := do
  let key ← Tx.require (r.idempotencyKey.filter fun key => key ≠ "" ∧ key.length ≤ 160)
    (.serviceError 400 "Idempotency-Key is required and must be <= 160 characters")
  let tokenHash := env.hashToken r.newToken
  let digest := env.canonicalDigest r.requestBody
  let graceExpiresAt := now + seconds env.credentialGraceSeconds
  match ← IdentityRepository.rotationRequest identity.id key with
  | some existing => replayRotation existing digest
  | none => do
      let old ← Tx.require (← IdentityRepository.credentialById identity.credentialDbId)
        (.serviceError 401 "credential no longer exists")
      Tx.ensure (old.tokenHash ≠ tokenHash)
        (.serviceError 400 "new credential must differ from current credential")
      Tx.ensure (¬ (← IdentityRepository.tokenExists tokenHash) = true)
        (.serviceError 409 "credential token already registered")
      IdentityRepository.graceHttpCredential old.id graceExpiresAt
      let version ← IdentityRepository.nextHttpVersion identity.id
      let credential ← IdentityRepository.createHttpCredential
        { id := fresh.id, terminalId := identity.id, tokenHash, credentialId := fresh.credentialId
          version, notBefore := some now, rotatedFromId := some old.id }
      let response : RotationResponse :=
        { deviceId := r.deviceId, credential := credentialPayload credential false
          previousCredentialGraceExpiresAt := graceExpiresAt }
      IdentityRepository.saveRotationRequest
        { terminalId := identity.id, idempotencyKey := key, requestDigest := digest
          oldCredentialId := old.id, newCredentialId := credential.id, response }
      pure response

def revokeHttp (identifier : String) (credentialId : Id) : IdentitySql CredentialPayload := do
  let device ← terminal identifier
  let before ← Tx.require (← IdentityRepository.httpCredential device.id credentialId)
    (.serviceError 404 "credential not found")
  let duplicate := before.status = .revoked
  let credential ← IdentityRepository.revokeHttpCredential device.id credentialId
  pure (credentialPayload (credential.getD before) duplicate)

/-- The first transaction of an issue: the row, before the broker knows the password. -/
def issueMqttCredential (env : IdentityEnv) (device : Device) (credentialId : Id)
    (password : String) : MqttSql Unit := do
  let version ← IdentityRepository.nextMqttVersion device.id
  IdentityRepository.createPendingMqtt credentialId device (env.hashToken password) version

end DeviceIdentityService

namespace SimulatorPairingService

structure ProvisionRequest where
  serialNumber : String
  deviceToken : String

/-- The credential a session was provisioned with, or one the token already belongs to. -/
def knownCredential (row : PairingSession) (tokenHash : String) :
    IdentitySql (Option Credential) := do
  if row.status = .provisioned then do
    let credential ←
      SimulatorPairingRepository.provisionedCredential row.provisionedCredentialId row.terminalId
    let credential ← Tx.require (credential.filter fun c => c.tokenHash = tokenHash)
      (.serviceError 409 "pairing session has already been provisioned")
    pure (some credential)
  else SimulatorPairingRepository.credentialForToken row.terminalId tokenHash

def sessionCredential (env : IdentityEnv) (row : PairingSession) (tokenHash : String)
    (fresh : DeviceIdentityService.FreshCredential) (now : Time) : IdentitySql Credential := do
  match ← knownCredential row tokenHash with
  | some credential => pure credential
  | none => do
      Tx.ensure (¬ (← IdentityRepository.tokenExists tokenHash) = true)
        (.serviceError 409 "device credential token is already registered")
      DeviceIdentityService.replaceCredential env row.terminalId tokenHash fresh now

def provision (env : IdentityEnv) (sessionId : Id) (r : ProvisionRequest)
    (verified : PairingSession → Except Failure Unit)
    (fresh : DeviceIdentityService.FreshCredential) (now : Time) :
    IdentitySql CredentialPayload := do
  let tokenHash := env.hashToken r.deviceToken
  let row ← Tx.require (← SimulatorPairingRepository.session sessionId r.serialNumber)
    (.serviceError 404 "pairing session not found")
  match verified row with
  | .error e => Tx.raise e
  | .ok _ => do
      Tx.onlyIf (row.status = .pending ∧ row.expiresAt ≤ now) (do
        SimulatorPairingRepository.expire sessionId
        Tx.raise (.serviceError 409 "pairing code expired; create a new pairing session"))
      Tx.ensure (row.status = .claimed ∨ row.status = .provisioned)
        (.serviceError 409 "merchant pairing has not completed")
      let credential ← sessionCredential env row tokenHash fresh now
      IdentityRepository.activateTerminal row.terminalId
      SimulatorPairingRepository.markProvisioned sessionId credential.id
      pure (DeviceIdentityService.credentialPayload credential false)

end SimulatorPairingService
end CoffeeCloud
