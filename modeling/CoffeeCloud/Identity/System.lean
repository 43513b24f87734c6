import CoffeeCloud.Library.Machine
import CoffeeCloud.Services.DeviceIdentity

/-!
Device identity as a machine: one action is one transaction. A request
authenticates in a transaction of its own and acts in a later one, so what it
carries over is a login; a login is never used up. What a transaction does to
activation codes and to credentials is said once here, as one of a few changes.
-/
namespace CoffeeCloud
open Library

/-- Digests that keep their argument readable. -/
def IdentityEnv.plain : IdentityEnv where
  canonicalDigest _ := "digest"
  hashToken token := token

structure IdentitySystem where
  db : IdentityDb := {}
  logins : List Identity := []

inductive IdentityAction where
  -- The world around the service.
  | registerDevice (device : Device)
  | setSession (session : PairingSession)
  -- Administrators.
  | createActivationCode (identifier : String) (ttlSeconds : Option Int) (code : String)
      (id activationId : Id) (now : Time)
  | revokeHttp (identifier : String) (credentialId : Id)
  -- Devices.
  | activate (request : DeviceIdentityService.ActivationRequest)
      (fresh : DeviceIdentityService.FreshCredential) (now : Time)
  | authenticate (deviceId : String) (headerDevice token : Option String) (now : Time)
  | rotateHttp (login : Nat) (call : DeviceIdentityService.RotationCall)
      (fresh : DeviceIdentityService.FreshCredential) (now : Time)
  | provision (sessionId : Id) (request : SimulatorPairingService.ProvisionRequest)
      (verified : PairingSession → Except Failure Unit)
      (fresh : DeviceIdentityService.FreshCredential) (now : Time)
  -- Workers.
  | expireCredentials (now : Time)

inductive IdentityAnswer where
  | done
  | raised (failure : Failure)
  | accepted (identity : Identity)
  | credential (payload : CredentialPayload)
  | rotated (response : RotationResponse)
deriving DecidableEq

namespace IdentitySystem

def registerDevice (device : Device) : IdentitySql Unit := do
  let db ← Tx.read id
  Tx.ensure (db.devices.find? device.id).isNone (.uniqueViolation "terminal_pkey")
  Tx.ensure (db.devices.first? fun d => d.deviceId = device.deviceId).isNone
    (.uniqueViolation "terminal_device_id_key")
  Tx.ensure (db.devices.first? fun d => d.serialNumber = device.serialNumber).isNone
    (.uniqueViolation "terminal_serial_number_key")
  Tx.write fun db => { db with devices := db.devices.insert device }

def setSession (session : PairingSession) : IdentitySql Unit :=
  Tx.write fun db => { db with
    sessions := (db.sessions.deleteWhere fun s => s.id = session.id).insert session }

/-- A transaction as an action sees it: what it answers and the logins it leaves. -/
abbrev Body := IdentitySql (IdentityAnswer × List Identity)

def answering {α : Type} (m : IdentitySql α) (answer : α → IdentityAnswer) : Body := do
  let a ← m
  pure (answer a, [])

def body (env : IdentityEnv) (logins : List Identity) : IdentityAction → Body
  | .registerDevice device => answering (registerDevice device) fun _ => .done
  | .setSession session => answering (setSession session) fun _ => .done
  | .createActivationCode identifier ttl code id activationId now =>
      answering
        (DeviceIdentityService.createActivationCode env identifier ttl code id activationId now)
        fun _ => .done
  | .revokeHttp identifier credentialId =>
      answering (DeviceIdentityService.revokeHttp identifier credentialId) .credential
  | .activate r fresh now =>
      answering (DeviceIdentityService.activate env r fresh now) .credential
  | .authenticate deviceId headerDevice token now => do
      let identity ← DeviceIdentityService.authenticate env deviceId headerDevice token now
      pure (.accepted identity, [identity])
  | .rotateHttp login r fresh now =>
      match logins[login]? with
      | some identity =>
          answering (DeviceIdentityService.rotateHttp env identity r fresh now) .rotated
      | none => pure (.done, [])
  | .provision sessionId r verified fresh now =>
      answering (SimulatorPairingService.provision env sessionId r verified fresh now) .credential
  | .expireCredentials now => answering (WorkerRepository.expireCredentials now) fun _ => .done

/-- A transaction that raises is rolled back. -/
def machine (env : IdentityEnv) : Machine IdentitySystem IdentityAction IdentityAnswer where
  next s a :=
    match body env s.logins a s.db with
    | .ok ((answer, logins), db) => (⟨db, s.logins ++ logins⟩, answer)
    | .error e => (s, .raised e)

end IdentitySystem

/-! What a transaction can do to the activation codes and to the credentials. -/

inductive ActivationChange where
  | same
  | reissue (activation : Activation)
  | consume (activationId credentialDbId : Id)

theorem Activation.cancels_id (a : Activation) : { a with status := .cancelled }.id = a.id := rfl

theorem Activation.consumes_id (credentialDbId : Id) (a : Activation) :
    { a with status := .consumed, consumedCredentialId := some credentialDbId }.id = a.id := rfl

def ActivationChange.apply (t : Table Activation) : ActivationChange → Table Activation
  | .same => t
  | .reissue activation =>
      (t.modifyWhere (fun a => a.terminalId = activation.terminalId ∧ a.status = .pending)
        (fun a => { a with status := .cancelled }) Activation.cancels_id).insert activation
  | .consume activationId credentialDbId =>
      t.modify activationId
        (fun a => { a with status := .consumed, consumedCredentialId := some credentialDbId })
        (Activation.consumes_id credentialDbId)

inductive CredentialChange where
  | same
  | replace (graceExpiresAt : Time) (credential : Credential)
  | rotate (old : Id) (graceExpiresAt : Time) (credential : Credential)
  | revoke (terminalId credentialId : Id)
  | expire (now : Time)

namespace CredentialChange

/-- What the change makes of a row that is there before it. -/
def row : CredentialChange → Credential → Credential
  | .same, c => c
  | .replace graceExpiresAt credential, c =>
      if c.terminalId = credential.terminalId ∧ c.status = .active then
        { c with status := .grace, graceExpiresAt := some graceExpiresAt }
      else c
  | .rotate old graceExpiresAt _, c =>
      if c.id = old then { c with status := .grace, graceExpiresAt := some graceExpiresAt } else c
  | .revoke terminalId credentialId, c =>
      if c.terminalId = terminalId ∧ c.credentialId = credentialId ∧ c.status ≠ .revoked then
        { c with status := .revoked, graceExpiresAt := none }
      else c
  | .expire now, c =>
      if (c.status = .grace ∧ c.graceExpiresAt.any (· ≤ now)) ∨
          (c.status = .active ∧ c.expiresAt.any (· ≤ now)) then
        { c with status := .expired }
      else c

/-- The row the change adds. -/
def added : CredentialChange → Option Credential
  | .replace _ credential | .rotate _ _ credential => some credential
  | _ => none

end CredentialChange

end CoffeeCloud
