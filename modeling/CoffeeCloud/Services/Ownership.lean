import CoffeeCloud.Services.DeviceLifecycle
import CoffeeCloud.Services.Members
import CoffeeCloud.Library.Digits

/-!
Whose a device is, request by request and statement by statement: claim codes and
pairing codes, transfers and unbindings, and what a simulator's pairing session
writes. The session a merchant acts under is read before. What `blocking` finds in
the orders, jobs and commands of a device is written elsewhere, at any time.
-/
namespace CoffeeCloud
open Library

/-- The columns of a terminal that these requests read and write. -/
structure OwnedTerminal where
  id : Id
  deviceId : String
  serialNumber : String
  identityKind : Option String := none
  tenantId : Id := legacyTenant
  storeId : Option Id := none
  deviceName : Option String := none
  lifecycleStatus : String := "ACTIVE"
  provisioningStatus : String := "LEGACY"
  ownershipVersion : Nat := 1
  merchantVersion : Nat := 1
  ownershipFrozen : Bool := false

/-- A row of `merchant_device_ownership`. -/
structure OwnershipInterval where
  terminalId : Id
  version : Nat
  tenantId : Id
  storeId : Option Id
  validUntil : Option Time := none

structure DeviceClaim where
  id : Id
  terminalId : Id
  codeHash : String
  expiresAt : Time
  consumedAt : Option Time := none
  consumedBy : Option Id := none

structure PairingCode where
  id : Id
  terminalId : Id
  codeHash : String
  status : PairingStatus := .pending
  expiresAt : Time

/-- The `operation` of an idempotent request; a device is named by the text of its path. -/
inductive AssetOperation where
  | pair | claim
  | transfer (device : String)
  | unbind (device : String)
deriving DecidableEq, Repr

inductive AssetResponse where
  | device (terminalId : Id)
  | transfer (transferId : Id) (status : TransferStatus) (version : Nat)
deriving DecidableEq, Repr

structure MerchantOperation where
  tenantId : Id
  operation : AssetOperation
  key : String
  digest : String
  response : AssetResponse

instance : Keyed OwnedTerminal Id := ⟨OwnedTerminal.id⟩
instance : Keyed OwnershipInterval (Id × Nat) := ⟨fun o => (o.terminalId, o.version)⟩
instance : Keyed DeviceClaim Id := ⟨DeviceClaim.id⟩
instance : Keyed PairingCode Id := ⟨PairingCode.id⟩
instance : Keyed MerchantOperation (Id × AssetOperation × String) :=
  ⟨fun o => (o.tenantId, o.operation, o.key)⟩

/-- What there is to do for a device, as the three queries of `blocking` find it. -/
structure PendingWork where
  orders : Bool := false
  jobs : Bool := false
  commands : Bool := false

structure AssetDb where
  terminals : Table OwnedTerminal := .empty
  intervals : Table OwnershipInterval := .empty
  claims : Table DeviceClaim := .empty
  pairings : Table PairingCode := .empty
  transfers : Table DeviceTransfer := .empty
  operations : Table MerchantOperation := .empty
  /-- Stores and tenants that are active. -/
  stores : Table MerchantStore := .empty
  tenants : Table Tenant := .empty
  work : Id → PendingWork := fun _ => {}
  audit : List MerchantAudit := []

inductive AssetResource where
  | terminal (id : Id)
  | interval (key : Id × Nat)
  | claim (id : Id)
  | claimCode (codeHash : String)
  | pairing (id : Id)
  | pairingCode (codeHash : String)
  | transfer (id : Id)
  | operation (key : Id × AssetOperation × String)
deriving DecidableEq

abbrev AssetLock := Lock AssetResource

abbrev AssetScript (α : Type) := Script AssetDb AssetResource Failure α

/-- `textOf` is `str` of a value. -/
structure AssetSettings where
  tokenHash : String → String
  canonicalDigest : Json → String
  textOf : Json → String

/-- The clock and the new identifiers of a request. -/
structure AssetFresh where
  now : Time
  id : Id
  code : String
  terminalId : Id := 0
  deviceId : String := ""

def TransferStatus.active : TransferStatus → Bool
  | .pendingRecipient | .pendingPlatform => true
  | .cancelled => false

namespace AssetRequests
open Script

/-- `value == n` of a JSON value and an integer. -/
def equalsNat (value : Json) (n : Nat) : Bool :=
  match value with
  | .int i => i = n
  | .bool b => (if b then 1 else 0) = n
  | .float q => q = n
  | _ => false

variable (settings : AssetSettings) (new : AssetFresh) (p : MerchantPrincipal)

def storeAllowed (storeId : Option Id) : Bool :=
  p.storeScope.all || storeId.any (· ∈ p.storeScope.storeIds)

def deviceIdOf (device : String) : Option Id :=
  if Digits.isDigits device ∧ device.length ≤ 18 then Digits.int? device else none

def deviceRow (db : AssetDb) (terminalId : Id) : Option OwnedTerminal :=
  (db.terminals.find? terminalId).filter fun t => t.tenantId = p.tenantId

/-- `device`, which is locked. -/
def device (text : String) : AssetScript OwnedTerminal := do
  ensure (Digits.isDigits text ∧ text.length ≤ 18) (.serviceError 404 "NOT_FOUND")
  let terminalId ← require (deviceIdOf text) (.exception "ValueError")
  let found ← selectFor
    (fun db => (deviceRow p db terminalId).toList.map fun t => ⟨.terminal t.id, .exclusive⟩)
    fun db => deviceRow p db terminalId
  let row ← require found (.serviceError 404 "NOT_FOUND")
  ensure (storeAllowed p row.storeId) (.serviceError 404 "NOT_FOUND")
  pure row

def store (storeId : Option Id) : AssetScript MerchantStore := do
  let storeId ← require storeId (.serviceError 404 "NOT_FOUND")
  let found ← select fun db => (db.stores.find? storeId).filter fun s => s.tenantId = p.tenantId
  let row ← require found (.serviceError 404 "NOT_FOUND")
  ensure (storeAllowed p (some row.id)) (.serviceError 404 "NOT_FOUND")
  pure row

def blocking (terminalId : Id) : AssetScript Bool := do
  let orders ← select fun db => (db.work terminalId).orders
  let jobs ← select fun db => (db.work terminalId).jobs
  let commands ← select fun db => (db.work terminalId).commands
  pure (orders || jobs || commands)

def record (action resourceType : String) : AssetScript Unit :=
  change (fun _ => []) fun _ db => { db with
    audit := db.audit ++ [⟨p.tenantId, p.userId, action, resourceType⟩] }

/-- A key that was used before is answered with what was answered then. -/
def idempotent (operation : AssetOperation) (key : Option String) (data : Json)
    (execute : AssetScript AssetResponse) : AssetScript AssetResponse := do
  let key ← require (key.filter fun k => k ≠ "" ∧ k.length ≤ 160)
    (.serviceError 400 "IDEMPOTENCY_REQUIRED")
  lock ⟨.operation (p.tenantId, operation, key), .exclusive⟩
  let row ← select fun db => db.operations.find? (p.tenantId, operation, key)
  match row with
  | some row => do
      ensure (row.digest = settings.canonicalDigest data) (.serviceError 409 "IDEMPOTENCY_CONFLICT")
      pure row.response
  | none => do
      let response ← execute
      insert [⟨.operation (p.tenantId, operation, key), .exclusive⟩]
        (fun db => (db.operations.find? (p.tenantId, operation, key)).isSome)
        (fun db => { db with
          operations := db.operations.insert
            ⟨p.tenantId, operation, key, settings.canonicalDigest data, response⟩ })
        (.uniqueViolation "merchant_operation_pkey")
      pure response

def openClaims (db : AssetDb) (terminalId : Id) : List Id :=
  db.claims.keysWhere fun k => k.terminalId = terminalId ∧ k.consumedAt = none

def issueClaim (terminalId : Id) : AssetScript Unit := do
  let found ← selectFor
    (fun db => (db.terminals.find? terminalId).toList.map fun t => ⟨.terminal t.id, .exclusive⟩)
    fun db => db.terminals.find? terminalId
  let row ← require (found.filter fun t => t.tenantId = legacyTenant)
    (.serviceError 409 "CLAIM_NOT_AVAILABLE")
  change (fun db => (openClaims db row.id).map fun k => ⟨.claim k, .exclusive⟩)
    fun view db => { db with
      claims := db.claims.modifyWhere (fun k => k.id ∈ openClaims view row.id)
        fun k => { k with expiresAt := new.now } }
  insert [⟨.claim new.id, .exclusive⟩, ⟨.claimCode (settings.tokenHash new.code), .exclusive⟩]
    (fun db => (db.claims.find? new.id).isSome ∨
      db.claims.rows.any fun k => k.codeHash = settings.tokenHash new.code)
    (fun db => { db with
      claims := db.claims.insert
        { id := new.id, terminalId := row.id, codeHash := settings.tokenHash new.code
          expiresAt := new.now + seconds 604800 } })
    (.uniqueViolation "merchant_device_claim")

structure ClaimData where
  body : Json
  pairing : Bool
  code : Option String
  storeId : Option Id
  name : Option String
  localeValid : Bool := true

def pairable (db : AssetDb) (codeHash : String) : Option PairingCode :=
  db.pairings.first? fun k => k.codeHash = codeHash ∧ k.status = .pending ∧ new.now < k.expiresAt

def claimable (db : AssetDb) (codeHash : String) : Option DeviceClaim :=
  db.claims.first? fun k => k.codeHash = codeHash ∧ k.consumedAt = none ∧ new.now < k.expiresAt

/-- The row of a code that may be used, which is locked, and the device it is for. -/
def redeemable (pairing : Bool) (codeHash : String) : AssetScript (Id × Id) :=
  if pairing then do
    let found ← selectFor
      (fun db => (pairable new db codeHash).toList.map fun k => ⟨.pairing k.id, .exclusive⟩)
      fun db => pairable new db codeHash
    let row ← require found (.serviceError 409 "PAIRING_INVALID")
    pure (row.id, row.terminalId)
  else do
    let found ← selectFor
      (fun db => (claimable new db codeHash).toList.map fun k => ⟨.claim k.id, .exclusive⟩)
      fun db => claimable new db codeHash
    let row ← require found (.serviceError 409 "CLAIM_INVALID")
    pure (row.id, row.terminalId)

def invalidCode (pairing : Bool) : Failure :=
  .serviceError 409 (if pairing then "PAIRING_INVALID" else "CLAIM_INVALID")

def consume (pairing : Bool) (codeId : Id) : AssetScript Unit :=
  if pairing then
    change (fun _ => [⟨.pairing codeId, .exclusive⟩]) fun _ db => { db with
      pairings := db.pairings.modify codeId fun k => { k with status := .claimed } }
  else
    change (fun _ => [⟨.claim codeId, .exclusive⟩]) fun _ db => { db with
      claims := db.claims.modify codeId fun k =>
        { k with consumedAt := some new.now, consumedBy := some p.tenantId } }

/-- The device becomes the merchant's, under a version of its own. -/
def handOver (t : OwnedTerminal) (store : MerchantStore) (name : String) (pairing : Bool) :
    AssetScript Unit := do
  change (fun db => (db.intervals.keysWhere fun o =>
      o.terminalId = t.id ∧ o.validUntil = none).map fun k => ⟨.interval k, .exclusive⟩)
    fun _ db => { db with
      intervals := db.intervals.modifyWhere (fun o => o.terminalId = t.id ∧ o.validUntil = none)
        fun o => { o with validUntil := some new.now } }
  change (fun _ => [⟨.terminal t.id, .exclusive⟩]) fun _ db => { db with
    terminals := db.terminals.modify t.id fun t => { t with
      tenantId := p.tenantId, storeId := some store.id, deviceName := some name
      provisioningStatus := if pairing then "CLAIMED_PENDING_PROVISION" else t.provisioningStatus
      ownershipVersion := t.ownershipVersion + 1, merchantVersion := t.merchantVersion + 1 } }
  insert [⟨.interval (t.id, t.ownershipVersion + 1), .exclusive⟩]
    (fun db => (db.intervals.find? (t.id, t.ownershipVersion + 1)).isSome)
    (fun db => { db with
      intervals := db.intervals.insert
        { terminalId := t.id, version := t.ownershipVersion + 1, tenantId := p.tenantId
          storeId := some store.id } })
    (.uniqueViolation "merchant_device_ownership_terminal_id_version_key")

def performClaim (data : ClaimData) (code : String) : AssetScript AssetResponse := do
  let (codeId, terminalId) ← redeemable new data.pairing (settings.tokenHash code)
  let found ← selectFor
    (fun db => (db.terminals.find? terminalId).toList.map fun t => ⟨.terminal t.id, .exclusive⟩)
    fun db => db.terminals.find? terminalId
  let t ← require found (.exception "TypeError")
  ensure (t.tenantId = legacyTenant ∧ t.ownershipFrozen = false) (invalidCode data.pairing)
  let blocked ← blocking t.id
  ensure (blocked = false) (invalidCode data.pairing)
  let store ← store p data.storeId
  ensure data.localeValid (.serviceError 422 "INVALID_LOCALE")
  let name ← require data.name (.serviceError 422 "INVALID_FIELD")
  handOver new p t store name data.pairing
  consume new p data.pairing codeId
  record p (if data.pairing then "device.pair" else "device.claim") "device"
  pure (.device t.id)

def claim (data : ClaimData) (key : Option String) : AssetScript AssetResponse := do
  let code ← require data.code (.serviceError 422 "INVALID_FIELD")
  idempotent settings p (if data.pairing then .pair else .claim) key data.body
    (performClaim settings new p data code)

/-- What a merchant does to a device of its own: a new life cycle, or a name, a store and a
language. -/
inductive DeviceChange where
  | lifecycle (action : String) (reason : Option String)
  | profile (name : Option String) (storeId : Option Id) (localeValid : Bool)

def lifecycleActions (t : OwnedTerminal) : List String :=
  if t.ownershipFrozen then []
  else if t.lifecycleStatus = "ACTIVE" then ["SUSPEND"]
  else if t.lifecycleStatus = "SUSPENDED" then ["RESUME", "ARCHIVE"]
  else []

def changeDevice (t : OwnedTerminal) : DeviceChange → AssetScript Unit
  | .lifecycle action reason => do
      ensure (action ∈ lifecycleActions t) (.serviceError 409 "BAD_STATE")
      let status ← require (MerchantAssets.lifecycleOf action) (.serviceError 409 "BAD_STATE")
      let _ ← require reason (.serviceError 422 "INVALID_FIELD")
      let blocked ← if action = "ARCHIVE" then blocking t.id else pure false
      ensure (blocked = false) (.serviceError 409 "DEVICE_BUSY")
      change (fun _ => [⟨.terminal t.id, .exclusive⟩]) fun _ db => { db with
        terminals := db.terminals.modify t.id fun t =>
          { t with lifecycleStatus := status, merchantVersion := t.merchantVersion + 1 } }
  | .profile name storeId localeValid => do
      let store ← store p storeId
      ensure localeValid (.serviceError 422 "INVALID_LOCALE")
      let name ← require name (.serviceError 422 "INVALID_FIELD")
      change (fun _ => [⟨.terminal t.id, .exclusive⟩]) fun _ db => { db with
        terminals := db.terminals.modify t.id fun t => { t with
          deviceName := some name, storeId := some store.id
          merchantVersion := t.merchantVersion + 1 } }

def update (text : String) (version : Option Int) (asked : DeviceChange) : AssetScript Unit := do
  let t ← device p text
  ensure (version = some (t.merchantVersion : Int)) (.serviceError 409 "VERSION_CONFLICT")
  ensure (t.ownershipFrozen = false) (.serviceError 409 "DEVICE_FROZEN")
  changeDevice p t asked
  record p "device.update" "device"

/-- The tenant a device goes to; where it is unbound there is none. -/
def targetOf (unbind : Bool) (reference : Option Id) : AssetScript (Option Id) :=
  if unbind then pure none
  else do
    let target ← require reference (.serviceError 404 "NOT_FOUND")
    let there ← select fun db => decide (target ≠ p.tenantId ∧ target ≠ legacyTenant ∧
      (db.tenants.find? target).any fun t => t.status = .active)
    ensure there (.serviceError 404 "NOT_FOUND")
    pure (some target)

structure TransferData where
  body : Json
  target : Option Id := none
  reason : Option String

def activeTransfer (db : AssetDb) (terminalId : Id) : Option DeviceTransfer :=
  db.transfers.first? fun x => x.terminalId = terminalId ∧ x.status.active

def requestTransfer (text : String) (data : TransferData) (unbind : Bool) :
    AssetScript AssetResponse := do
  let t ← device p text
  ensure (equalsNat (data.body.getD "ownershipVersion") t.ownershipVersion)
    (.serviceError 409 "VERSION_CONFLICT")
  ensure (t.ownershipFrozen = false) (.serviceError 409 "DEVICE_FROZEN")
  let blocked ← blocking t.id
  ensure (blocked = false) (.serviceError 409 "DEVICE_BUSY")
  let target ← targetOf p unbind data.target
  let _ ← require data.reason (.serviceError 422 "INVALID_FIELD")
  let status := if unbind then .pendingPlatform else .pendingRecipient
  insert [⟨.transfer new.id, .exclusive⟩]
    (fun db => (db.transfers.find? new.id).isSome ∨ (activeTransfer db t.id).isSome)
    (fun db => { db with
      transfers := db.transfers.insert
        { id := new.id, terminalId := t.id, sourceTenantId := p.tenantId, targetTenantId := target
          status, ownershipVersion := t.ownershipVersion, previousLifecycle := t.lifecycleStatus } })
    (.uniqueViolation "merchant_transfer_active")
  change (fun _ => [⟨.terminal t.id, .exclusive⟩]) fun _ db => { db with
    terminals := db.terminals.modify t.id fun t => { t with
      ownershipFrozen := true, lifecycleStatus := "SUSPENDED"
      merchantVersion := t.merchantVersion + 1 } }
  record p (if unbind then "device.unbind-request" else "device.transfer-request") "device"
  pure (.transfer new.id status 1)

def transfer (text : String) (data : TransferData) (key : Option String) (unbind : Bool) :
    AssetScript AssetResponse :=
  idempotent settings p (if unbind then .unbind text else .transfer text) key data.body
    (requestTransfer new p text data unbind)

/-- `request.headers.get('idempotency-key') or 'unbind-'+str(data.get('ownershipVersion'))`. -/
def unbindKey (header : Option String) (data : TransferData) : String :=
  (header.filter (· ≠ "")).getD ("unbind-" ++ settings.textOf (data.body.getD "ownershipVersion"))

def concerned (db : AssetDb) (transferId : Id) : Option DeviceTransfer :=
  (db.transfers.find? transferId).filter fun x =>
    x.sourceTenantId = p.tenantId ∨ x.targetTenantId = some p.tenantId

def settled (status : TransferStatus) (x : DeviceTransfer) : DeviceTransfer :=
  { x with status, version := x.version + 1 }

theorem key_settled (status : TransferStatus) (x : DeviceTransfer) :
    Keyed.key (settled status x) = Keyed.key x := rfl

def setTransfer (transferId : Id) (status : TransferStatus) : AssetScript Unit :=
  change (fun _ => [⟨.transfer transferId, .exclusive⟩]) fun _ db => { db with
    transfers := db.transfers.modify transferId (settled status) (key_settled status) }

/-- The terminal of a transfer, as long as it is owned under the same version. -/
def owned (x : DeviceTransfer) (t : OwnedTerminal) : Bool :=
  t.id = x.terminalId ∧ t.ownershipVersion = x.ownershipVersion

inductive TransferAction where
  | accept (storeId : Option Id)
  | cancel

def actOn (x : DeviceTransfer) : TransferAction → AssetScript TransferStatus
  | .accept storeId => do
      ensure (x.targetTenantId = some p.tenantId ∧ x.status = .pendingRecipient)
        (.serviceError 409 "BAD_STATE")
      if storeId.isSome then do
        let _ ← store p storeId
        setTransfer x.id .pendingPlatform
      else setTransfer x.id .pendingPlatform
      pure .pendingPlatform
  | .cancel => do
      ensure (x.sourceTenantId = p.tenantId ∧ x.status.active) (.serviceError 409 "BAD_STATE")
      setTransfer x.id .cancelled
      change (fun db => (db.terminals.keysWhere (owned x)).map fun i => ⟨.terminal i, .exclusive⟩)
        fun _ db => { db with
          terminals := db.terminals.modifyWhere (owned x) fun t => { t with
            ownershipFrozen := false, lifecycleStatus := x.previousLifecycle
            merchantVersion := t.merchantVersion + 1 } }
      pure .cancelled

def transferAction (transferId : Option Id) (version : Option Int) (action : TransferAction) :
    AssetScript AssetResponse := do
  let transferId ← require transferId (.serviceError 404 "NOT_FOUND")
  let found ← selectFor
    (fun db => (concerned p db transferId).toList.map fun x => ⟨.transfer x.id, .exclusive⟩)
    fun db => concerned p db transferId
  let row ← require found (.serviceError 404 "NOT_FOUND")
  ensure (version = some (row.version : Int)) (.serviceError 409 "VERSION_CONFLICT")
  let status ← actOn p row action
  record p "transfer" "transfer"
  pure (.transfer row.id status (row.version + 1))

/-- A terminal by its device id or else by its serial number. -/
def findBySerial (db : AssetDb) (identifier : String) : Option OwnedTerminal :=
  (db.terminals.first? fun t => t.deviceId = identifier).or
    (db.terminals.first? fun t => t.serialNumber = identifier)

def addTerminal (t : OwnedTerminal) : AssetScript Unit :=
  insert [⟨.terminal t.id, .exclusive⟩]
    (fun db => (db.terminals.find? t.id).isSome ∨
      db.terminals.rows.any fun o => o.deviceId = t.deviceId ∨ o.serialNumber = t.serialNumber)
    (fun db => { db with terminals := db.terminals.insert t })
    (.uniqueViolation "terminal")

/-- The terminal of a simulator; one that is new is the platform's. -/
def simulatorTerminal (serialNumber : String) : AssetScript OwnedTerminal := do
  let found ← selectFor
    (fun db => (findBySerial db serialNumber).toList.map fun t => ⟨.terminal t.id, .exclusive⟩)
    fun db => findBySerial db serialNumber
  match found with
  | some t => do
      ensure (t.identityKind = none ∨ t.identityKind = some "SIMULATOR_SOFTWARE")
        (.serviceError 409 "device serial number belongs to another identity type")
      pure t
  | none => do
      let t : OwnedTerminal :=
        { id := new.terminalId, deviceId := new.deviceId, serialNumber
          identityKind := some "SIMULATOR_SOFTWARE", lifecycleStatus := "PENDING_ACTIVATION"
          provisioningStatus := "PAIRING_PENDING" }
      addTerminal t
      pure t

/-- `insert ... select ... from terminal ... on conflict do nothing`. -/
def ensureInitialOwnership (t : OwnedTerminal) : AssetScript Unit :=
  change (fun _ => [⟨.interval (t.id, t.ownershipVersion), .exclusive⟩]) fun _ db => { db with
    intervals := db.intervals.insert
      { terminalId := t.id, version := t.ownershipVersion, tenantId := t.tenantId
        storeId := t.storeId } }

def pendingPairings (db : AssetDb) (terminalId : Id) : List Id :=
  db.pairings.keysWhere fun k => k.terminalId = terminalId ∧ k.status = .pending

/-- `proof` is what becomes of the key the simulator registers with. -/
def createSession (serialNumber : String) (proof : Except Failure Unit) (expiresAt : Time) :
    AssetScript Unit := do
  let t ← simulatorTerminal new serialNumber
  ensureInitialOwnership t
  match proof with
  | .error e => raise e
  | .ok _ => do
      change (fun db => (pendingPairings db t.id).map fun k => ⟨.pairing k, .exclusive⟩)
        fun view db => { db with
          pairings := db.pairings.modifyWhere (fun k => k.id ∈ pendingPairings view t.id)
            fun k => { k with status := .cancelled } }
      change (fun _ => [⟨.terminal t.id, .exclusive⟩]) fun _ db => { db with
        terminals := db.terminals.modify t.id fun t => { t with
          lifecycleStatus := "PENDING_ACTIVATION", provisioningStatus := "PAIRING_PENDING"
          identityKind := some "SIMULATOR_SOFTWARE" } }
      insert [⟨.pairing new.id, .exclusive⟩, ⟨.pairingCode (settings.tokenHash new.code), .exclusive⟩]
        (fun db => (db.pairings.find? new.id).isSome ∨
          db.pairings.rows.any fun k => k.codeHash = settings.tokenHash new.code)
        (fun db => { db with
          pairings := db.pairings.insert
            { id := new.id, terminalId := t.id, codeHash := settings.tokenHash new.code, expiresAt } })
        (.uniqueViolation "device_pairing_session")

end AssetRequests
end CoffeeCloud
