import CoffeeCloud.Library.Machine
import CoffeeCloud.Schema

/-!
The operators of the admin interface: who a bearer token stands for, and the requests
that change who may do what. Such a request authenticates, changes the tables and
records that it did in three transactions, and others may come between them. Names and
labels are checked before; the audit rows leave out what a request said in detail.
-/
namespace CoffeeCloud
open Library

inductive AdminRole where
  | viewer | operator | manager | owner
deriving DecidableEq

inductive AdminPermission where
  | dashboardRead | devicesRead | ordersRead | devicesManage | commandsExecute | refundsManage
  | accessRead | accessManage | auditRead
deriving DecidableEq

/-- `ROLE_PERMISSIONS`. -/
def AdminRole.permissions : AdminRole → List AdminPermission
  | .viewer => [.dashboardRead, .devicesRead, .ordersRead]
  | .operator => [.dashboardRead, .devicesRead, .ordersRead, .devicesManage, .commandsExecute]
  | .manager =>
      [.dashboardRead, .devicesRead, .ordersRead, .devicesManage, .commandsExecute, .refundsManage,
        .accessRead, .auditRead]
  | .owner =>
      [.dashboardRead, .devicesRead, .ordersRead, .devicesManage, .commandsExecute, .refundsManage,
        .accessRead, .accessManage, .auditRead]

inductive OperatorStatus where
  | active | suspended
deriving DecidableEq

inductive AdminTokenStatus where
  | active | revoked
deriving DecidableEq

structure AdminOperator where
  id : Id
  displayName : String
  role : AdminRole
  status : OperatorStatus := .active

structure AdminToken where
  id : Id
  operatorId : Id
  tokenHash : String
  label : String
  status : AdminTokenStatus := .active
  expiresAt : Option Time := none
  revokedAt : Option Time := none

/-- Who a request acts for; the deployment's own token stands for no operator. -/
structure AdminPrincipal where
  operatorId : Option Id
  displayName : String
  role : AdminRole
  tokenId : Option Id

inductive AccessRequest where
  | createOperator (displayName : String) (role : AdminRole)
  | updateOperator (operatorId : Id) (displayName : Option String) (role : Option AdminRole)
      (status : Option OperatorStatus)
  | createToken (operatorId : Id) (label : String) (expiresAt : Option Time)
  | revokeToken (operatorId tokenId : Id)

/-- A request that went through: the token it presented, who that stood for, and the identifier it
drew. -/
structure AccessChange where
  presented : Option String
  principal : AdminPrincipal
  request : AccessRequest
  drawn : Id

structure AdminAudit where
  actorId : Option Id
  actorName : String
  action : String
  resourceId : Id
  tokenId : Option Id

instance : Keyed AdminOperator Id := ⟨AdminOperator.id⟩
instance : Keyed AdminToken Id := ⟨AdminToken.id⟩

structure AccessDb where
  operators : Table AdminOperator := .empty
  tokens : Table AdminToken := .empty
  audit : List AdminAudit := []

abbrev AccessTx (α : Type) := Tx AccessDb Failure α

structure AccessSettings where
  adminToken : String
  hashToken : String → String

/-- `uuid4` and `token_urlsafe`. -/
structure AccessDraw where
  id : Id
  token : String

namespace AdminAccessRepository

/-- The token's row joined with its operator's, where both are live. -/
def authenticate (db : AccessDb) (tokenHash : String) (now : Time) :
    Option (AdminOperator × AdminToken) :=
  (db.tokens.first? fun t =>
    t.tokenHash = tokenHash && t.status = .active && t.expiresAt.all (now < ·)).bind fun t =>
      ((db.operators.find? t.operatorId).filter fun o => o.status = .active).map fun o => (o, t)

def operator (operatorId : Id) : AccessTx (Option AdminOperator) :=
  Tx.read (·.operators.find? operatorId)

def createOperator (operatorId : Id) (displayName : String) (role : AdminRole) : AccessTx Unit := do
  let taken ← operator operatorId
  Tx.ensure (taken.isSome = false) (.uniqueViolation "admin_operator_pkey")
  Tx.write fun db => { db with
    operators := db.operators.insert ⟨operatorId, displayName, role, .active⟩ }

def updateOperator (operatorId : Id) (displayName : String) (role : AdminRole)
    (status : OperatorStatus) : AccessTx Unit :=
  Tx.write fun db => { db with
    operators := db.operators.modify operatorId fun o => { o with displayName, role, status } }

def createToken (row : AdminToken) : AccessTx Unit := do
  let taken ← Tx.read fun db => (db.tokens.find? row.id).isSome
  Tx.ensure (taken = false) (.uniqueViolation "admin_api_token_pkey")
  let known ← Tx.read fun db => (db.tokens.first? fun t => t.tokenHash = row.tokenHash).isSome
  Tx.ensure (known = false) (.uniqueViolation "admin_api_token_token_hash_key")
  Tx.write fun db => { db with tokens := db.tokens.insert row }

def revoked (now : Time) (t : AdminToken) : AdminToken :=
  { t with status := .revoked, revokedAt := t.revokedAt.or (some now) }

theorem key_revoked (now : Time) (t : AdminToken) : Keyed.key (revoked now t) = Keyed.key t := rfl

/-- Whether there was a row to revoke. -/
def revokeToken (operatorId tokenId : Id) (now : Time) : AccessTx Bool := do
  let row ← Tx.read fun db => (db.tokens.find? tokenId).filter fun t => t.operatorId = operatorId
  Tx.onlyIf (row.isSome = true)
    (Tx.write fun db => { db with
      tokens := db.tokens.modify tokenId (revoked now) (key_revoked now) })
  pure row.isSome

def writeAudit (row : AdminAudit) : AccessTx Unit :=
  Tx.write fun db => { db with audit := row :: db.audit }

end AdminAccessRepository

namespace AdminAccessService

def authenticate (settings : AccessSettings) (token : Option String) (now : Time) :
    AccessTx AdminPrincipal := do
  let token ← Tx.require (token.filter (· ≠ "")) (.serviceError 401 "missing admin credential")
  if token = settings.adminToken then pure ⟨none, "应急超级管理员", .owner, none⟩
  else do
    let found ← Tx.read fun db =>
      AdminAccessRepository.authenticate db (settings.hashToken token) now
    let row ← Tx.require found (.serviceError 401 "invalid or expired admin credential")
    pure ⟨some row.1.id, row.1.displayName, row.1.role, some row.2.id⟩

/-- `require`. -/
def requirePermission (principal : AdminPrincipal) (permission : AdminPermission) :
    AccessTx AdminPrincipal := do
  Tx.ensure (permission ∈ principal.role.permissions) (.serviceError 403 "permission required")
  pure principal

def updateOperator (operatorId : Id) (displayName : Option String) (role : Option AdminRole)
    (status : Option OperatorStatus) : AccessTx Unit := do
  let found ← AdminAccessRepository.operator operatorId
  let current ← Tx.require found (.serviceError 404 "operator not found")
  AdminAccessRepository.updateOperator operatorId (displayName.getD current.displayName)
    (role.getD current.role) (status.getD current.status)

def createToken (settings : AccessSettings) (operatorId : Id) (label : String)
    (expiresAt : Option Time) (draw : AccessDraw) (now : Time) : AccessTx Unit := do
  Tx.ensure (expiresAt.all (now < ·) = true) (.serviceError 422 "expiresAt must be in the future")
  let found ← AdminAccessRepository.operator operatorId
  let _ ← Tx.require found (.serviceError 404 "operator not found")
  AdminAccessRepository.createToken
    { id := draw.id, operatorId, tokenHash := settings.hashToken draw.token, label, expiresAt }

def revokeToken (operatorId tokenId : Id) (now : Time) : AccessTx Unit := do
  let there ← AdminAccessRepository.revokeToken operatorId tokenId now
  Tx.ensure (there = true) (.serviceError 404 "admin token not found")

/-- The second transaction of a request. -/
def change (settings : AccessSettings) (draw : AccessDraw) (now : Time) :
    AccessRequest → AccessTx Unit
  | .createOperator displayName role =>
      AdminAccessRepository.createOperator draw.id displayName role
  | .updateOperator operatorId displayName role status =>
      updateOperator operatorId displayName role status
  | .createToken operatorId label expiresAt =>
      createToken settings operatorId label expiresAt draw now
  | .revokeToken operatorId tokenId => revokeToken operatorId tokenId now

end AdminAccessService

namespace AccessChange

def action : AccessRequest → String
  | .createOperator _ _ => "admin.operator.create"
  | .updateOperator _ _ _ _ => "admin.operator.update"
  | .createToken _ _ _ => "admin.token.create"
  | .revokeToken _ _ => "admin.token.revoke"

def resourceId (c : AccessChange) : Id :=
  match c.request with
  | .createOperator _ _ => c.drawn
  | .updateOperator operatorId _ _ _ | .createToken operatorId _ _ | .revokeToken operatorId _ =>
      operatorId

def tokenId (c : AccessChange) : Option Id :=
  match c.request with
  | .createToken _ _ _ => some c.drawn
  | .revokeToken _ tokenId => some tokenId
  | _ => none

/-- What a route records of a request that went through. -/
def audit (c : AccessChange) : AdminAudit :=
  ⟨c.principal.operatorId, c.principal.displayName, action c.request, c.resourceId, c.tokenId⟩

end AccessChange

/-- A request that was let in with a token, and what it has changed and not recorded yet. -/
structure AccessCall where
  presented : Option String
  principal : AdminPrincipal
  request : AccessRequest
  changed : Option AccessChange := none

/-- The tables, the clock and the requests under way; beside them every change there has been, the
latest first, and those whose request broke off before it was recorded. -/
structure AccessSystem where
  db : AccessDb := {}
  now : Time := 0
  calls : List AccessCall := []
  changes : List AccessChange := []
  lost : List AccessChange := []

inductive AccessAction where
  | arrive (token : Option String) (request : AccessRequest)
  | change (call : Nat) (draw : AccessDraw)
  | record (call : Nat)
  | breakOff (call : Nat)
  | wait (span : Nat)

namespace AccessSystem
open AdminAccessService

def arrive (settings : AccessSettings) (s : AccessSystem) (token : Option String)
    (request : AccessRequest) : AccessSystem :=
  match (do let principal ← authenticate settings token s.now
            requirePermission principal .accessManage : AccessTx AdminPrincipal) s.db with
  | .ok (principal, _) => { s with calls := ⟨token, principal, request, none⟩ :: s.calls }
  | .error _ => s

def changeOf (settings : AccessSettings) (s : AccessSystem) (call : Nat) (draw : AccessDraw)
    (c : AccessCall) : AccessSystem :=
  if c.changed.isSome then s
  else
    match AdminAccessService.change settings draw s.now c.request s.db with
    | .ok (_, db) =>
        let change : AccessChange := ⟨c.presented, c.principal, c.request, draw.id⟩
        { s with
          db, calls := { c with changed := some change } :: s.calls.eraseIdx call
          changes := change :: s.changes }
    | .error _ => { s with calls := s.calls.eraseIdx call }

def record (s : AccessSystem) (call : Nat) (change : AccessChange) : AccessSystem :=
  { s with
    db := Tx.leave (AdminAccessRepository.writeAudit change.audit) s.db
    calls := s.calls.eraseIdx call }

def next (settings : AccessSettings) (s : AccessSystem) : AccessAction → AccessSystem
  | .arrive token request => s.arrive settings token request
  | .change call draw => s.calls[call]?.elim s (s.changeOf settings call draw)
  | .record call => (s.calls[call]?.bind (·.changed)).elim s (s.record call)
  | .breakOff call =>
      { s with
        calls := s.calls.eraseIdx call
        lost := (s.calls[call]?.bind (·.changed)).toList ++ s.lost }
  | .wait span => { s with now := s.now + span }

def machine (settings : AccessSettings) : Machine AccessSystem AccessAction Unit where
  next s a := (s.next settings a, ())

end AccessSystem
end CoffeeCloud
