import CoffeeCloud.Library.Script
import CoffeeCloud.Schema

/-!
The members of a merchant: who a session acts for, and the requests that change
membership. Every request is a transaction of its own, statement by statement. The
advisory key of a tenant fences its membership; what rate limits and mail settings
refuse is refused before, and the mail itself is left out.
-/
namespace CoffeeCloud
open Library

inductive AccountStatus where
  | active | suspended
deriving DecidableEq, Repr

inductive Role where
  | owner | operator | finance
deriving DecidableEq, Repr

inductive Permission where
  | dashboardRead | devicesRead | devicesManage | devicesClaim | devicesTransfer | commandsExecute
  | storesRead | storesManage | ordersRead | refundsManage | pricesRead | pricesManage
  | inventoryRead | inventoryManage | costsRead | costsManage | reportsRead | reportsExport
  | membersRead | membersManage | paymentsRead | paymentsManage | tenantManage | auditRead
deriving DecidableEq, Repr

inductive InvitationStatus where
  | pending | accepted | revoked
deriving DecidableEq, Repr

inductive ActionPurpose where
  | verify | reset | invite
deriving DecidableEq, Repr

structure StoreScope where
  all : Bool := true
  storeIds : List Id := []
deriving DecidableEq

structure MerchantUser where
  id : Id
  email : Option String
  username : Option String := none
  displayName : String
  status : AccountStatus := .active
  verifiedAt : Option Time := none

structure Tenant where
  id : Id
  status : AccountStatus := .active

structure Member where
  id : Id
  tenantId : Id
  userId : Id
  role : Role
  status : AccountStatus := .active
  storeScope : StoreScope := {}
  version : Nat := 1

structure MerchantSession where
  id : Id
  tokenHash : String
  csrfToken : String
  userId : Id
  memberId : Id
  expiresAt : Time
  revokedAt : Option Time := none
  reauthenticatedAt : Time

structure MerchantStore where
  id : Id
  tenantId : Id

structure EmailAction where
  id : Id
  tokenHash : String
  purpose : ActionPurpose
  expiresAt : Time
  consumedAt : Option Time := none

structure Invitation where
  id : Id
  tenantId : Id
  email : String
  role : Role
  storeScope : StoreScope
  status : InvitationStatus := .pending
  actionId : Id
  expiresAt : Time

structure MerchantAudit where
  tenantId : Id
  actorId : Id
  action : String
  resourceType : String

instance : Keyed MerchantUser Id := ⟨MerchantUser.id⟩
instance : Keyed Tenant Id := ⟨Tenant.id⟩
instance : Keyed Member Id := ⟨Member.id⟩
instance : Keyed MerchantSession Id := ⟨MerchantSession.id⟩
instance : Keyed MerchantStore Id := ⟨MerchantStore.id⟩
instance : Keyed EmailAction Id := ⟨EmailAction.id⟩
instance : Keyed Invitation Id := ⟨Invitation.id⟩

structure MerchantDb where
  users : Table MerchantUser := .empty
  tenants : Table Tenant := .empty
  members : Table Member := .empty
  sessions : Table MerchantSession := .empty
  stores : Table MerchantStore := .empty
  actions : Table EmailAction := .empty
  invitations : Table Invitation := .empty
  audit : List MerchantAudit := []

/-- What the requests lock: advisory keys, rows, and the entries of unique indexes. -/
inductive MerchantResource where
  | advisory (key : Int)
  | user (id : Id)
  | email (address : String)
  | tenant (id : Id)
  | member (id : Id)
  | membership (tenantId userId : Id)
  | session (id : Id)
  | action (id : Id)
  | actionToken (tokenHash : String)
  | invitation (id : Id)
deriving DecidableEq

abbrev MerchantLock := Lock MerchantResource

abbrev MerchantScript (α : Type) := Script MerchantDb MerchantResource Failure α

structure MerchantSettings where
  tokenHash : String → String
  advisoryKey : String → Int
  enabled : Bool := true
  mailReady : Bool := true
  limitedRelease : Bool := false

/-- The clock and the new identifiers of a request. -/
structure MerchantFresh where
  now : Time
  userId : Id
  memberId : Id
  actionId : Id
  actionToken : String
  invitationId : Id
  csrfToken : String

/-- The rights a session acts with, as they were read. -/
structure MerchantPrincipal where
  sessionId : Id
  csrfToken : String
  reauthenticatedAt : Time
  userId : Id
  displayName : String
  memberId : Id
  tenantId : Id
  role : Role
  storeScope : StoreScope
  memberVersion : Nat

/-- What a request sends of a store scope; an identifier that is no uuid is missing. -/
structure ScopeRequest where
  mode : String
  storeIds : List (Option Id)

structure MemberRequest where
  version : Option Nat
  role : Option String := none
  status : Option String := none
  storeScope : Option (Option ScopeRequest) := none

structure InviteRequest where
  email : Option String
  role : Option String
  storeScope : Option (Option ScopeRequest) := none

structure AcceptRequest where
  token : Option String
  displayName : Option String := none
  passwordValid : Bool := true

/-- The cookie and the header of a request. -/
structure Credentials where
  token : Option String
  csrf : Option String

namespace MerchantService
open Script

def rolePermissions : Role → List Permission
  | .owner => [.dashboardRead, .devicesRead, .devicesManage, .devicesClaim, .devicesTransfer,
      .commandsExecute, .storesRead, .storesManage, .ordersRead, .refundsManage, .pricesRead,
      .pricesManage, .inventoryRead, .inventoryManage, .costsRead, .costsManage, .reportsRead,
      .reportsExport, .membersRead, .membersManage, .paymentsRead, .paymentsManage, .tenantManage,
      .auditRead]
  | .operator => [.dashboardRead, .devicesRead, .devicesManage, .commandsExecute, .storesRead,
      .ordersRead, .pricesRead, .inventoryRead, .inventoryManage]
  | .finance => [.dashboardRead, .devicesRead, .storesRead, .ordersRead, .costsRead, .reportsRead,
      .reportsExport, .pricesRead, .inventoryRead]

def permissions (settings : MerchantSettings) (role : Role) : List Permission :=
  if settings.limitedRelease then
    (rolePermissions role).filter (· ∉ [.devicesTransfer, .paymentsManage, .commandsExecute])
  else rolePermissions role

def parseRole : String → Option Role
  | "OWNER" => some .owner
  | "OPERATOR" => some .operator
  | "FINANCE" => some .finance
  | _ => none

def parseStatus : String → Option AccountStatus
  | "ACTIVE" => some .active
  | "SUSPENDED" => some .suspended
  | _ => none

def memberKey (settings : MerchantSettings) (tenantId : Id) : Int :=
  settings.advisoryKey s!"member:{tenantId}"

variable (settings : MerchantSettings) (new : MerchantFresh)

/-- `_principal`: the session, its user, its member and its tenant, all of them in force. -/
def principalRow (db : MerchantDb) (token : String) : Option MerchantPrincipal := do
  let s ← db.sessions.first? fun s =>
    s.tokenHash = settings.tokenHash token ∧ new.now < s.expiresAt ∧ s.revokedAt = none
  let u ← (db.users.find? s.userId).filter fun u =>
    u.status = .active ∧ (u.verifiedAt.isSome ∨ u.username.isSome)
  let m ← (db.members.find? s.memberId).filter fun m => m.userId = u.id ∧ m.status = .active
  let t ← (db.tenants.find? m.tenantId).filter fun t => t.status = .active
  pure {
    sessionId := s.id, csrfToken := s.csrfToken, reauthenticatedAt := s.reauthenticatedAt
    userId := u.id, displayName := u.displayName
    memberId := m.id, tenantId := t.id, role := m.role, storeScope := m.storeScope
    memberVersion := m.version }

def principalLocks (db : MerchantDb) (token : String) : List MerchantLock :=
  match principalRow settings new db token with
  | none => []
  | some p => [⟨.session p.sessionId, .shared⟩, ⟨.user p.userId, .shared⟩,
      ⟨.member p.memberId, .shared⟩, ⟨.tenant p.tenantId, .shared⟩]

def principal (token : Option String) : MerchantScript MerchantPrincipal := do
  ensure settings.enabled (.serviceError 503 "NOT_CONFIGURED")
  let token ← require (token.filter fun t => t ≠ "" ∧ t.length ≤ 128)
    (.serviceError 401 "SESSION_INVALID")
  let row ← selectFor (principalLocks settings new · token) (principalRow settings new · token)
  require row (.serviceError 401 "SESSION_INVALID")

/-- The tenant of the session, before anything is locked. -/
def sessionTenant (db : MerchantDb) (tokenHash : String) : Option Id := do
  let s ← db.sessions.first? fun s => s.tokenHash = tokenHash
  let m ← db.members.find? s.memberId
  pure m.tenantId

def fence (permission : Option Permission) : Option Id → MerchantScript Unit
  | none => pure ()
  | some tenantId => lock ⟨.advisory (memberKey settings tenantId),
      if permission = some .membersManage then .exclusive else .shared⟩

def identity (credentials : Credentials) (permission : Option Permission) (sensitive : Bool) :
    MerchantScript MerchantPrincipal := do
  let hint ← select fun db => sessionTenant db (settings.tokenHash (credentials.token.getD ""))
  fence settings permission hint
  let p ← principal settings new credentials.token
  ensure (∀ tenantId ∈ hint, p.tenantId = tenantId) (.serviceError 409 "SESSION_CHANGED")
  ensure (∀ needed ∈ permission, needed ∈ permissions settings p.role)
    (.serviceError 403 "FORBIDDEN")
  ensure (∀ csrf ∈ credentials.csrf, p.csrfToken = csrf) (.serviceError 403 "CSRF_INVALID")
  ensure (sensitive → new.now - seconds 600 ≤ p.reauthenticatedAt)
    (.serviceError 403 "REAUTH_REQUIRED")
  pure p

def record (p : MerchantPrincipal) (action resourceType : String) : MerchantScript Unit :=
  change (fun _ => []) fun _ db => { db with
    audit := db.audit ++ [⟨p.tenantId, p.userId, action, resourceType⟩] }

/-- `_scope`: a scope names stores of the tenant only. -/
def scope (p : MerchantPrincipal) (data : Option ScopeRequest) : MerchantScript StoreScope := do
  let data ← require (data.filter fun d => d.mode = "ALL" ∨ d.mode = "SELECTED")
    (.serviceError 422 "INVALID_SCOPE")
  let ids ← require (data.storeIds.mapM id) (.serviceError 404 "NOT_FOUND")
  let found ← select fun db => ids.all fun i =>
    (db.stores.find? i).any fun s => s.tenantId = p.tenantId
  ensure found (.serviceError 404 "NOT_FOUND")
  pure ⟨data.mode = "ALL", if data.mode = "SELECTED" then ids else []⟩

def memberRow (db : MerchantDb) (tenantId memberId : Id) : Option Member :=
  (db.members.find? memberId).filter fun m => m.tenantId = tenantId

def owners (db : MerchantDb) (tenantId : Id) : List Member :=
  db.members.rows.filter fun m => m.tenantId = tenantId ∧ m.role = .owner ∧ m.status = .active

def sessionsOf (db : MerchantDb) (memberId : Id) : List Id :=
  (db.sessions.rows.filter fun s => s.memberId = memberId ∧ s.revokedAt = none).map (·.id)

def revokeSessions (memberId : Id) : MerchantScript Unit :=
  change (fun db => (sessionsOf db memberId).map fun i => ⟨.session i, .exclusive⟩)
    fun view db => { db with
      sessions := db.sessions.modifyWhere (fun s => s.id ∈ sessionsOf view memberId)
        fun s => { s with revokedAt := some new.now } }

/-- The scope asked for, or the one there is. -/
def newScope (p : MerchantPrincipal) (row : Member) :
    Option (Option ScopeRequest) → MerchantScript StoreScope
  | none => pure row.storeScope
  | some asked => scope p asked

def updateMember (credentials : Credentials) (memberId : Id) (data : MemberRequest) :
    MerchantScript (MerchantPrincipal × Member) := do
  let p ← identity settings new credentials (some .membersManage) true
  let found ← selectFor
    (fun db => (memberRow db p.tenantId memberId).toList.map fun m => ⟨.member m.id, .exclusive⟩)
    fun db => memberRow db p.tenantId memberId
  let row ← require found (.serviceError 404 "NOT_FOUND")
  ensure (data.version = some row.version) (.serviceError 409 "VERSION_CONFLICT")
  let role ← require (match data.role with | none => some row.role | some r => parseRole r)
    (.serviceError 422 "INVALID_ROLE")
  let status ← require (match data.status with | none => some row.status | some s => parseStatus s)
    (.serviceError 422 "INVALID_ROLE")
  let n ← select fun db => (owners db p.tenantId).length
  ensure (¬ (row.role = .owner ∧ row.status = .active ∧ (role ≠ .owner ∨ status ≠ .active) ∧ n ≤ 1))
    (.serviceError 409 "LAST_OWNER")
  let scope ← newScope p row data.storeScope
  change (fun _ => [⟨.member row.id, .exclusive⟩]) fun _ db => { db with
    members := db.members.modify row.id fun m =>
      { m with role, status, storeScope := scope, version := m.version + 1 } }
  revokeSessions new row.id
  record p "member.update" "member"
  pure (p, { row with role, status, storeScope := scope, version := row.version + 1 })

def pendingInvitation (db : MerchantDb) (tenantId : Id) (email : String) : Option Invitation :=
  db.invitations.first? fun i => i.tenantId = tenantId ∧ i.email = email ∧ i.status = .pending

def expiredInvitations (db : MerchantDb) (tenantId : Id) (email : String) : List Id :=
  (db.invitations.rows.filter fun i =>
    i.tenantId = tenantId ∧ i.email = email ∧ i.status = .pending ∧ i.expiresAt ≤ new.now).map (·.id)

/-- The outcome of `invite` is the invitation. -/
def invite (credentials : Credentials) (data : InviteRequest) :
    MerchantScript (MerchantPrincipal × Id) := do
  ensure settings.enabled (.serviceError 503 "NOT_CONFIGURED")
  ensure settings.mailReady (.serviceError 503 "MAIL_UNAVAILABLE")
  let email ← require data.email (.serviceError 422 "INVALID_EMAIL")
  let role ← require (data.role.bind parseRole) (.serviceError 422 "INVALID_ROLE")
  let p ← identity settings new credentials (some .membersManage) true
  let scope ← scope p (data.storeScope.getD (some ⟨"SELECTED", []⟩))
  lock ⟨.advisory (settings.advisoryKey s!"invite:{p.tenantId}{email}"), .exclusive⟩
  change (fun db => (expiredInvitations new db p.tenantId email).map fun i =>
      ⟨.invitation i, .exclusive⟩)
    fun view db => { db with
      invitations := db.invitations.modifyWhere
        (fun i => i.id ∈ expiredInvitations new view p.tenantId email)
        fun i => { i with status := .revoked } }
  let there ← select fun db => pendingInvitation db p.tenantId email
  ensure there.isNone (.serviceError 409 "INVITATION_EXISTS")
  let expiresAt := new.now + seconds 259200
  insert [⟨.action new.actionId, .exclusive⟩, ⟨.actionToken new.actionToken, .exclusive⟩]
    (fun db => (db.actions.find? new.actionId).isSome ∨
      db.actions.rows.any fun a => a.tokenHash = settings.tokenHash new.actionToken)
    (fun db => { db with
      actions := db.actions.insert
        { id := new.actionId, tokenHash := settings.tokenHash new.actionToken, purpose := .invite
          expiresAt } })
    (.uniqueViolation "merchant_email_action")
  insert [⟨.invitation new.invitationId, .exclusive⟩]
    (fun db => (db.invitations.find? new.invitationId).isSome ∨
      (pendingInvitation db p.tenantId email).isSome)
    (fun db => { db with
      invitations := db.invitations.insert
        { id := new.invitationId, tenantId := p.tenantId, email, role, storeScope := scope
          actionId := new.actionId, expiresAt } })
    (.uniqueViolation "merchant_invitation")
  record p "invitation.create" "invitation"
  pure (p, new.invitationId)

def consume (actionId : Id) : MerchantScript Unit :=
  change (fun _ => [⟨.action actionId, .exclusive⟩]) fun _ db => { db with
    actions := db.actions.modify actionId fun a => { a with consumedAt := some new.now } }

def setInvitation (invitationId : Id) (status : InvitationStatus) (db : MerchantDb) : MerchantDb :=
  { db with invitations := db.invitations.modify invitationId fun i => { i with status } }

def revocable (db : MerchantDb) (tenantId invitationId : Id) : Option Invitation :=
  (db.invitations.find? invitationId).filter fun i => i.tenantId = tenantId ∧ i.status = .pending

def revokeInvitation (credentials : Credentials) (invitationId : Id) :
    MerchantScript MerchantPrincipal := do
  let p ← identity settings new credentials (some .membersManage) false
  let found ← selectFor
    (fun db => (revocable db p.tenantId invitationId).toList.map fun i =>
      ⟨.invitation i.id, .exclusive⟩)
    fun db => revocable db p.tenantId invitationId
  let row ← require found (.serviceError 404 "NOT_FOUND")
  change (fun _ => []) fun _ db => setInvitation row.id .revoked db
  consume new row.actionId
  record p "invitation.revoke" "invitation"
  pure p

def unconsumed (db : MerchantDb) (tokenHash : String) (purpose : ActionPurpose) :
    Option EmailAction :=
  db.actions.first? fun a => a.tokenHash = tokenHash ∧ a.purpose = purpose ∧
    new.now < a.expiresAt ∧ a.consumedAt = none

/-- `_consume_action`: an action is used once. -/
def consumeAction (token : Option String) (purpose : ActionPurpose) :
    MerchantScript EmailAction := do
  let token ← require (token.filter fun t => t.length ≤ 128) (.serviceError 409 "TOKEN_INVALID")
  let found ← selectFor
    (fun db => (unconsumed new db (settings.tokenHash token) purpose).toList.map fun a =>
      ⟨.action a.id, .exclusive⟩)
    fun db => unconsumed new db (settings.tokenHash token) purpose
  let row ← require found (.serviceError 409 "TOKEN_INVALID")
  consume new row.id
  pure row

def acceptable (db : MerchantDb) (actionId : Id) : Option Invitation :=
  db.invitations.first? fun i => i.actionId = actionId ∧ i.status = .pending ∧ new.now < i.expiresAt

def userByEmail (db : MerchantDb) (email : String) : Option MerchantUser :=
  db.users.first? fun u => u.email = some email

/-- Who accepts: the user of the address, signed in, or a new one. -/
def accepting (credentials : Credentials) (email : String) (data : AcceptRequest) :
    Option MerchantUser → MerchantScript Id
  | some user => do
      let p ← principal settings new credentials.token
      ensure (p.userId = user.id ∧ credentials.csrf = some p.csrfToken)
        (.serviceError 403 "INVITATION_ACCOUNT_MISMATCH")
      pure user.id
  | none => do
      let displayName ← require data.displayName (.serviceError 422 "INVALID_FIELD")
      ensure data.passwordValid (.serviceError 422 "INVALID_PASSWORD")
      insert [⟨.user new.userId, .exclusive⟩, ⟨.email email, .exclusive⟩]
        (fun db => (db.users.find? new.userId).isSome ∨ (userByEmail db email).isSome)
        (fun db => { db with
          users := db.users.insert
            { id := new.userId, email := some email, displayName, verifiedAt := some new.now } })
        (.uniqueViolation "merchant_user")
      pure new.userId

def acceptInvitation (credentials : Credentials) (data : AcceptRequest) :
    MerchantScript Unit := do
  let action ← consumeAction settings new data.token .invite
  let found ← selectFor
    (fun db => (acceptable new db action.id).toList.map fun i => ⟨.invitation i.id, .exclusive⟩)
    fun db => acceptable new db action.id
  let inv ← require found (.serviceError 409 "TOKEN_INVALID")
  let tenant ← select fun db => (db.tenants.find? inv.tenantId).filter fun t => t.status = .active
  let _ ← require tenant (.serviceError 409 "TOKEN_INVALID")
  let user ← selectFor
    (fun db => (userByEmail db inv.email).toList.map fun u => ⟨.user u.id, .exclusive⟩)
    fun db => userByEmail db inv.email
  let userId ← accepting settings new credentials inv.email data user
  let member : Member :=
    { id := new.memberId, tenantId := inv.tenantId, userId, role := inv.role
      storeScope := inv.storeScope }
  let free ← selectFor
    (fun _ => [⟨.membership inv.tenantId userId, .exclusive⟩])
    fun db => !db.members.rows.any fun m => m.tenantId = inv.tenantId ∧ m.userId = userId
  -- `on conflict do nothing` inserts no row.
  ensure free (.serviceError 409 "ALREADY_MEMBER")
  insert [⟨.member new.memberId, .exclusive⟩] (fun db => (db.members.find? new.memberId).isSome)
    (fun db => { db with members := db.members.insert member })
    (.uniqueViolation "merchant_member_pkey")
  change (fun _ => []) fun _ db => setInvitation inv.id .accepted db

def switchTarget (db : MerchantDb) (userId membershipId : Id) : Option Member := do
  let m ← (db.members.find? membershipId).filter fun m => m.userId = userId ∧ m.status = .active
  let _ ← (db.tenants.find? m.tenantId).filter fun t => t.status = .active
  pure m

def switchTenant (credentials : Credentials) (membershipId : Id) :
    MerchantScript MerchantPrincipal := do
  let p ← identity settings new credentials none false
  let found ← select fun db => switchTarget db p.userId membershipId
  let member ← require found (.serviceError 404 "NOT_FOUND")
  change (fun _ => [⟨.session p.sessionId, .exclusive⟩]) fun _ db => { db with
    sessions := db.sessions.modify p.sessionId fun s =>
      { s with memberId := member.id, csrfToken := new.csrfToken } }
  principal settings new credentials.token

end MerchantService
end CoffeeCloud
