import CoffeeCloud.Interleavings.Holdings

/-!
Requests about ownership that overlap. A row lock on a device protects what is held
of it, the lock on a code protects whether it was used, and the advisory key of an
operation protects its answer; each request keeps the accounts of ownership in step
under the locks it takes, so they are in step whatever requests overlap.
-/
namespace CoffeeCloud
open Library AssetRequests

def OwnedTerminal.stake (t : OwnedTerminal) : Stake :=
  ⟨t.tenantId, t.ownershipVersion, t.ownershipFrozen⟩

def OwnershipInterval.tenure (o : OwnershipInterval) : Tenure :=
  ⟨o.tenantId, decide (o.validUntil = none)⟩

def DeviceTransfer.ticket (x : DeviceTransfer) : TransferTicket :=
  ⟨x.terminalId, x.ownershipVersion, x.status.active⟩

def DeviceClaim.code (k : DeviceClaim) : OwnershipCode := ⟨k.codeHash, decide (k.consumedAt ≠ none)⟩

def PairingCode.code (k : PairingCode) : OwnershipCode := ⟨k.codeHash, decide (k.status ≠ .pending)⟩

namespace AssetDb

def codes (claims : Table DeviceClaim) (pairings : Table PairingCode) :
    Bool × Id → Option OwnershipCode
  | (true, k) => pairings.view PairingCode.code k
  | (false, k) => claims.view DeviceClaim.code k

/-- What the rows say of who holds what. -/
def holdings (db : AssetDb) : Holdings where
  stake := db.terminals.view OwnedTerminal.stake
  tenure := db.intervals.view OwnershipInterval.tenure
  ticket := db.transfers.view DeviceTransfer.ticket
  code := codes db.claims db.pairings
  answered := db.operations.view MerchantOperation.response

theorem codes_claims {claims claims' : Table DeviceClaim} {pairings : Table PairingCode} {k : Id}
    {c : OwnershipCode} (h : claims'.view DeviceClaim.code = put (claims.view DeviceClaim.code) k c) :
    codes claims' pairings = put (codes claims pairings) (false, k) c := by
  funext ⟨p, j⟩
  cases p with
  | true => exact (put_of_ne (by simp)).symm
  | false =>
      refine (congrFun h j).trans ?_
      simp only [put_apply, Prod.mk.injEq, true_and]
      rfl

theorem codes_pairings {claims : Table DeviceClaim} {pairings pairings' : Table PairingCode} {k : Id}
    {c : OwnershipCode}
    (h : pairings'.view PairingCode.code = put (pairings.view PairingCode.code) k c) :
    codes claims pairings' = put (codes claims pairings) (true, k) c := by
  funext ⟨p, j⟩
  cases p with
  | false => exact (put_of_ne (by simp)).symm
  | true =>
      refine (congrFun h j).trans ?_
      simp only [put_apply, Prod.mk.injEq, true_and]
      rfl

section Writes
variable {db : AssetDb} {i : Id}

/-- A terminal is written, but not whose it is. -/
theorem holdings_tended {f : OwnedTerminal → OwnedTerminal}
    (hf : ∀ r, Keyed.key (f r) = Keyed.key r) (same : ∀ t, (f t).stake = t.stake) :
    ({ db with terminals := db.terminals.modify i f hf } : AssetDb).holdings = db.holdings := by
  simp only [holdings, Table.view_modify_same _ hf fun t _ => same t]

theorem holdings_registered {t : OwnedTerminal} (new : db.terminals.find? t.id = none) :
    ({ db with terminals := db.terminals.insert t } : AssetDb).holdings =
      { db.holdings with stake := put db.holdings.stake t.id t.stake } := by
  simp only [holdings, Table.view_insert _ (r := t) new]
  rfl

theorem holdings_interval {o : OwnershipInterval}
    (new : db.intervals.find? (o.terminalId, o.version) = none) :
    ({ db with intervals := db.intervals.insert o } : AssetDb).holdings =
      { db.holdings with
        tenure := put db.holdings.tenure (o.terminalId, o.version) o.tenure } := by
  simp only [holdings, Table.view_insert _ (r := o) new]
  rfl

theorem holdings_interval_taken {o : OwnershipInterval}
    (taken : db.intervals.find? (o.terminalId, o.version) ≠ none) :
    ({ db with intervals := db.intervals.insert o } : AssetDb).holdings = db.holdings := by
  rw [Table.insert_of_taken taken]

theorem view_ended (i : Id) (closed : OwnershipInterval → OwnershipInterval)
    (hf : ∀ r, Keyed.key (closed r) = Keyed.key r)
    (ended : ∀ o, (closed o).tenure = ⟨o.tenantId, false⟩) :
    (db.intervals.modifyWhere (fun o => o.terminalId = i ∧ o.validUntil = none) closed hf).view
      OwnershipInterval.tenure = db.holdings.ended i := by
  funext key
  rw [Table.view_modifyWhere, Holdings.ended]
  cases found : db.intervals.find? key with
  | none => simp [holdings, Table.view, found]
  | some o =>
      have named : (o.terminalId, o.version) = key := Table.key_of_find? found
      have here : key.1 = o.terminalId := named ▸ rfl
      by_cases mine : o.terminalId = i
      · by_cases current : o.validUntil = none
        · rw [Option.map_some, if_pos (by simp [mine, current]), ended]
          simp [holdings, Table.view, found, here, mine, OwnershipInterval.tenure]
        · simp [holdings, Table.view, found, mine, current, here, OwnershipInterval.tenure]
      · simp [holdings, Table.view, found, mine, here, OwnershipInterval.tenure]

theorem holdings_handedOver {s : Stake} {o : OwnershipInterval}
    {f : OwnedTerminal → OwnedTerminal} {closed : OwnershipInterval → OwnershipInterval}
    (hf : ∀ r, Keyed.key (f r) = Keyed.key r) (hc : ∀ r, Keyed.key (closed r) = Keyed.key r)
    (mine : db.holdings.stake i = some s)
    (moved : ∀ t, t.stake = s → (f t).stake = ⟨o.tenantId, s.version + 1, false⟩)
    (ended : ∀ o, (closed o).tenure = ⟨o.tenantId, false⟩)
    (key : (o.terminalId, o.version) = (i, s.version + 1)) (current : o.validUntil = none)
    (later : db.holdings.tenure (i, s.version + 1) = none) :
    ({ db with
        terminals := db.terminals.modify i f hf
        intervals := (db.intervals.modifyWhere
          (fun o => o.terminalId = i ∧ o.validUntil = none) closed hc).insert o } :
      AssetDb).holdings = db.holdings.handOver i o.tenantId s.version := by
  obtain ⟨t, found, same⟩ := (Table.view_eq_some OwnedTerminal.stake).mp mine
  have new : (db.intervals.modifyWhere (fun o => o.terminalId = i ∧ o.validUntil = none)
      closed hc).find? (o.terminalId, o.version) = none := by
    rw [key, Table.find?_modifyWhere, (Table.view_eq_none _).mp later]
    rfl
  have begun : o.tenure = ⟨o.tenantId, true⟩ := by
    rw [OwnershipInterval.tenure, current]
    rfl
  simp only [holdings, Holdings.handOver, Table.view_modify_of_some _ hf found, moved t same,
    Table.view_insert _ (r := o) new, view_ended i closed hc ended, begun]
  rw [show Keyed.key o = (i, s.version + 1) from key]

/-- An active transfer that stays active. -/
theorem holdings_forwarded {k : Id} {f : DeviceTransfer → DeviceTransfer}
    (hf : ∀ r, Keyed.key (f r) = Keyed.key r) {r : TransferTicket}
    (asked : db.holdings.ticket k = some r) (same : ∀ x, x.ticket = r → (f x).ticket = r) :
    ({ db with transfers := db.transfers.modify k f hf } : AssetDb).holdings = db.holdings := by
  obtain ⟨x, found, rfl⟩ := (Table.view_eq_some DeviceTransfer.ticket).mp asked
  simp only [holdings]
  rw [Table.view_modify_same _ hf fun x' there => ?_]
  cases found.symm.trans there
  exact same x rfl

/-- The device of a transfer, as long as it is held under the same version. -/
theorem view_freed {x : DeviceTransfer} {s : Stake} {f : OwnedTerminal → OwnedTerminal}
    (hf : ∀ r, Keyed.key (f r) = Keyed.key r)
    (mine : db.holdings.stake x.terminalId = some s) (same : s.version = x.ownershipVersion)
    (freed : ∀ t, (f t).stake = { t.stake with frozen := false }) :
    (db.terminals.modifyWhere (owned x) f hf).view OwnedTerminal.stake =
      put db.holdings.stake x.terminalId { s with frozen := false } := by
  obtain ⟨t, found, rfl⟩ := (Table.view_eq_some OwnedTerminal.stake).mp mine
  funext j
  rw [Table.view_modifyWhere]
  by_cases here : j = x.terminalId
  · subst here
    have named : t.id = x.terminalId := Table.key_of_find? found
    have under : owned x t = true := decide_eq_true ⟨named, same⟩
    rw [put_same, found, Option.map_some, if_pos under, freed]
  · rw [put_of_ne here]
    refine Option.map_congr fun t' there => ?_
    have named : t'.id = j := Table.key_of_find? there
    rw [if_neg]
    intro under
    exact here (named.symm.trans (of_decide_eq_true under).1)

theorem holdings_cancelled {x : DeviceTransfer} {s : Stake} {f : DeviceTransfer → DeviceTransfer}
    {g : OwnedTerminal → OwnedTerminal} (hf : ∀ r, Keyed.key (f r) = Keyed.key r)
    (hg : ∀ r, Keyed.key (g r) = Keyed.key r) {r : TransferTicket}
    (asked : db.holdings.ticket x.id = some r) (here : r.terminalId = x.terminalId)
    (mine : db.holdings.stake x.terminalId = some s) (same : s.version = x.ownershipVersion)
    (off : ∀ y, (f y).ticket = { y.ticket with active := false })
    (freed : ∀ t, (g t).stake = { t.stake with frozen := false }) :
    ({ db with
        transfers := db.transfers.modify x.id f hf
        terminals := db.terminals.modifyWhere (owned x) g hg } : AssetDb).holdings =
      db.holdings.thaw x.id r s := by
  obtain ⟨y, found, rfl⟩ := (Table.view_eq_some DeviceTransfer.ticket).mp asked
  simp only [holdings, Table.view_modify_of_some _ hf found, off, view_freed hg mine same freed,
    Holdings.thaw, here]

theorem holdings_frozen {x : DeviceTransfer} {s : Stake} {f : OwnedTerminal → OwnedTerminal}
    (hf : ∀ r, Keyed.key (f r) = Keyed.key r) (new : db.holdings.ticket x.id = none)
    (mine : db.holdings.stake i = some s) (asked : x.ticket = ⟨i, s.version, true⟩)
    (frozen : ∀ t, (f t).stake = { t.stake with frozen := true }) :
    ({ db with
        transfers := db.transfers.insert x
        terminals := db.terminals.modify i f hf } : AssetDb).holdings =
      db.holdings.freeze i x.id s := by
  obtain ⟨t, found, rfl⟩ := (Table.view_eq_some OwnedTerminal.stake).mp mine
  simp only [holdings, Holdings.freeze, Table.view_modify_of_some _ hf found, frozen,
    Table.view_insert _ (r := x) ((Table.view_eq_none _).mp new), asked]
  rfl

theorem holdings_operation {o : MerchantOperation}
    (new : db.operations.find? (o.tenantId, o.operation, o.key) = none) :
    ({ db with operations := db.operations.insert o } : AssetDb).holdings =
      { db.holdings with
        answered := put db.holdings.answered (o.tenantId, o.operation, o.key) o.response } := by
  simp only [holdings, Table.view_insert _ (r := o) new]
  rfl

theorem holdings_claim {k : DeviceClaim} (new : db.claims.find? k.id = none) :
    ({ db with claims := db.claims.insert k } : AssetDb).holdings =
      { db.holdings with code := put db.holdings.code (false, k.id) k.code } := by
  simp only [holdings, codes_claims (Table.view_insert DeviceClaim.code (r := k) new)]
  rfl

theorem holdings_pairing {k : PairingCode} (new : db.pairings.find? k.id = none) :
    ({ db with pairings := db.pairings.insert k } : AssetDb).holdings =
      { db.holdings with code := put db.holdings.code (true, k.id) k.code } := by
  simp only [holdings, codes_pairings (Table.view_insert PairingCode.code (r := k) new)]
  rfl

/-- Claim codes that expire are what they were. -/
theorem holdings_expired {p : DeviceClaim → Bool} {f : DeviceClaim → DeviceClaim}
    (hf : ∀ r, Keyed.key (f r) = Keyed.key r) (same : ∀ k, (f k).code = k.code) :
    ({ db with claims := db.claims.modifyWhere p f hf } : AssetDb).holdings = db.holdings := by
  simp only [holdings]
  congr 1
  funext i
  obtain ⟨q, k⟩ := i
  cases q with
  | true => rfl
  | false =>
      change (db.claims.modifyWhere p f hf).view DeviceClaim.code k = db.claims.view DeviceClaim.code k
      rw [Table.view_modifyWhere, Table.view]
      refine congrArg (fun g => (db.claims.find? k).map g) ?_
      funext r
      split
      · exact same r
      · rfl

/-- Pairing codes that are withdrawn, or one that is claimed, are used up. -/
theorem holdings_withdrawn {p : PairingCode → Bool} (used : Id → Bool) {status : PairingStatus}
    (ended : status ≠ .pending) (those : ∀ k, p k = used k.id) :
    ({ db with pairings := db.pairings.modifyWhere p fun k => { k with status } } : AssetDb).holdings =
      db.holdings.useUp fun q => q.1 && used q.2 := by
  simp only [holdings, Holdings.useUp]
  congr 1
  funext i
  obtain ⟨q, k⟩ := i
  cases q with
  | false =>
      change db.claims.view DeviceClaim.code k = (db.claims.view DeviceClaim.code k).map _
      simp
  | true =>
      change (db.pairings.modifyWhere p _ _).view PairingCode.code k =
        (db.pairings.view PairingCode.code k).map _
      rw [Table.view_modifyWhere, Table.view, Option.map_map]
      cases found : db.pairings.find? k with
      | none => rfl
      | some r =>
          have named : r.id = k := Table.key_of_find? found
          subst named
          cases on : used r.id with
          | true => simp [those, on, PairingCode.code, ended]
          | false => simp [those, on, PairingCode.code]

theorem holdings_consumed {k : Id} {f : DeviceClaim → DeviceClaim}
    (hf : ∀ r, Keyed.key (f r) = Keyed.key r) (used : ∀ c, (f c).code = ⟨c.codeHash, true⟩) :
    ({ db with claims := db.claims.modify k f hf } : AssetDb).holdings =
      db.holdings.useUp fun q => !q.1 && q.2 = k := by
  simp only [holdings, Holdings.useUp]
  congr 1
  funext i
  obtain ⟨q, j⟩ := i
  cases q with
  | true =>
      change db.pairings.view PairingCode.code j = (db.pairings.view PairingCode.code j).map _
      simp
  | false =>
      change (db.claims.modify k f hf).view DeviceClaim.code j =
        (db.claims.view DeviceClaim.code j).map _
      rw [Table.view, Table.find?_modify, Table.view, Option.map_map]
      cases found : db.claims.find? j with
      | none => simp
      | some r =>
          by_cases here : j = k
          · rw [if_pos here, Option.map_some, Option.map_some, Option.map_some, used]
            simp [here, DeviceClaim.code]
          · simp [here, DeviceClaim.code]

theorem stake_of_find? {t : OwnedTerminal} (found : db.terminals.find? i = some t) :
    db.holdings.stake i = some t.stake := Table.view_of_find? _ found

theorem find?_of_stake {s : Stake} (mine : db.holdings.stake i = some s) :
    ∃ t, db.terminals.find? i = some t ∧ t.id = i ∧ t.stake = s := by
  obtain ⟨t, found, same⟩ := (Table.view_eq_some _).mp mine
  exact ⟨t, found, Table.key_of_find? found, same⟩

end Writes
end AssetDb

namespace AssetRequests
open Script

def ownership : Discipline AssetDb AssetResource where
  inv db := db.holdings.Consistent
  always db db' := Holdings.Follows db.holdings db'.holdings
  keeps r db db' := Holdings.Keeps r db.holdings db'.holdings
  always_refl db := Holdings.follows_refl db.holdings
  always_trans h k := h.trans k
  keeps_refl r db := Holdings.keeps_refl r db.holdings
  keeps_trans h k := h.trans k

variable {held more : List AssetLock} {db t : AssetDb} {i : Id}

/-- A commit is what the accounts allow under its locks. -/
theorem commits_of_moves {α : Type} {good : α → AssetDb → AssetDb → Prop} {a : α}
    {pending : AssetDb → AssetDb}
    (h : ∀ t, ownership.Rely held db t → t.holdings.Consistent →
      Holdings.Moves held t.holdings (pending t).holdings ∧ good a t (pending t)) :
    Commits ownership good a pending held db := by
  intro t rely inv
  obtain ⟨moves, fine⟩ := h t rely inv
  exact ⟨moves.consistent, ⟨moves.follows, moves.kept⟩, fine⟩

theorem stake_kept (rely : ownership.Rely held db t) (locked : ⟨.terminal i, .exclusive⟩ ∈ held) :
    t.holdings.stake i = db.holdings.stake i := (rely.2 _ locked).1

theorem code_kept {p : Bool} {k : Id} (rely : ownership.Rely held db t)
    (locked : ⟨if p then .pairing k else .claim k, .exclusive⟩ ∈ held) :
    t.holdings.code (p, k) = db.holdings.code (p, k) := by
  cases p with
  | true => exact rely.2 _ locked
  | false => exact rely.2 _ locked

theorem answer_kept {key : OperationKey} (rely : ownership.Rely held db t)
    (locked : ⟨.operation key, .exclusive⟩ ∈ held) :
    t.holdings.answered key = db.holdings.answered key := rely.2 _ locked

theorem ticket_kept {k : Id} (rely : ownership.Rely held db t)
    (locked : ⟨.transfer k, .exclusive⟩ ∈ held) :
    t.holdings.ticket k = db.holdings.ticket k := rely.2 _ locked

/-- What a terminal is registered with. It is the platform's. -/
structure Registration where
  id : Id
  deviceId : String
  serialNumber : String
  identityKind : Option String
  lifecycleStatus : String
  provisioningStatus : String

def Registration.terminal (r : Registration) : OwnedTerminal :=
  { id := r.id, deviceId := r.deviceId, serialNumber := r.serialNumber
    identityKind := r.identityKind, lifecycleStatus := r.lifecycleStatus
    provisioningStatus := r.provisioningStatus }

/-- The requests about ownership, and what others write of the rows these read: terminals that are
registered or change their state, and stores, tenants and work. -/
inductive OwnershipOperation where
  | issueClaim (terminalId : Id)
  | claim (data : ClaimData) (key : Option String)
  | update (text : String) (version : Option Int) (asked : DeviceChange)
  | transfer (text : String) (data : TransferData) (key : Option String)
  | unbind (text : String) (data : TransferData) (header : Option String)
  | transferAction (transferId : Option Id) (version : Option Int) (action : TransferAction)
  | createSession (serialNumber : String) (proof : Except Failure Unit) (expiresAt : Time)
  | register (r : Registration) (owned : Bool)
  | tend (terminalId : Id) (identityKind : Option String) (lifecycleStatus provisioning : String)
  | office (stores : Table MerchantStore) (tenants : Table Tenant) (work : Id → PendingWork)

structure OwnershipRequest where
  p : MerchantPrincipal
  new : AssetFresh
  operation : OwnershipOperation

inductive OwnershipAnswer where
  | claimed (key : OperationKey) (code : Bool × String) (response : AssetResponse)
  | unbound (tenantId : Id) (text : String) (data : TransferData) (header : Option String)
      (response : AssetResponse)
  | served

variable (settings : AssetSettings)

def claimKey (tenantId : Id) (data : ClaimData) (key : Option String) : OperationKey :=
  (tenantId, if data.pairing then .pair else .claim, key.getD "")

def unbindOperation (tenantId : Id) (text : String) (data : TransferData) (header : Option String) :
    OperationKey :=
  (tenantId, .unbind text, unbindKey settings header data)

def perform (r : OwnershipRequest) : AssetScript OwnershipAnswer :=
  match r.operation with
  | .issueClaim terminalId => do
      issueClaim settings r.new terminalId
      pure .served
  | .claim data key => do
      let response ← claim settings r.new r.p data key
      pure (.claimed (claimKey r.p.tenantId data key)
        (data.pairing, settings.tokenHash (data.code.getD "")) response)
  | .update text version asked => do
      update r.p text version asked
      pure .served
  | .transfer text data key => do
      let _ ← transfer settings r.new r.p text data key false
      pure .served
  | .unbind text data header => do
      let response ← transfer settings r.new r.p text data (some (unbindKey settings header data)) true
      pure (.unbound r.p.tenantId text data header response)
  | .transferAction transferId version action => do
      let _ ← transferAction r.p transferId version action
      pure .served
  | .createSession serialNumber proof expiresAt => do
      createSession settings r.new serialNumber proof expiresAt
      pure .served
  | .register t owned => do
      addTerminal t.terminal
      if owned then ensureInitialOwnership t.terminal else pure ()
      pure .served
  | .tend terminalId identityKind lifecycleStatus provisioning => do
      change (fun _ => [⟨.terminal terminalId, .exclusive⟩]) fun _ db => { db with
        terminals := db.terminals.modify terminalId fun t => { t with
          identityKind, lifecycleStatus, provisioningStatus := provisioning } }
      pure .served
  | .office stores tenants work => do
      change (fun _ => []) fun _ db => { db with stores, tenants, work }
      pure .served

/-- What a claim does that is not answered again: the code is used up, and the platform's device is
the merchant's under the next version. -/
structure Taken (code : Bool × String) (tenantId i : Id) (h h' : Holdings) : Prop where
  before : ∃ s, h.stake i = some s ∧ s.tenantId = legacyTenant
  after : ∃ s, h'.stake i = some s ∧ s.tenantId = tenantId
  version : ∀ j, h'.version j = h.version j + if j = i then 1 else 0
  used : ∃ k, h.code (code.1, k) = some ⟨code.2, false⟩ ∧ h'.code (code.1, k) = some ⟨code.2, true⟩

/-- The device of the text is frozen, and the transfer that the response names is active for it. -/
def TakesEffect (text : String) (response : AssetResponse) (h : Holdings) : Prop :=
  ∃ i k status version s, deviceIdOf text = some i ∧ response = .transfer k status version ∧
    h.stake i = some s ∧ s.frozen = true ∧ h.Pending i k

/-- Nothing is stored under the key, or the transfer of what is stored is still active. -/
def Standing (key : OperationKey) (h : Holdings) : Prop :=
  ∀ response, h.answered key = some response → ∃ k status version r,
    response = .transfer k status version ∧ h.ticket k = some r ∧ r.active = true

def SameVersions (h h' : Holdings) : Prop := ∀ j, h'.version j = h.version j

/-- What a commit is to do, by its answer. -/
def Answers : OwnershipAnswer → Holdings → Holdings → Prop
  | .claimed key code response, h, h' =>
      (h.answered key = none → ∃ i, response = .device i ∧ Taken code key.1 i h h') ∧
        (h.answered key ≠ none → SameVersions h h')
  | .unbound tenantId text data header response, h, h' => SameVersions h h' ∧
      (TakesEffect text response h' ↔ Standing (unbindOperation settings tenantId text data header) h)
  | .served, h, h' => SameVersions h h'

structure Good (a : OwnershipAnswer) (db db' : AssetDb) : Prop where
  before : db.holdings.Consistent
  follows : Holdings.Follows db.holdings db'.holdings
  answers : Answers settings a db.holdings db'.holdings

end AssetRequests
end CoffeeCloud
