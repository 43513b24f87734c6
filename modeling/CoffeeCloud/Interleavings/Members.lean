import CoffeeCloud.Services.Members

/-!
Requests about membership that overlap. The exclusive advisory key of a tenant
protects the rows of its members, and a shared row lock protects the row a request
acts under; so an owner that was counted is still an owner at the commit, and the
rights a request was given are still its rights.
-/
namespace CoffeeCloud
open Library

inductive MembershipOperation where
  | updateMember (memberId : Id) (data : MemberRequest)
  | invite (data : InviteRequest)
  | revokeInvitation (invitationId : Id)
  | acceptInvitation (data : AcceptRequest)
  | switchTenant (membershipId : Id)

structure MembershipRequest where
  credentials : Credentials
  new : MerchantFresh
  operation : MembershipOperation

/-- Whether the request needed `members.manage`, and the rights it was served with. -/
inductive MembershipAnswer where
  | managed (p : MerchantPrincipal)
  | served

namespace MerchantDb

def HasOwner (tenantId : Id) (db : MerchantDb) : Prop :=
  ∃ m ∈ db.members.rows, m.tenantId = tenantId ∧ m.role = .owner ∧ m.status = .active

/-- The foreign key of sessions. -/
def Linked (db : MerchantDb) : Prop :=
  ∀ s ∈ db.sessions.rows, (db.members.find? s.memberId).isSome

/-- A member stays, with its tenant and its user, and a change of it counts its version up. -/
structure Follows (db db' : MerchantDb) : Prop where
  members : ∀ i m, db.members.find? i = some m → ∃ m', db'.members.find? i = some m' ∧
    m'.tenantId = m.tenantId ∧ m.version ≤ m'.version ∧ (m'.version = m.version → m' = m)
  tokens : ∀ s' ∈ db'.sessions.rows, ∃ s ∈ db.sessions.rows, s.tokenHash = s'.tokenHash

theorem Follows.refl (db : MerchantDb) : Follows db db :=
  ⟨fun _ m found => ⟨m, found, rfl, Nat.le_refl _, fun _ => rfl⟩, fun s mem => ⟨s, mem, rfl⟩⟩

theorem Follows.trans {a b c : MerchantDb} (h : Follows a b) (k : Follows b c) : Follows a c := by
  refine ⟨fun i m found => ?_, fun s mem => ?_⟩
  · obtain ⟨m', found', tenant, le, same⟩ := h.members i m found
    obtain ⟨m'', found'', tenant', le', same'⟩ := k.members i m' found'
    refine ⟨m'', found'', tenant'.trans tenant, le.trans le', fun eq => ?_⟩
    have middle : m' = m := same (by omega)
    exact middle ▸ same' (by omega)
  · obtain ⟨s', mem', eq⟩ := k.tokens s mem
    obtain ⟨s'', mem'', eq'⟩ := h.tokens s' mem'
    exact ⟨s'', mem'', eq'.trans eq⟩

/-- The rights of the principal are those its row has. -/
def InForce (settings : MerchantSettings) (p : MerchantPrincipal) (db : MerchantDb) : Prop :=
  ∃ m, db.members.find? p.memberId = some m ∧ m.status = .active ∧ m.role = p.role ∧
    m.version = p.memberVersion ∧ .membersManage ∈ MerchantService.permissions settings m.role

end MerchantDb

namespace MerchantService
open MerchantDb

variable (settings : MerchantSettings)

def perform (r : MembershipRequest) : MerchantScript MembershipAnswer :=
  match r.operation with
  | .updateMember memberId data => do
      let (p, _) ← updateMember settings r.new r.credentials memberId data
      pure (.managed p)
  | .invite data => do
      let (p, _) ← invite settings r.new r.credentials data
      pure (.managed p)
  | .revokeInvitation invitationId => do
      let p ← revokeInvitation settings r.new r.credentials invitationId
      pure (.managed p)
  | .acceptInvitation data => do
      acceptInvitation settings r.new r.credentials data
      pure .served
  | .switchTenant membershipId => do
      let _ ← switchTenant settings r.new r.credentials membershipId
      pure .served

/-- What a lock protects of the members. -/
def protects : MerchantResource → MerchantDb → MerchantDb → Prop
  | .advisory key, db, db' => ∀ i m, db.members.find? i = some m →
      memberKey settings m.tenantId = key → db'.members.find? i = some m
  | .member i, db, db' => db'.members.find? i = db.members.find? i
  | _, _, _ => True

def membership (tenantId : Id) : Discipline MerchantDb MerchantResource where
  inv db := db.HasOwner tenantId ∧ db.Linked
  always := Follows
  keeps := protects settings
  always_refl := Follows.refl
  always_trans := Follows.trans
  keeps_refl k db := by
    cases k with
    | advisory key => exact fun i m found _ => found
    | _ => first | rfl | trivial
  keeps_trans {k a b c} h h' := by
    cases k with
    | advisory key => exact fun i m found mine => h' i m (h i m found mine) mine
    | member i => exact Eq.trans h' h
    | _ => trivial

/-- A managing request commits under rights in force. -/
def Rightful (a : MembershipAnswer) (db db' : MerchantDb) : Prop :=
  Follows db db' ∧ ∀ p, a = .managed p → InForce settings p db

section Principal
variable {settings} {new : MerchantFresh} {db : MerchantDb} {p : MerchantPrincipal}

/-- A principal is read off the row of a member in force. -/
structure OfRow (db : MerchantDb) (p : MerchantPrincipal) (m : Member) : Prop where
  found : db.members.find? p.memberId = some m
  active : m.status = .active
  role : m.role = p.role
  version : m.version = p.memberVersion
  tenant : m.tenantId = p.tenantId

theorem principalRow_some {token : String} (h : principalRow settings new db token = some p) :
    (∃ m, OfRow db p m) ∧ ∃ s ∈ db.sessions.rows, s.tokenHash = settings.tokenHash token := by
  simp only [principalRow, bind, pure, Option.bind_eq_some_iff, Option.filter_eq_some_iff,
    decide_eq_true_eq, Option.some.injEq] at h
  obtain ⟨s, session, u, ⟨user, -⟩, m, ⟨found, owned, active⟩, t, ⟨tenant, -⟩, rfl⟩ := h
  obtain ⟨mem, matching⟩ := Table.first?_some session
  have key : m.id = s.memberId := Table.key_of_find? found
  have key' : t.id = m.tenantId := Table.key_of_find? tenant
  exact ⟨⟨m, key ▸ found, active, rfl, rfl, key'.symm⟩, s, mem, (decide_eq_true_eq.mp matching).1⟩

theorem member_locked {token : String} (h : principalRow settings new db token = some p) :
    ⟨.member p.memberId, .shared⟩ ∈ principalLocks settings new db token := by
  simp [principalLocks, h]

/-- A session that a principal is read from had a tenant before. -/
theorem sessionTenant_isSome {token : String} {earlier : MerchantDb} (linked : earlier.Linked)
    (follows : Follows earlier db) (h : principalRow settings new db token = some p) :
    (sessionTenant earlier (settings.tokenHash token)).isSome := by
  obtain ⟨-, s, mem, same⟩ := principalRow_some h
  obtain ⟨s', mem', eq⟩ := follows.tokens s mem
  cases first : earlier.sessions.first? fun s => s.tokenHash = settings.tokenHash token with
  | none =>
      have none := Table.first?_none.mp first s' mem'
      rw [decide_eq_false_iff_not] at none
      exact absurd (eq.trans same) none
  | some s'' =>
      have row := linked s'' (Table.first?_some first).1
      obtain ⟨m, found⟩ := Option.isSome_iff_exists.mp row
      simp [sessionTenant, first, found]

end Principal

section Served
variable {settings} {new : MerchantFresh} {db : MerchantDb} {tenantId : Id}

/-- A request is served under a row that is locked, in a tenant that is fenced. -/
structure Served (settings : MerchantSettings) (permission : Option Permission)
    (p : MerchantPrincipal) (held : List MerchantLock) (db : MerchantDb) : Prop where
  row : ∃ m, OfRow db p m
  locked : ⟨.member p.memberId, .shared⟩ ∈ held
  fenced : ⟨.advisory (memberKey settings p.tenantId),
    if permission = some .membersManage then .exclusive else .shared⟩ ∈ held
  permitted : ∀ needed ∈ permission, needed ∈ permissions settings p.role

theorem principal_safe {Q : MerchantPrincipal → (MerchantDb → MerchantDb) → List MerchantLock →
      MerchantDb → Prop} {token : Option String} {pending : MerchantDb → MerchantDb}
    {held : List MerchantLock}
    (next : ∀ name ∈ token, ∀ p t, (membership settings tenantId).Rely held db t →
      (membership settings tenantId).inv t →
      principalRow settings new (pending t) name = some p →
      Q p pending (held ++ principalLocks settings new (pending t) name) t) :
    Safe (membership settings tenantId) Q (principal settings new token) pending held db := by
  simp only [principal, safe_bind, safe_ensure, safe_require, safe_selectFor]
  intro _ name given t rely inv p found
  exact next name (Option.filter_eq_some_iff.mp given).1 p t rely inv found

theorem identity_safe {Q : MerchantPrincipal → (MerchantDb → MerchantDb) → List MerchantLock →
      MerchantDb → Prop} {credentials : Credentials} {permission : Option Permission}
    {sensitive : Bool}
    (next : ∀ p held t, Served settings permission p held t →
      (membership settings tenantId).inv t → Q p id held t) :
    Safe (membership settings tenantId) Q (identity settings new credentials permission sensitive)
      id [] db := by
  simp only [identity, safe_bind, safe_select]
  intro t _ inv
  cases hint : sessionTenant t (settings.tokenHash (credentials.token.getD "")) with
  | none =>
      simp only [id_eq, hint, fence, safe_pure]
      refine principal_safe fun name given p u rely _ found => ?_
      have there := sessionTenant_isSome inv.2 rely.1 found
      rw [given, Option.getD_some] at hint
      rw [hint] at there
      cases there
  | some fenced =>
      simp only [id_eq, hint, fence, safe_lock]
      intro u rely inv'
      refine principal_safe fun name given p v rely' inv'' found => ?_
      simp only [safe_ensure, safe_pure, id_eq]
      intro same permitted _ _
      have same := same fenced rfl
      refine next p _ v ⟨(principalRow_some found).1, ?_, ?_, permitted⟩ inv''
      · exact List.mem_append_right _ (member_locked found)
      · rw [same]
        exact List.mem_append_left _ (List.mem_append_right _ (List.mem_singleton_self _))

variable {permission : Option Permission} {p : MerchantPrincipal} {t : MerchantDb}
  {held more : List MerchantLock} {pending : MerchantDb → MerchantDb}

theorem Served.rely (served : Served settings permission p held db)
    (rely : (membership settings tenantId).Rely held db t) :
    Served settings permission p held t := by
  obtain ⟨m, row⟩ := served.row
  have kept : t.members.find? p.memberId = db.members.find? p.memberId := rely.2 _ served.locked
  exact ⟨⟨m, kept.trans row.found, row.active, row.role, row.version, row.tenant⟩,
    served.locked, served.fenced, served.permitted⟩

theorem Served.append (served : Served settings permission p held db) :
    Served settings permission p (held ++ more) db :=
  ⟨served.row, List.mem_append_left _ served.locked, List.mem_append_left _ served.fenced,
    served.permitted⟩

theorem Served.inForce (served : Served settings (some .membersManage) p held db) :
    InForce settings p db := by
  obtain ⟨m, row⟩ := served.row
  exact ⟨m, row.found, row.active, row.role, row.version,
    row.role ▸ served.permitted _ rfl⟩

theorem scope_safe {Q : StoreScope → (MerchantDb → MerchantDb) → List MerchantLock →
      MerchantDb → Prop} {data : Option ScopeRequest}
    (next : ∀ a t, (membership settings tenantId).Rely held db t →
      (membership settings tenantId).inv t → Q a pending held t) :
    Safe (membership settings tenantId) Q (scope p data) pending held db := by
  simp only [scope, safe_bind, safe_require, safe_select, safe_ensure, safe_pure]
  intro _ _ ids _ t rely inv _
  exact next _ t rely inv

end Served

section Commits
variable {settings : MerchantSettings} {tenantId : Id} {held : List MerchantLock}
  {pending : MerchantDb → MerchantDb} {db db' : MerchantDb}

theorem HasOwner.of_find? {i : Id} {m : Member} (found : db.members.find? i = some m)
    (tenant : m.tenantId = tenantId) (owner : m.role = .owner) (active : m.status = .active) :
    db.HasOwner tenantId :=
  ⟨m, Table.mem_of_find? found, tenant, owner, active⟩

/-- What leaves the members as they are is free to anyone. -/
theorem guarantee_of_members (members : db'.members = db.members)
    (tokens : ∀ s' ∈ db'.sessions.rows, ∃ s ∈ db.sessions.rows, s.tokenHash = s'.tokenHash) :
    (membership settings tenantId).Guarantee held db db' := by
  refine ⟨⟨fun i m found => ⟨m, members ▸ found, rfl, Nat.le_refl _, fun _ => rfl⟩, tokens⟩, ?_⟩
  intro k _
  cases k with
  | advisory key => exact fun i m found _ => members ▸ found
  | member i => exact congrArg (·.find? i) members
  | _ => trivial

theorem inv_of_members (members : db'.members = db.members) (linked : db'.Linked)
    (inv : (membership settings tenantId).inv db) : (membership settings tenantId).inv db' := by
  obtain ⟨m, mem, owner⟩ := inv.1
  exact ⟨⟨m, members ▸ mem, owner⟩, linked⟩

/-- A request that touches no member and no session. -/
theorem commits_quiet {a : MembershipAnswer} (quiet : ∀ t : MerchantDb,
      (pending t).members = t.members ∧ (pending t).sessions = t.sessions)
    (rightful : ∀ t, (membership settings tenantId).Rely held db t →
      ∀ p, a = .managed p → InForce settings p t) :
    Commits (membership settings tenantId) (Rightful settings) a pending held db := by
  intro t rely inv
  obtain ⟨members, sessions⟩ := quiet t
  have guarantee : (membership settings tenantId).Guarantee held t (pending t) :=
    guarantee_of_members members fun s mem => ⟨s, sessions ▸ mem, rfl⟩
  refine ⟨inv_of_members members ?_ inv, guarantee, guarantee.1, rightful t rely⟩
  intro s mem
  rw [members]
  exact inv.2 s (sessions ▸ mem)

theorem other_owner (row : Member) (many : ¬ (owners db tenantId).length ≤ 1) :
    ∃ m, db.members.find? m.id = some m ∧ m.id ≠ row.id ∧ m.tenantId = tenantId ∧
      m.role = .owner ∧ m.status = .active := by
  have distinct : ((owners db tenantId).map (·.id)).Nodup :=
    db.members.distinct.sublist (List.filter_sublist.map _)
  match listed : owners db tenantId, many with
  | [], many => simp at many
  | [m], many => simp at many
  | m :: m' :: _, _ =>
      have owner : ∀ x ∈ [m, m'], db.members.find? x.id = some x ∧ x.tenantId = tenantId ∧
          x.role = .owner ∧ x.status = .active := by
        intro x mem
        have listed : x ∈ owners db tenantId := by
          rw [listed]
          exact List.mem_append_left _ mem
        have kept := List.mem_filter.mp listed
        exact ⟨Table.find?_of_mem kept.1, by simpa using kept.2⟩
      rw [listed] at distinct
      have ne : m.id ≠ m'.id := by
        intro same
        simp [same] at distinct
      by_cases first : m.id = row.id
      · exact ⟨m', (owner m' (by simp)).1, first ▸ ne.symm, (owner m' (by simp)).2⟩
      · exact ⟨m, (owner m (by simp)).1, first, (owner m (by simp)).2⟩

/-- A change of one member that leaves the tenant an owner. -/
theorem commits_update {a : MembershipAnswer} {row : Member} {f : Member → Member}
    (members : ∀ (t : MerchantDb) i, (pending t).members.find? i =
      if i = row.id then (t.members.find? i).map f else t.members.find? i)
    (sessions : ∀ t : MerchantDb, ∀ s' ∈ (pending t).sessions.rows, ∃ s ∈ t.sessions.rows,
      s.tokenHash = s'.tokenHash ∧ s.memberId = s'.memberId)
    (found : db.members.find? row.id = some row)
    (kept : (f row).tenantId = row.tenantId) (raised : row.version < (f row).version)
    (locked : ⟨.member row.id, .exclusive⟩ ∈ held)
    (fenced : ⟨.advisory (memberKey settings row.tenantId), .exclusive⟩ ∈ held)
    (owned : row.role = .owner → row.status = .active →
      ((f row).role = .owner ∧ (f row).status = .active) ∨
        ∃ m, db.members.find? m.id = some m ∧ m.id ≠ row.id ∧ m.tenantId = row.tenantId ∧
          m.role = .owner ∧ m.status = .active)
    (rightful : ∀ t, (membership settings tenantId).Rely held db t →
      ∀ p, a = .managed p → InForce settings p t) :
    Commits (membership settings tenantId) (Rightful settings) a pending held db := by
  intro t rely inv
  have here : t.members.find? row.id = some row := by
    have same : t.members.find? row.id = db.members.find? row.id := rely.2 _ locked
    rw [same, found]
  have find (i : Id) : (pending t).members.find? i =
      if i = row.id then some (f row) else t.members.find? i := by
    rw [members]
    split
    · rename_i same
      rw [same, here]
      rfl
    · rfl
  have follows : Follows t (pending t) := by
    refine ⟨fun i m there => ?_, fun s' mem => ?_⟩
    · rw [find]
      split
      · rename_i same
        rw [same, here] at there
        cases there
        exact ⟨_, rfl, kept, raised.le, fun eq => absurd eq raised.ne'⟩
      · exact ⟨m, there, rfl, Nat.le_refl _, fun _ => rfl⟩
    · obtain ⟨s, mem, same, -⟩ := sessions t s' mem
      exact ⟨s, mem, same⟩
  refine ⟨⟨?_, fun s' mem => ?_⟩, ⟨follows, fun k free => ?_⟩, follows, rightful t rely⟩
  · obtain ⟨m, mem, tenant, owner, active⟩ := inv.1
    have there := Table.find?_of_mem mem
    by_cases same : m.id = row.id
    · have mine : m = row := by
        change t.members.find? m.id = some m at there
        rw [same, here] at there
        exact (Option.some.inj there).symm
      subst mine
      rcases owned owner active with ⟨role, status⟩ | ⟨m', there', ne, tenant', owner', active'⟩
      · exact HasOwner.of_find? ((find m.id).trans (if_pos rfl)) (kept.trans tenant) role status
      · -- The advisory key has kept the other owner since it was counted.
        have still := rely.2 _ fenced m'.id m' there' (by rw [tenant'])
        exact HasOwner.of_find? ((find m'.id).trans ((if_neg ne).trans still))
          (tenant'.trans tenant) owner' active'
    · exact HasOwner.of_find? ((find m.id).trans ((if_neg same).trans there)) tenant owner active
  · obtain ⟨s, mem, -, same⟩ := sessions t s' mem
    rw [← same]
    obtain ⟨m, there⟩ := Option.isSome_iff_exists.mp (inv.2 s mem)
    obtain ⟨m', there', -⟩ := follows.members _ m there
    rw [there']
    rfl
  · cases k with
    | advisory key =>
        intro i m there mine
        have other : i ≠ row.id := by
          rintro rfl
          rw [here] at there
          cases there
          exact free (mine ▸ fenced)
        rw [find, if_neg other]
        exact there
    | member i =>
        have other : i ≠ row.id := by
          rintro rfl
          exact free locked
        change (pending t).members.find? i = t.members.find? i
        rw [find, if_neg other]
    | _ => trivial

/-- A session that goes over to another member. -/
theorem commits_switch {target : Id} (members : ∀ t, (pending t).members = t.members)
    (sessions : ∀ t : MerchantDb, ∀ s' ∈ (pending t).sessions.rows, ∃ s ∈ t.sessions.rows,
      s.tokenHash = s'.tokenHash ∧ (s'.memberId = target ∨ s'.memberId = s.memberId))
    (there : (db.members.find? target).isSome) :
    Commits (membership settings tenantId) (Rightful settings) .served pending held db := by
  intro t rely inv
  have guarantee : (membership settings tenantId).Guarantee held t (pending t) :=
    guarantee_of_members (members t) fun s' mem => by
      obtain ⟨s, mem, same, -⟩ := sessions t s' mem
      exact ⟨s, mem, same⟩
  refine ⟨inv_of_members (members t) (fun s' mem => ?_) inv, guarantee, guarantee.1,
    fun p same => by cases same⟩
  obtain ⟨s, mem, -, target | same⟩ := sessions t s' mem
  · obtain ⟨m, found⟩ := Option.isSome_iff_exists.mp there
    obtain ⟨m', found', -⟩ := rely.1.members _ m found
    rw [target, members, found']
    rfl
  · rw [same, members]
    exact inv.2 s mem

/-- A member that is new takes nothing from the others. -/
theorem commits_join {member : Member}
    (members : ∀ t, (pending t).members = t.members.insert member)
    (sessions : ∀ t, (pending t).sessions = t.sessions)
    (free : db.members.find? member.id = none) (locked : ⟨.member member.id, .exclusive⟩ ∈ held) :
    Commits (membership settings tenantId) (Rightful settings) .served pending held db := by
  intro t rely inv
  have same : t.members.find? member.id = db.members.find? member.id := rely.2 _ locked
  have still := same.trans free
  have keep {i : Id} {m : Member} (found : t.members.find? i = some m) :
      (pending t).members.find? i = some m :=
    members t ▸ Table.find?_insert_of_some found
  have follows : Follows t (pending t) :=
    ⟨fun i m found => ⟨m, keep found, rfl, Nat.le_refl _, fun _ => rfl⟩,
      fun s mem => ⟨s, sessions t ▸ mem, rfl⟩⟩
  refine ⟨⟨?_, fun s mem => ?_⟩, ⟨follows, fun k unlocked => ?_⟩, follows,
    fun p same => by cases same⟩
  · obtain ⟨m, mem, tenant, owner, active⟩ := inv.1
    exact HasOwner.of_find? (keep (Table.find?_of_mem mem)) tenant owner active
  · obtain ⟨m, found⟩ := Option.isSome_iff_exists.mp (inv.2 s (sessions t ▸ mem))
    rw [keep found]
    rfl
  · cases k with
    | advisory key => exact fun i m found _ => keep found
    | member i =>
        have other : i ≠ member.id := by
          rintro rfl
          exact unlocked locked
        change (pending t).members.find? i = t.members.find? i
        rw [members, Table.find?_insert _ _ _ still]
        exact if_neg other
    | _ => trivial

end Commits

section Requests
variable {settings : MerchantSettings} {new : MerchantFresh} {tenantId : Id} {db : MerchantDb}
  {credentials : Credentials}

theorem newScope_safe {Q : StoreScope → (MerchantDb → MerchantDb) → List MerchantLock →
      MerchantDb → Prop} {p : MerchantPrincipal} {row : Member}
    {asked : Option (Option ScopeRequest)} {pending : MerchantDb → MerchantDb}
    {held : List MerchantLock} (inv : (membership settings tenantId).inv db)
    (next : ∀ a t, (membership settings tenantId).Rely held db t →
      (membership settings tenantId).inv t → Q a pending held t) :
    Safe (membership settings tenantId) Q (newScope p row asked) pending held db := by
  cases asked with
  | none => exact next _ db .refl inv
  | some asked => exact scope_safe next

theorem mem_revoked {ids : List Id} {now : Time} {t : Table MerchantSession} {s' : MerchantSession}
    (mem : s' ∈ (t.modifyWhere (fun s => s.id ∈ ids)
      fun s => { s with revokedAt := some now }).rows) :
    ∃ s ∈ t.rows, s.tokenHash = s'.tokenHash ∧ s.memberId = s'.memberId := by
  obtain ⟨s, there, rfl⟩ := List.mem_map.mp mem
  refine ⟨s, there, ?_⟩
  split
  · exact ⟨rfl, rfl⟩
  · exact ⟨rfl, rfl⟩

theorem memberRow_some {id : Id} {row : Member} (h : memberRow db tenantId id = some row) :
    db.members.find? row.id = some row ∧ row.tenantId = tenantId := by
  obtain ⟨found, tenant⟩ := Option.filter_eq_some_iff.mp h
  have key : row.id = id := Table.key_of_find? found
  exact ⟨key ▸ found, decide_eq_true_eq.mp tenant⟩

/-- From the count of the owners to the commit, the row and every owner counted stay. -/
theorem updateMember_safe (memberId : Id) (data : MemberRequest) :
    Safe (membership settings tenantId) (Commits (membership settings tenantId) (Rightful settings))
      (perform settings ⟨credentials, new, .updateMember memberId data⟩) id [] db := by
  simp only [perform, updateMember, safe_bind]
  refine identity_safe fun p held t served inv => ?_
  simp only [safe_selectFor, safe_select, safe_require, safe_ensure]
  intro t₁ rely₁ inv₁ row found _ role _ status _ t₂ rely₂ inv₂ last
  refine newScope_safe inv₂ fun scope t₃ rely₃ inv₃ => ?_
  simp only [revokeSessions, record, safe_change, safe_pure]
  intro t₄ rely₄ _ t₅ rely₅ _ t₆ rely₆ _
  obtain ⟨there, tenant⟩ := memberRow_some found
  have counted := rely₃.trans (rely₄.trans (rely₅.left.trans rely₆.left.left))
  have chain := rely₂.trans counted
  have served₆ := (served.rely rely₁).append.rely chain
  rw [found] at chain counted served₆
  have mine : ⟨.member row.id, .exclusive⟩ ∈ held ++
      (some row).toList.map fun m => (⟨.member m.id, .exclusive⟩ : MerchantLock) :=
    List.mem_append_right _ (List.mem_singleton_self _)
  have fenced := served₆.fenced
  rw [if_pos rfl, ← tenant] at fenced
  have here : t₆.members.find? row.id = t₁.members.find? row.id := chain.2 _ mine
  refine commits_update (fun _ _ => Table.find?_modify _ _ _ _ (by intro; rfl))
    (fun _ _ mem => mem_revoked mem)
    (here.trans there) rfl (Nat.lt_succ_self _) ?_ ?_ (fun owner active => ?_)
    fun u rely _ same => ?_
  · exact List.mem_append_left _ (List.mem_append_left _
      (List.mem_append_right _ (List.mem_singleton_self _)))
  · rw [← found] at fenced
    exact List.mem_append_left _ (List.mem_append_left _ (List.mem_append_left _ fenced))
  · by_cases still : role = .owner ∧ status = .active
    · exact .inl still
    · have many : ¬ (owners t₂ row.tenantId).length ≤ 1 := by
        intro few
        refine last ⟨owner, active, ?_, tenant ▸ few⟩
        exact (Decidable.not_and_iff_or_not.mp still)
      obtain ⟨m, listed, ne, tenant', owner'⟩ := other_owner row many
      exact .inr ⟨m, counted.2 _ fenced m.id m listed (by rw [tenant']), ne, tenant', owner'⟩
  · cases same
    rw [← found] at served₆
    exact (served₆.rely rely.left.left.left).inForce

/-- A managing request that touches no member and no session. -/
theorem Served.commits {p : MerchantPrincipal} {held : List MerchantLock}
    {pending : MerchantDb → MerchantDb}
    (served : Served settings (some .membersManage) p held db) (quiet : ∀ t : MerchantDb,
      (pending t).members = t.members ∧ (pending t).sessions = t.sessions) :
    Commits (membership settings tenantId) (Rightful settings) (.managed p) pending held db :=
  commits_quiet quiet fun _ rely _ same => by
    cases same
    exact (served.rely rely).inForce

theorem invite_safe (data : InviteRequest) :
    Safe (membership settings tenantId) (Commits (membership settings tenantId) (Rightful settings))
      (perform settings ⟨credentials, new, .invite data⟩) id [] db := by
  simp only [perform, invite]
  rw [safe_bind, safe_bind, safe_ensure]
  intro _
  rw [safe_bind, safe_ensure]
  intro _
  rw [safe_bind, safe_require]
  intro email _
  rw [safe_bind, safe_require]
  intro role _
  rw [safe_bind]
  refine identity_safe fun p held t served inv => ?_
  refine Safe.carry Served.rely Served.append served (safe_bind.mpr (scope_safe ?_))
  intro scope t₁ _ _
  simp only [record, safe_bind, safe_lock, safe_change, safe_select, safe_ensure, safe_insert,
    safe_pure]
  intros
  exact Served.commits ‹_› fun _ => ⟨rfl, rfl⟩

theorem revokeInvitation_safe (invitationId : Id) :
    Safe (membership settings tenantId) (Commits (membership settings tenantId) (Rightful settings))
      (perform settings ⟨credentials, new, .revokeInvitation invitationId⟩) id [] db := by
  simp only [perform, revokeInvitation]
  rw [safe_bind, safe_bind]
  refine identity_safe fun p held t served inv => ?_
  refine Safe.carry Served.rely Served.append served ?_
  simp only [record, consume, safe_bind, safe_selectFor, safe_require, safe_change, safe_pure]
  intros
  exact Served.commits ‹_› fun _ => ⟨rfl, rfl⟩

theorem switchTarget_some {userId membershipId : Id} {m : Member}
    (h : switchTarget db userId membershipId = some m) : (db.members.find? m.id).isSome := by
  simp only [switchTarget, bind, pure, Option.bind_eq_some_iff, Option.some.injEq] at h
  obtain ⟨m', found, _, _, rfl⟩ := h
  have there := (Option.filter_eq_some_iff.mp found).1
  have key : m'.id = membershipId := Table.key_of_find? there
  rw [key, there]
  rfl

theorem mem_switched {t : Table MerchantSession} {id target : Id} {csrf : String}
    {s' : MerchantSession}
    (mem : s' ∈ (t.modify id fun s => { s with memberId := target, csrfToken := csrf }).rows) :
    ∃ s ∈ t.rows, s.tokenHash = s'.tokenHash ∧ (s'.memberId = target ∨ s'.memberId = s.memberId) := by
  obtain ⟨s, there, rfl⟩ := List.mem_map.mp mem
  refine ⟨s, there, ?_⟩
  split
  · exact ⟨rfl, .inl rfl⟩
  · exact ⟨rfl, .inr rfl⟩

theorem switchTenant_safe (membershipId : Id) :
    Safe (membership settings tenantId) (Commits (membership settings tenantId) (Rightful settings))
      (perform settings ⟨credentials, new, .switchTenant membershipId⟩) id [] db := by
  simp only [perform, switchTenant, safe_bind]
  refine identity_safe fun p held t served inv => ?_
  simp only [safe_select, safe_require, safe_change, safe_pure]
  intro t₁ _ _ member found t₂ rely₂ _
  refine principal_safe fun _ _ _ t₃ rely₃ _ _ => ?_
  refine commits_switch (fun _ => rfl) (fun _ _ mem => mem_switched mem) ?_
  obtain ⟨m, there⟩ := Option.isSome_iff_exists.mp (switchTarget_some found)
  obtain ⟨m', there', -⟩ := (rely₂.1.trans rely₃.1).members _ m there
  rw [there']
  rfl

/-- Whoever accepts, no member is touched yet. -/
theorem accepting_safe {Q : Id → (MerchantDb → MerchantDb) → List MerchantLock →
      MerchantDb → Prop} {email : String} {data : AcceptRequest} {user : Option MerchantUser}
    {pending : MerchantDb → MerchantDb} {held : List MerchantLock}
    (next : ∀ userId pending' held' t,
      (∀ u, (pending' u).members = (pending u).members ∧
        (pending' u).sessions = (pending u).sessions) → Q userId pending' held' t) :
    Safe (membership settings tenantId) Q (accepting settings new credentials email data user)
      pending held db := by
  cases user with
  | some user =>
      simp only [accepting, safe_bind]
      refine principal_safe fun _ _ p t _ _ _ => ?_
      simp only [safe_ensure, safe_pure]
      intro _
      exact next _ _ _ _ fun _ => ⟨rfl, rfl⟩
  | none =>
      simp only [accepting, safe_bind, safe_require, safe_ensure, safe_insert, safe_pure]
      intro _ _ _ t _ _ _
      exact next _ _ _ _ fun _ => ⟨rfl, rfl⟩

theorem acceptInvitation_safe (data : AcceptRequest) :
    Safe (membership settings tenantId) (Commits (membership settings tenantId) (Rightful settings))
      (perform settings ⟨credentials, new, .acceptInvitation data⟩) id [] db := by
  simp only [perform, acceptInvitation, consumeAction, consume, safe_bind, safe_require,
    safe_selectFor, safe_select, safe_change, safe_pure]
  intro _ _ t₁ _ _ action _ t₂ _ _ t₃ _ _ inv _ t₄ _ _ _ _ t₅ _ _
  refine accepting_safe fun userId pending held t₆ quiet => ?_
  simp only [safe_ensure, safe_insert]
  intro t₇ _ _ _ t₈ _ _ free t₉ rely₉ _
  have members (u : MerchantDb) : (pending u).members = u.members := (quiet u).1
  have unused : t₈.members.find? new.memberId = none := by
    rw [members] at free
    exact Option.not_isSome_iff_eq_none.mp (by simp [free])
  have mine := List.mem_append_right (held ++ [⟨.membership inv.tenantId userId, .exclusive⟩])
    (List.mem_singleton_self (⟨.member new.memberId, .exclusive⟩ : MerchantLock))
  have same : t₉.members.find? new.memberId = t₈.members.find? new.memberId := rely₉.2 _ mine
  refine commits_join (fun u => by rw [← members u]; rfl) (fun u => (quiet u).2) ?_ ?_
  · exact same.trans unused
  · exact List.mem_append_left _ mine

theorem perform_safe (r : MembershipRequest) :
    Safe (membership settings tenantId) (Commits (membership settings tenantId) (Rightful settings))
      (perform settings r) id [] db := by
  obtain ⟨credentials, new, operation⟩ := r
  cases operation with
  | updateMember memberId data => exact updateMember_safe memberId data
  | invite data => exact invite_safe data
  | revokeInvitation invitationId => exact revokeInvitation_safe invitationId
  | acceptInvitation data => exact acceptInvitation_safe data
  | switchTenant membershipId => exact switchTenant_safe membershipId

end Requests

/-- Whatever requests overlap, and however: a tenant with an owner keeps one, and every managing
request commits under rights that its row has as it commits, those a change before it has left. -/
theorem owner_kept {start : MerchantDb} (linked : start.Linked) {tenantId : Id}
    (owner : start.HasOwner tenantId) (as : List (PoolAction MembershipRequest)) :
    let s := (Pool.machine (perform settings)).run { store := start } as
    s.store.HasOwner tenantId ∧
      (∀ c ∈ s.commits, ∀ p, c.answer = .managed p → InForce settings p c.before) ∧
      s.commits.Pairwise fun earlier later => ∀ p, later.answer = .managed p →
        ∀ m m', earlier.before.members.find? p.memberId = some m →
          earlier.after.members.find? p.memberId = some m' → m' ≠ m →
          m.version < p.memberVersion := by
  intro s
  have sound : s.Sound (membership settings tenantId) (Rightful settings) :=
    Pool.Sound.run (fun r db _ => perform_safe r) (Pool.sound_init ⟨owner, linked⟩) as
  refine ⟨sound.inv.1, fun c mem p same => (sound.good c mem).2 p same, ?_⟩
  refine (List.pairwise_iff_forall_sublist.mpr ?_ : s.commits.Pairwise _)
  intro earlier later sub p same m m' before after changed
  have mem : earlier ∈ s.commits := sub.subset (by simp)
  have mem' : later ∈ s.commits := sub.subset (by simp)
  obtain ⟨row, found, -, -, version, -⟩ := (sound.good later mem').2 p same
  obtain ⟨own, there, -, le, apart⟩ := (sound.good earlier mem).1.members _ m before
  cases there.symm.trans after
  have since : Follows earlier.after later.before :=
    List.pairwise_iff_forall_sublist.mp sound.ordered sub
  obtain ⟨last, there', -, le', -⟩ := since.members _ _ there
  cases there'.symm.trans found
  have raised : m.version < m'.version := lt_of_le_of_ne le fun eq => changed (apart eq.symm)
  omega

/-- A tenant of two owners, each signed in. -/
def partners : MerchantDb where
  users := (Table.empty.insert { id := 1, email := none, username := some "ada", displayName := "Ada" }
    ).insert { id := 2, email := none, username := some "ben", displayName := "Ben" }
  tenants := Table.empty.insert { id := 7 }
  members := (Table.empty.insert { id := 11, tenantId := 7, userId := 1, role := .owner }).insert
    { id := 12, tenantId := 7, userId := 2, role := .owner }
  sessions := (Table.empty.insert
    { id := 21, tokenHash := "a", csrfToken := "x", userId := 1, memberId := 11, expiresAt := 9
      reauthenticatedAt := 0 }).insert
    { id := 22, tokenHash := "b", csrfToken := "y", userId := 2, memberId := 12, expiresAt := 9
      reauthenticatedAt := 0 }

/-- Each demotes the other, statement by statement in turn. -/
def mutualDemotion : List (PoolAction MembershipRequest) :=
  let new : MerchantFresh := ⟨0, 3, 13, 31, "t", 41, "z"⟩
  [.start ⟨⟨some "a", some "x"⟩, new, .updateMember 12 { version := some 1, role := some "FINANCE" }⟩,
    .start ⟨⟨some "b", some "y"⟩, new, .updateMember 11 { version := some 1, role := some "FINANCE" }⟩]
    ++ (List.replicate 12 [.proceed 0, .proceed 1]).flatten

def plainSettings : MerchantSettings := { tokenHash := id, advisoryKey := fun s => s.length }

theorem owner_kept_partners :
    ((Pool.machine (perform plainSettings)).run { store := partners } mutualDemotion).store.HasOwner
      7 :=
  (owner_kept plainSettings (by unfold Linked; decide) (by unfold HasOwner; decide) mutualDemotion).1

/-- One of them is heard. -/
example : ((Pool.machine (perform plainSettings)).run { store := partners }
    mutualDemotion).commits.length = 1 := by decide +kernel

end MerchantService
end CoffeeCloud
