import CoffeeCloud.Services.AdminAccess

/-!
What holds of the admin interface however its requests interleave: rights come from the
deployment's own token or from someone who had them before, a token that is revoked or
has run out is never taken again, and every change is recorded once, still to be
recorded, or its request broke off.
-/
namespace CoffeeCloud
open Library Tx

namespace AccessChange

/-- The change makes the operator an owner. -/
inductive Grants (c : AccessChange) (operatorId : Id) : Prop
  | created (displayName : String) (asked : c.request = .createOperator displayName .owner)
      (drew : c.drawn = operatorId)
  | promoted (displayName : Option String) (status : Option OperatorStatus)
      (asked : c.request = .updateOperator operatorId displayName (some .owner) status)

/-- The change makes the token, for the operator. -/
structure Mints (c : AccessChange) (operatorId tokenId : Id) : Prop where
  asked : ∃ label expiresAt, c.request = .createToken operatorId label expiresAt
  drew : c.drawn = tokenId

end AccessChange

/-- An owner who presented the deployment's token, or is one by changes there were before. -/
inductive Entitled (settings : AccessSettings) (presented : Option String) (p : AdminPrincipal)
    (before : List AccessChange) : Prop
  | deployment (token : presented = some settings.adminToken) (nobody : p.operatorId = none)
      (role : p.role = .owner)
  | granted (operatorId tokenId : Id) (who : p.operatorId = some operatorId)
      (token : p.tokenId = some tokenId) (role : p.role = .owner)
      (grant : ∃ c ∈ before, c.Grants operatorId) (mint : ∃ c ∈ before, c.Mints operatorId tokenId)

/-- Each change was made by someone whom the changes before it, or the deployment, entitled. -/
inductive Descended (settings : AccessSettings) : List AccessChange → Prop
  | nil : Descended settings []
  | cons {c : AccessChange} {before : List AccessChange}
      (entitled : Entitled settings c.presented c.principal before)
      (descended : Descended settings before) : Descended settings (c :: before)

theorem Entitled.later {settings : AccessSettings} {presented : Option String} {p : AdminPrincipal}
    {before : List AccessChange} (c : AccessChange)
    (entitled : Entitled settings presented p before) :
    Entitled settings presented p (c :: before) := by
  cases entitled with
  | deployment token nobody role => exact .deployment token nobody role
  | granted operatorId tokenId who token role grant mint =>
      obtain ⟨g, there, grants⟩ := grant
      obtain ⟨m, there', mints⟩ := mint
      exact .granted operatorId tokenId who token role ⟨g, List.mem_cons_of_mem c there, grants⟩
        ⟨m, List.mem_cons_of_mem c there', mints⟩

namespace AdminAccessService
variable {settings : AccessSettings} {db db' : AccessDb} {now : Time} {draw : AccessDraw} {u : Unit}

section Changes

theorem ran_createOperator {id : Id} {displayName : String} {role : AdminRole}
    (h : Ran (AdminAccessRepository.createOperator id displayName role) db u db') :
    db.operators.find? id = none ∧
      db' = { db with operators := db.operators.insert ⟨id, displayName, role, .active⟩ } := by
  unfold AdminAccessRepository.createOperator AdminAccessRepository.operator at h
  simp only [ran_read_bind, ran_ensure_bind, ran_write, Option.isSome_eq_false_iff,
    Option.isNone_iff_eq_none] at h
  exact ⟨h.1, h.2.symm⟩

/-- An update is of a row that is there. -/
theorem ran_updateOperator {id : Id} {displayName : Option String} {role : Option AdminRole}
    {status : Option OperatorStatus}
    (h : Ran (updateOperator id displayName role status) db u db') :
    ∃ o, db.operators.find? id = some o ∧ db' = { db with
      operators := db.operators.modify id fun r => { r with
        displayName := displayName.getD o.displayName, role := role.getD o.role
        status := status.getD o.status } } := by
  unfold updateOperator AdminAccessRepository.operator AdminAccessRepository.updateOperator at h
  simp only [ran_read_bind, ran_require_bind, ran_write] at h
  obtain ⟨o, found, rfl⟩ := h
  exact ⟨o, found, rfl⟩

theorem ran_createToken {operatorId : Id} {label : String} {expiresAt : Option Time}
    (h : Ran (createToken settings operatorId label expiresAt draw now) db u db') :
    ∃ row : AdminToken, row.id = draw.id ∧ row.operatorId = operatorId ∧
      db.tokens.find? row.id = none ∧ (∀ t ∈ db.tokens.rows, t.tokenHash ≠ row.tokenHash) ∧
      db' = { db with tokens := db.tokens.insert row } := by
  unfold createToken AdminAccessRepository.operator AdminAccessRepository.createToken at h
  simp only [ran_ensure_bind, ran_read_bind, ran_require_bind, ran_write,
    Option.isSome_eq_false_iff, Option.isNone_iff_eq_none] at h
  obtain ⟨-, o, -, fresh, unknown, rfl⟩ := h
  refine ⟨_, rfl, rfl, fresh, fun t mem => ?_, rfl⟩
  simpa using Table.first?_none.mp unknown t mem

theorem ran_revokeToken {operatorId tokenId : Id}
    (h : Ran (revokeToken operatorId tokenId now) db u db') :
    db' = { db with
      tokens := db.tokens.modify tokenId (AdminAccessRepository.revoked now)
        (AdminAccessRepository.key_revoked now) } := by
  unfold revokeToken AdminAccessRepository.revokeToken at h
  simp only [bind_assoc, ran_read_bind] at h
  simp only [ran_bind, ran_onlyIf, ran_write, ran_pure, ran_ensure] at h
  obtain ⟨_, db₁, wrote, _, _, ⟨rfl, rfl⟩, there, rfl⟩ := h
  cases wrote with
  | inl wrote => exact wrote.2.symm
  | inr missed => exact absurd there missed.1

/-- An owner was one before, or the change made it one. -/
theorem owner_change {request : AccessRequest} {presented : Option String} {p : AdminPrincipal}
    {id : Id} {o : AdminOperator}
    (h : Ran (change settings draw now request) db u db')
    (found : db'.operators.find? id = some o) (owner : o.role = .owner) :
    (∃ old, db.operators.find? id = some old ∧ old.role = .owner) ∨
      AccessChange.Grants ⟨presented, p, request, draw.id⟩ id := by
  cases request with
  | createOperator displayName role =>
      obtain ⟨fresh, rfl⟩ := ran_createOperator h
      cases Table.find?_insert_cases found with
      | inl old => exact .inl ⟨o, old, owner⟩
      | inr new =>
          obtain ⟨rfl, rfl⟩ := new
          cases owner
          exact .inr (.created displayName rfl rfl)
  | updateOperator operatorId displayName role status =>
      obtain ⟨old, before, rfl⟩ := ran_updateOperator h
      simp only [Table.find?_modify] at found
      split at found
      · rename_i same
        subst same
        rw [before] at found
        cases found
        cases role with
        | none => exact .inl ⟨old, before, owner⟩
        | some role =>
            cases owner
            exact .inr (.promoted displayName status rfl)
      · exact .inl ⟨o, found, owner⟩
  | createToken operatorId label expiresAt =>
      obtain ⟨row, -, -, -, -, rfl⟩ := ran_createToken h
      exact .inl ⟨o, found, owner⟩
  | revokeToken operatorId tokenId =>
      obtain rfl := ran_revokeToken h
      exact .inl ⟨o, found, owner⟩

/-- A token was there before, for the same operator, or the change made it. -/
theorem token_change {request : AccessRequest} {presented : Option String} {p : AdminPrincipal}
    {id : Id} {t : AdminToken}
    (h : Ran (change settings draw now request) db u db') (found : db'.tokens.find? id = some t) :
    (∃ old, db.tokens.find? id = some old ∧ old.operatorId = t.operatorId) ∨
      AccessChange.Mints ⟨presented, p, request, draw.id⟩ t.operatorId id := by
  cases request with
  | createOperator displayName role =>
      obtain ⟨-, rfl⟩ := ran_createOperator h
      exact .inl ⟨t, found, rfl⟩
  | updateOperator operatorId displayName role status =>
      obtain ⟨_, -, rfl⟩ := ran_updateOperator h
      exact .inl ⟨t, found, rfl⟩
  | createToken operatorId label expiresAt =>
      obtain ⟨row, drew, owner, -, -, rfl⟩ := ran_createToken h
      cases Table.find?_insert_cases found with
      | inl old => exact .inl ⟨t, old, rfl⟩
      | inr new =>
          obtain ⟨rfl, rfl⟩ := new
          exact .inr ⟨⟨label, expiresAt, by rw [owner]⟩, drew.symm⟩
  | revokeToken operatorId tokenId =>
      obtain rfl := ran_revokeToken h
      rw [Table.find?_modify] at found
      split at found
      · cases before : db.tokens.find? id with
        | none => simp [before] at found
        | some old =>
            rw [before] at found
            cases found
            exact .inl ⟨old, rfl, rfl⟩
      · exact .inl ⟨t, found, rfl⟩

/-- No change takes a token away, revives it or puts off its end. -/
theorem token_kept {request : AccessRequest} {id : Id} {t : AdminToken}
    (h : Ran (change settings draw now request) db u db') (found : db.tokens.find? id = some t) :
    ∃ t', db'.tokens.find? id = some t' ∧ t'.tokenHash = t.tokenHash ∧
      t'.expiresAt = t.expiresAt ∧ (t.status = .revoked → t'.status = .revoked) := by
  cases request with
  | createOperator displayName role =>
      obtain ⟨-, rfl⟩ := ran_createOperator h
      exact ⟨t, found, rfl, rfl, fun same => same⟩
  | updateOperator operatorId displayName role status =>
      obtain ⟨_, -, rfl⟩ := ran_updateOperator h
      exact ⟨t, found, rfl, rfl, fun same => same⟩
  | createToken operatorId label expiresAt =>
      obtain ⟨row, -, -, -, -, rfl⟩ := ran_createToken h
      exact ⟨t, Table.find?_insert_of_some found, rfl, rfl, fun same => same⟩
  | revokeToken operatorId tokenId =>
      obtain rfl := ran_revokeToken h
      rw [Table.find?_modify, found]
      split
      · exact ⟨_, rfl, rfl, rfl, fun _ => rfl⟩
      · exact ⟨t, rfl, rfl, rfl, fun same => same⟩

/-- No two tokens have one hash. -/
def Distinguished (db : AccessDb) : Prop :=
  ∀ a ∈ db.tokens.rows, ∀ b ∈ db.tokens.rows, a.tokenHash = b.tokenHash → a.id = b.id

theorem distinguished_change {request : AccessRequest}
    (h : Ran (change settings draw now request) db u db') (apart : Distinguished db) :
    Distinguished db' := by
  cases request with
  | createOperator displayName role =>
      obtain ⟨-, rfl⟩ := ran_createOperator h
      exact apart
  | updateOperator operatorId displayName role status =>
      obtain ⟨_, -, rfl⟩ := ran_updateOperator h
      exact apart
  | createToken operatorId label expiresAt =>
      obtain ⟨row, -, -, fresh, unknown, rfl⟩ := ran_createToken h
      intro a memA b memB same
      rw [Table.rows_insert _ _ fresh] at memA memB
      cases List.mem_append.mp memA with
      | inl oldA =>
          cases List.mem_append.mp memB with
          | inl oldB => exact apart a oldA b oldB same
          | inr newB =>
              rw [List.mem_singleton.mp newB] at same
              exact absurd same (unknown a oldA)
      | inr newA =>
          cases List.mem_append.mp memB with
          | inl oldB =>
              rw [List.mem_singleton.mp newA] at same
              exact absurd same.symm (unknown b oldB)
          | inr newB => rw [List.mem_singleton.mp newA, List.mem_singleton.mp newB]
  | revokeToken operatorId tokenId =>
      obtain rfl := ran_revokeToken h
      intro a memA b memB same
      obtain ⟨a', oldA, rfl⟩ := List.mem_map.mp memA
      obtain ⟨b', oldB, rfl⟩ := List.mem_map.mp memB
      have hash : ∀ t : AdminToken, (if decide (t.id = tokenId) then
          AdminAccessRepository.revoked now t else t).tokenHash = t.tokenHash := fun t => by
        split <;> rfl
      have ids : ∀ t : AdminToken, (if decide (t.id = tokenId) then
          AdminAccessRepository.revoked now t else t).id = t.id := fun t => by
        split <;> rfl
      exact (ids a').trans ((apart a' oldA b' oldB
        ((hash a').symm.trans (same.trans (hash b')))).trans (ids b').symm)

end Changes

end AdminAccessService

namespace AccessSystem
open AdminAccessService
variable {settings : AccessSettings} {s : AccessSystem}

section Rights

/-- Where the rights in the tables and of the requests under way come from. -/
structure Founded (settings : AccessSettings) (s : AccessSystem) : Prop where
  owners : ∀ id o, s.db.operators.find? id = some o → o.role = .owner →
    ∃ c ∈ s.changes, c.Grants id
  minted : ∀ id t, s.db.tokens.find? id = some t → ∃ c ∈ s.changes, c.Mints t.operatorId id
  calls : ∀ call ∈ s.calls, Entitled settings call.presented call.principal s.changes
  descended : Descended settings s.changes

/-- Whoever may manage access is an owner, by the deployment's token or a row of the tables. -/
theorem Founded.entitled (founded : Founded settings s) {token : Option String} {p : AdminPrincipal}
    {db : AccessDb}
    (h : Ran (do let principal ← authenticate settings token s.now
                 requirePermission principal .accessManage : AccessTx AdminPrincipal) s.db p db) :
    Entitled settings token p s.changes := by
  rw [ran_bind] at h
  obtain ⟨q, db₁, authenticated, h⟩ := h
  unfold requirePermission at h
  simp only [ran_ensure_bind, ran_pure] at h
  obtain ⟨allowed, rfl, -⟩ := h
  have owner : q.role = .owner := by
    cases role : q.role with
    | owner => rfl
    | viewer | operator | manager => simp [role, AdminRole.permissions] at allowed
  unfold authenticate at authenticated
  simp only [ran_require_bind] at authenticated
  obtain ⟨given, presented, authenticated⟩ := authenticated
  split at authenticated
  · rename_i bootstrap
    obtain ⟨rfl, -⟩ := (ran_pure _ _ _ _).mp authenticated
    exact .deployment (bootstrap ▸ (Option.filter_eq_some_iff.mp presented).1) rfl rfl
  · simp only [ran_read_bind, ran_require_bind, ran_pure] at authenticated
    obtain ⟨row, found, rfl, -⟩ := authenticated
    unfold AdminAccessRepository.authenticate at found
    simp only [Option.bind_eq_some_iff, Option.map_eq_some_iff, Option.filter_eq_some_iff] at found
    obtain ⟨t, live, o, ⟨there, -⟩, rfl⟩ := found
    have same : o.id = t.operatorId := Table.key_of_find? there
    have row := Table.find?_of_mem (Table.first?_some live).1
    refine .granted o.id t.id rfl rfl owner ?_ ?_
    · rw [same]
      exact founded.owners t.operatorId o there owner
    · rw [same]
      exact founded.minted t.id t row

theorem Founded.fewer (founded : Founded settings s) (call : Nat) :
    ∀ c ∈ s.calls.eraseIdx call, Entitled settings c.presented c.principal s.changes :=
  fun c mem => founded.calls c (List.mem_of_mem_eraseIdx mem)

theorem Founded.changeOf (founded : Founded settings s) {call : Nat} {draw : AccessDraw}
    {c : AccessCall} (mem : c ∈ s.calls) : Founded settings (s.changeOf settings call draw c) := by
  unfold AccessSystem.changeOf
  split
  · exact founded
  · split
    · rename_i u db ran
      have entitled := founded.calls c mem
      refine ⟨fun id o found owner => ?_, fun id t found => ?_, fun c' mem' => ?_,
        .cons entitled founded.descended⟩
      · cases owner_change ran found owner with
        | inl old =>
            obtain ⟨old, there, owner⟩ := old
            obtain ⟨g, earlier, grants⟩ := founded.owners id old there owner
            exact ⟨g, List.mem_cons_of_mem _ earlier, grants⟩
        | inr new => exact ⟨_, List.mem_cons_self, new⟩
      · cases token_change ran found with
        | inl old =>
            obtain ⟨old, there, same⟩ := old
            obtain ⟨m, earlier, mints⟩ := founded.minted id old there
            exact ⟨m, List.mem_cons_of_mem _ earlier, same ▸ mints⟩
        | inr new => exact ⟨_, List.mem_cons_self, new⟩
      · cases List.mem_cons.mp mem' with
        | inl here => rw [here]; exact entitled.later _
        | inr other => exact (founded.fewer call c' other).later _
    · exact ⟨founded.owners, founded.minted, founded.fewer call, founded.descended⟩

theorem Founded.next (founded : Founded settings s) (a : AccessAction) :
    Founded settings (s.next settings a) := by
  cases a with
  | arrive token request =>
      simp only [AccessSystem.next, AccessSystem.arrive]
      split
      · rename_i principal db ran
        refine ⟨founded.owners, founded.minted, fun c mem => ?_, founded.descended⟩
        cases List.mem_cons.mp mem with
        | inl here => rw [here]; exact founded.entitled ran
        | inr other => exact founded.calls c other
      · exact founded
  | change call draw =>
      simp only [AccessSystem.next]
      cases there : s.calls[call]? with
      | none => exact founded
      | some c => exact founded.changeOf (List.mem_of_getElem? there)
  | record call =>
      simp only [AccessSystem.next]
      cases s.calls[call]?.bind (·.changed) with
      | none => exact founded
      | some change =>
          exact ⟨founded.owners, founded.minted, founded.fewer call, founded.descended⟩
  | breakOff call => exact ⟨founded.owners, founded.minted, founded.fewer call, founded.descended⟩
  | wait span => exact ⟨founded.owners, founded.minted, founded.calls, founded.descended⟩

theorem Founded.run (settings : AccessSettings) (as : List AccessAction) :
    Founded settings ((machine settings).run {} as) :=
  Machine.Reachable.invariant (M := machine settings) (I := Founded settings) ⟨as, rfl⟩
    ⟨fun _ _ found => (nomatch found), fun _ _ found => (nomatch found),
      fun _ mem => (nomatch mem), .nil⟩ fun _ a founded => founded.next a

/-- Nobody changes who may do what but the deployment and those it, or they, made owners before. -/
theorem rights_descend (settings : AccessSettings) (as : List AccessAction) :
    Descended settings ((machine settings).run {} as).changes :=
  (Founded.run settings as).descended

end Rights

section Tokens

/-- A step leaves the tokens alone, or is a change of the tables. -/
theorem tokens_next (settings : AccessSettings) (s : AccessSystem) (a : AccessAction) :
    (s.next settings a).db.tokens = s.db.tokens ∨
      ∃ draw request u, Ran (change settings draw s.now request) s.db u (s.next settings a).db := by
  cases a with
  | arrive token request =>
      simp only [AccessSystem.next, AccessSystem.arrive]
      split <;> exact .inl rfl
  | change call draw =>
      simp only [AccessSystem.next]
      cases s.calls[call]? with
      | none => exact .inl rfl
      | some c =>
          simp only [Option.elim, AccessSystem.changeOf]
          split
          · exact .inl rfl
          · split
            · rename_i u db ran
              exact .inr ⟨draw, c.request, u, ran⟩
            · exact .inl rfl
  | record call =>
      simp only [AccessSystem.next]
      cases s.calls[call]?.bind (·.changed) with
      | none => exact .inl rfl
      | some change => exact .inl rfl
  | breakOff call => exact .inl rfl
  | wait span => exact .inl rfl

theorem now_next (settings : AccessSettings) (s : AccessSystem) (a : AccessAction) :
    s.now ≤ (s.next settings a).now := by
  cases a with
  | arrive token request =>
      simp only [AccessSystem.next, AccessSystem.arrive]
      split <;> exact le_rfl
  | change call draw =>
      simp only [AccessSystem.next]
      cases s.calls[call]? with
      | none => exact le_rfl
      | some c =>
          simp only [Option.elim, AccessSystem.changeOf]
          split
          · exact le_rfl
          · split <;> exact le_rfl
  | record call =>
      simp only [AccessSystem.next]
      cases s.calls[call]?.bind (·.changed) <;> exact le_rfl
  | breakOff call => exact le_rfl
  | wait span =>
      exact Int.le_add_of_nonneg_right (Int.natCast_nonneg span)

/-- The token of this hash is revoked, or has run out. -/
def Spent (tokenHash : String) (s : AccessSystem) : Prop :=
  ∃ id t, s.db.tokens.find? id = some t ∧ t.tokenHash = tokenHash ∧
    (t.status = .revoked ∨ ∃ e, t.expiresAt = some e ∧ e ≤ s.now)

theorem Spent.next {tokenHash : String} (spent : Spent tokenHash s) (a : AccessAction) :
    Spent tokenHash (s.next settings a) := by
  obtain ⟨id, t, found, hash, ended⟩ := spent
  have later := now_next settings s a
  cases tokens_next settings s a with
  | inl same =>
      refine ⟨id, t, by rw [same]; exact found, hash, ended.imp_right fun out => ?_⟩
      obtain ⟨e, expires, past⟩ := out
      exact ⟨e, expires, past.trans later⟩
  | inr changed =>
      obtain ⟨draw, request, u, ran⟩ := changed
      obtain ⟨t', found', hash', expires', revoked⟩ := token_kept ran found
      refine ⟨id, t', found', hash'.trans hash, ended.imp revoked fun out => ?_⟩
      obtain ⟨e, expires, past⟩ := out
      exact ⟨e, expires'.trans expires, past.trans later⟩

theorem distinguished_next (apart : Distinguished s.db) (a : AccessAction) :
    Distinguished (s.next settings a).db := by
  cases tokens_next settings s a with
  | inl same =>
      unfold Distinguished
      rw [same]
      exact apart
  | inr changed =>
      obtain ⟨draw, request, u, ran⟩ := changed
      exact distinguished_change ran apart

theorem Spent.refused {tokenHash : String} (spent : Spent tokenHash s)
    (apart : Distinguished s.db) :
    AdminAccessRepository.authenticate s.db tokenHash s.now = none := by
  obtain ⟨id, t, found, hash, ended⟩ := spent
  unfold AdminAccessRepository.authenticate
  rw [Option.bind_eq_none_iff]
  intro other live
  exfalso
  obtain ⟨mem, fits⟩ := Table.first?_some live
  simp only [Bool.and_eq_true, decide_eq_true_eq] at fits
  obtain ⟨⟨same, active⟩, lasts⟩ := fits
  have row := Table.mem_of_find? found
  have ids : other.id = t.id := apart other mem t row (same.trans hash.symm)
  have one : other = t := Option.some.inj ((Table.find?_of_mem mem).symm.trans
    ((congrArg s.db.tokens.find? ids).trans (Table.find?_of_mem row)))
  rw [one] at active lasts
  cases ended with
  | inl revoked =>
      rw [active] at revoked
      cases revoked
  | inr out =>
      obtain ⟨e, expires, past⟩ := out
      rw [expires] at lasts
      simp only [Option.all_some, decide_eq_true_eq] at lasts
      exact absurd past (not_le.mpr lasts)

/-- A token that was revoked or has run out stands for nobody, whatever requests come. -/
theorem spent_refused (settings : AccessSettings) (as more : List AccessAction) {tokenHash : String}
    (spent : Spent tokenHash ((machine settings).run {} as)) :
    (machine settings).Always
      (fun s => AdminAccessRepository.authenticate s.db tokenHash s.now = none)
      ((machine settings).run {} as) more := by
  have apart : Distinguished ((machine settings).run {} as).db :=
    Machine.Reachable.invariant (M := machine settings) (I := fun s => Distinguished s.db) ⟨as, rfl⟩
      (fun _ mem => (nomatch mem)) fun _ a apart => distinguished_next apart a
  have always := Machine.invariant_always (M := machine settings) (P := fun _ _ => True)
    (I := fun s => Spent tokenHash s ∧ Distinguished s.db)
    (fun s a held _ => ⟨held.1.next a, distinguished_next held.2 a⟩) ⟨spent, apart⟩
    ((machine settings).along_true _ more)
  exact (machine settings).always_mono (fun _ held => held.1.refused held.2) always

/-- A token is made and revoked. -/
def revocation : List AccessAction :=
  [.arrive (some "root") (.createOperator "Ada" .viewer), .change 0 ⟨1, ""⟩, .record 0,
    .arrive (some "root") (.createToken 1 "desk" none), .change 0 ⟨2, "key"⟩, .record 0,
    .arrive (some "root") (.revokeToken 1 2), .change 0 ⟨0, ""⟩, .record 0]

theorem spent_refused_revoked :
    (machine ⟨"root", fun token => token⟩).Always
      (fun s => AdminAccessRepository.authenticate s.db "key" s.now = none)
      ((machine ⟨"root", fun token => token⟩).run {} revocation)
      [.arrive (some "key") (.revokeToken 1 2)] :=
  spent_refused _ revocation _ ⟨2, _, rfl, rfl, .inl rfl⟩

end Tokens

section Records

theorem audit_change {draw : AccessDraw} {now : Time} {request : AccessRequest} {db db' : AccessDb}
    {u : Unit} (h : Ran (change settings draw now request) db u db') : db'.audit = db.audit := by
  cases request with
  | createOperator displayName role =>
      obtain ⟨-, rfl⟩ := ran_createOperator h
      rfl
  | updateOperator operatorId displayName role status =>
      obtain ⟨_, -, rfl⟩ := ran_updateOperator h
      rfl
  | createToken operatorId label expiresAt =>
      obtain ⟨row, -, -, -, -, rfl⟩ := ran_createToken h
      rfl
  | revokeToken operatorId tokenId =>
      obtain rfl := ran_revokeToken h
      rfl

/-- What is changed and not recorded yet. -/
def pending (calls : List AccessCall) : List AccessChange := calls.filterMap (·.changed)

theorem pending_erase {calls : List AccessCall} {call : Nat} {c : AccessCall}
    (there : calls[call]? = some c) :
    (pending calls).Perm (c.changed.toList ++ pending (calls.eraseIdx call)) := by
  obtain ⟨short, here⟩ := List.getElem?_eq_some_iff.mp there
  have apart := (List.getElem_cons_eraseIdx_perm short).symm.filterMap (·.changed)
  rw [here] at apart
  refine apart.trans ?_
  cases changed : c.changed <;> simp [pending, changed]

/-- Every change is recorded, is still to be recorded, or its request broke off, each once. -/
def Recorded (s : AccessSystem) : Prop :=
  (s.changes.map AccessChange.audit).Perm
    (s.db.audit ++ (pending s.calls ++ s.lost).map AccessChange.audit)

theorem Recorded.next (recorded : Recorded s) (a : AccessAction) :
    Recorded (s.next settings a) := by
  unfold Recorded at recorded ⊢
  cases a with
  | arrive token request =>
      simp only [AccessSystem.next, AccessSystem.arrive]
      split
      · simpa [pending] using recorded
      · exact recorded
  | change call draw =>
      simp only [AccessSystem.next]
      cases there : s.calls[call]? with
      | none => exact recorded
      | some c =>
          have apart := pending_erase there
          simp only [Option.elim, AccessSystem.changeOf]
          split
          · exact recorded
          · rename_i fresh
            have none : c.changed = none := by simpa using fresh
            rw [none, Option.toList_none, List.nil_append] at apart
            have moved := recorded.trans
              (((apart.append_right s.lost).map AccessChange.audit).append_left s.db.audit)
            split
            · rename_i u db ran
              simp only [audit_change ran, pending, List.filterMap_cons, List.map_cons,
                List.cons_append]
              exact (moved.cons _).trans List.perm_middle.symm
            · exact moved
  | record call =>
      simp only [AccessSystem.next]
      cases there : s.calls[call]? with
      | none => exact recorded
      | some c =>
          have apart := pending_erase there
          cases changed : c.changed with
          | none => simpa [changed] using recorded
          | some change =>
              rw [changed, Option.toList_some, List.singleton_append] at apart
              have moved := recorded.trans
                (((apart.append_right s.lost).map AccessChange.audit).append_left s.db.audit)
              simp only [Option.bind_some, changed, Option.elim, AccessSystem.record]
              refine moved.trans ?_
              simp only [List.cons_append, List.map_cons]
              exact List.perm_middle
  | breakOff call =>
      simp only [AccessSystem.next]
      cases there : s.calls[call]? with
      | none =>
          rw [List.eraseIdx_of_length_le (List.getElem?_eq_none_iff.mp there)]
          simpa using recorded
      | some c =>
          have apart := pending_erase there
          refine recorded.trans ((List.Perm.map _ ?_).append_left s.db.audit)
          refine (apart.append_right s.lost).trans ?_
          rw [Option.bind_some, List.append_assoc]
          refine List.perm_append_comm.trans ?_
          rw [List.append_assoc]
          exact List.perm_append_comm.append_left _
  | wait span => exact recorded

/-- However requests interleave and break off, each change has one record or is one of those that
are still to be recorded or broke off. -/
theorem changes_recorded (settings : AccessSettings) (as : List AccessAction) :
    Recorded ((machine settings).run {} as) :=
  Machine.Reachable.invariant (M := machine settings) (I := Recorded) ⟨as, rfl⟩ .nil
    fun _ a recorded => recorded.next a

end Records

end AccessSystem
end CoffeeCloud
