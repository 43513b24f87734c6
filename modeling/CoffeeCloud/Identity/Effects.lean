import CoffeeCloud.Identity.System

/-!
What the services of device identity do to the stored rows: every transaction is
one change of the activation codes and one change of the credentials.
-/
namespace CoffeeCloud
open Library Tx

variable {env : IdentityEnv} {db db' : IdentityDb} {now : Time}

/-- The rows after a change: each earlier row changed in place, and the added row, if any, which
has an id and a token of its own. -/
def CredentialChange.Makes (change : CredentialChange) (t t' : Table Credential) : Prop :=
  (∀ c ∈ change.added, t.find? c.id = none ∧
    ∀ k c', t.find? k = some c' → c'.tokenHash ≠ c.tokenHash) ∧
    ∀ k, t'.find? k =
      match change.added with
      | some c => if k = c.id then some c else (t.find? k).map change.row
      | none => (t.find? k).map change.row

namespace CredentialChange

theorem makes_same (t : Table Credential) : CredentialChange.same.Makes t t := by
  refine ⟨by simp [added], ?_⟩
  intro k
  cases t.find? k <;> simp [added, row]

variable {change : CredentialChange} {t : Table Credential} {p : Credential → Bool}
  {f : Credential → Credential}

theorem makes_of_modifyWhere (hf : ∀ c, (f c).id = c.id) (nothing : change.added = none)
    (each : ∀ c, change.row c = if p c then f c else c) :
    change.Makes t (t.modifyWhere p f hf) := by
  refine ⟨by simp [nothing], ?_⟩
  intro k
  simp only [nothing, Table.find?_modifyWhere t p k f hf, ← each]

theorem makes_of_insert {c : Credential} (hf : ∀ c, (f c).id = c.id)
    (something : change.added = some c) (fresh : (t.modifyWhere p f hf).find? c.id = none)
    (token : t.first? (fun d => d.tokenHash = c.tokenHash) = none)
    (each : ∀ c, change.row c = if p c then f c else c) :
    change.Makes t ((t.modifyWhere p f hf).insert c) := by
  have free := fresh
  rw [Table.find?_modifyWhere t p c.id f hf, Option.map_eq_none_iff] at free
  rw [Table.first?_none] at token
  refine ⟨?_, ?_⟩
  · intro d added
    cases something.symm.trans added
    exact ⟨free, fun k c' found => by simpa using token c' (Table.mem_of_find? found)⟩
  intro k
  simp only [something, Table.find?_insert _ _ k fresh, Table.find?_modifyWhere t p k f hf, ← each]
  rfl

end CredentialChange

namespace DeviceIdentityService
open CredentialChange

theorem ran_terminal {identifier : String} {device : Device} :
    Ran (terminal identifier) db device db' ↔
      TerminalRepository.named db identifier = some device ∧ db = db' := by
  simp only [terminal, TerminalRepository.find, ran_read_bind, ran_require]

theorem createHttpCredential_effect {credential c : Credential}
    (h : Ran (IdentityRepository.createHttpCredential credential) db c db') :
    c = credential ∧ db.credentials.find? credential.id = none ∧
      db.credentials.first? (fun d => d.tokenHash = credential.tokenHash) = none ∧
      db' = { db with credentials := db.credentials.insert credential } := by
  simp only [IdentityRepository.createHttpCredential, ran_read_bind, ran_ensure_bind, id_eq,
    Option.isNone_iff_eq_none, ran_write_bind, ran_pure] at h
  obtain ⟨fresh, token, -, -, rfl, rfl⟩ := h
  exact ⟨rfl, fresh, token, rfl⟩

theorem replaceCredential_effect {terminalId : Id} {tokenHash : String} {fresh : FreshCredential}
    {c : Credential} (h : Ran (replaceCredential env terminalId tokenHash fresh now) db c db') :
    c.terminalId = terminalId ∧ c.status = .active ∧ c.graceExpiresAt = none ∧
      c.rotatedFromId = none ∧ db'.activations = db.activations ∧
      (replace (now + seconds env.credentialGraceSeconds) c).Makes db.credentials
        db'.credentials := by
  simp only [replaceCredential, IdentityRepository.nextHttpVersion,
    IdentityRepository.graceActiveHttpCredentials, ran_read_bind, ran_write_bind] at h
  obtain ⟨rfl, fresh, token, rfl⟩ := createHttpCredential_effect h
  rw [Table.first?_modifyWhere, Option.map_eq_none_iff] at token
  · refine ⟨rfl, rfl, rfl, rfl, rfl, makes_of_insert (by intro; rfl) rfl fresh token ?_⟩
    intro c
    simp [row]
  · intro
    rfl

/-- A code that lets its caller in is either consumed already, or pending and consumed now. -/
theorem activate_effect {r : ActivationRequest} {fresh : FreshCredential}
    {payload : CredentialPayload} (h : Ran (activate env r fresh now) db payload db') :
    db' = db ∨ ∃ device a c, TerminalRepository.named db r.deviceId = some device ∧
      db.activations.find? a.id = some a ∧ a.terminalId = device.id ∧
      a.codeHash = env.hashToken r.activationCode ∧ a.status = .pending ∧ now < a.expiresAt ∧
      c.terminalId = device.id ∧ c.status = .active ∧ c.graceExpiresAt = none ∧
      c.rotatedFromId = none ∧
      db'.activations = (ActivationChange.consume a.id c.id).apply db.activations ∧
      (replace (now + seconds env.credentialGraceSeconds) c).Makes db.credentials
        db'.credentials := by
  simp only [activate] at h
  rw [ran_bind] at h
  obtain ⟨device, t, addressed, h⟩ := h
  obtain ⟨named, rfl⟩ := ran_terminal.mp addressed
  simp only [IdentityRepository.activationByCode, ran_ensure_bind, ran_read_bind] at h
  obtain ⟨-, h⟩ := h
  split at h
  · simp at h
  · rename_i a byCode
    obtain ⟨mem, selected⟩ := Table.head?_select_some byCode
    simp only [Bool.and_eq_true, decide_eq_true_eq] at selected
    rw [ran_ite] at h
    rcases h with ⟨-, h⟩ | ⟨-, h⟩
    · refine .inl ?_
      simp only [replayActivation] at h
      cases consumedBy : a.consumedCredentialId with
      | none =>
          simp only [consumedBy, pure_bind, Option.filter_none, ran_require_bind, reduceCtorEq,
            false_and, exists_false] at h
      | some k =>
          simp only [consumedBy, IdentityRepository.credentialById, ran_read_bind,
            ran_require_bind, ran_pure] at h
          obtain ⟨-, -, -, rfl⟩ := h
          rfl
    · rw [ran_ite] at h
      rcases h with ⟨-, h⟩ | ⟨live, h⟩
      · simp at h
      · refine .inr ?_
        simp only [not_or, not_not, not_le] at live
        simp only [consumeCode, IdentityRepository.tokenExists, ran_read_bind,
          ran_ensure_bind] at h
        obtain ⟨-, h⟩ := h
        rw [ran_bind] at h
        obtain ⟨c, t, replaced, h⟩ := h
        obtain ⟨mine, active, ungraced, unrotated, sameActivations, makes⟩ :=
          replaceCredential_effect replaced
        simp only [IdentityRepository.consumeActivation, IdentityRepository.modifyActivation,
          IdentityRepository.activateTerminal, ran_write_bind, ran_pure] at h
        obtain ⟨-, rfl⟩ := h
        refine ⟨device, a, c, named, Table.find?_of_mem mem, selected.1, selected.2, live.1, live.2,
          mine, active, ungraced, unrotated, ?_, makes⟩
        simp only [sameActivations]
        rfl

theorem createActivationCode_effect {identifier code : String} {ttl : Option Int}
    {id activationId : Id} {u : Unit}
    (h : Ran (createActivationCode env identifier ttl code id activationId now) db u db') :
    db'.credentials = db.credentials ∧ ∃ a : Activation, a.status = .pending ∧ a.attemptCount = 0 ∧
      a.maxAttempts = env.activationMaxAttempts ∧ db.activations.find? a.id = none ∧
      db'.activations = (ActivationChange.reissue a).apply db.activations := by
  simp only [createActivationCode] at h
  rw [ran_bind] at h
  obtain ⟨device, t, addressed, h⟩ := h
  obtain ⟨-, rfl⟩ := ran_terminal.mp addressed
  simp only [IdentityRepository.cancelPendingActivations, IdentityRepository.createActivation,
    ran_write_bind, ran_read_bind, ran_ensure_bind, id_eq, ran_write,
    Option.isNone_iff_eq_none] at h
  obtain ⟨fresh, -, -, rfl⟩ := h
  rw [Table.find?_modifyWhere, Option.map_eq_none_iff] at fresh
  exact ⟨rfl, { id, activationId, terminalId := device.id, codeHash := env.hashToken code
                maxAttempts := env.activationMaxAttempts
                expiresAt := now + seconds (activationTtl env ttl) }, rfl, rfl, rfl, fresh, rfl⟩

theorem revokeHttp_effect {identifier : String} {credentialId : Id} {payload : CredentialPayload}
    (h : Ran (revokeHttp identifier credentialId) db payload db') :
    db'.activations = db.activations ∧
      ∃ device : Device, (revoke device.id credentialId).Makes db.credentials db'.credentials := by
  simp only [revokeHttp] at h
  rw [ran_bind] at h
  obtain ⟨device, t, addressed, h⟩ := h
  obtain ⟨-, rfl⟩ := ran_terminal.mp addressed
  simp only [IdentityRepository.httpCredential, IdentityRepository.revokeHttpCredential,
    ran_read_bind, ran_require_bind, ran_write_bind, bind_assoc, pure_bind, ran_pure, id_eq] at h
  obtain ⟨-, -, -, rfl⟩ := h
  refine ⟨rfl, device, makes_of_modifyWhere (by intro; rfl) rfl ?_⟩
  intro c
  simp [row, and_assoc]

theorem authenticate_effect {deviceId : String} {headerDevice token : Option String}
    {identity : Identity}
    (h : Ran (authenticate env deviceId headerDevice token now) db identity db') :
    db' = db ∧ ∃ c, db.credentials.find? identity.credentialDbId = some c ∧
      c.terminalId = identity.id ∧ (∀ t ∈ token, c.tokenHash = env.hashToken t) ∧
      IdentityRepository.isAccepted now c = true := by
  simp only [authenticate, IdentityRepository.authenticate, ran_ensure_bind, ran_require_bind,
    ran_read_bind, ran_pure] at h
  obtain ⟨-, token, rfl, ⟨device, c⟩, found, rfl, rfl⟩ := h
  simp only [Option.bind_eq_bind, Option.pure_def, Option.bind_eq_some_iff, Option.some.injEq,
    Prod.mk.injEq] at found
  obtain ⟨device, -, c, found, rfl, rfl⟩ := found
  obtain ⟨mem, selected⟩ := Table.first?_some found
  simp only [decide_eq_true_eq] at selected
  exact ⟨rfl, c, Table.find?_of_mem mem, selected.1, by simp [selected.2.1], selected.2.2⟩

/-- What it takes for a rotation to take effect: a usable and new key, an existing credential,
a token nobody has, unused identifiers. -/
structure Effective (env : IdentityEnv) (db : IdentityDb) (identity : Identity) (r : RotationCall)
    (fresh : FreshCredential) (old : Credential) : Prop where
  key : ∃ key, r.idempotencyKey = some key ∧ (key ≠ "" ∧ key.length ≤ 160) ∧
    db.rotations.find? (identity.id, key) = none
  found : db.credentials.find? identity.credentialDbId = some old
  token : db.credentials.first? (fun c => c.tokenHash = env.hashToken r.newToken) = none
  id : db.credentials.find? fresh.id = none
  credentialId : db.credentials.first? (fun c => c.credentialId = fresh.credentialId) = none

/-- A rotation answers an earlier one again, or it takes effect. -/
theorem rotateHttp_effect {identity : Identity} {r : RotationCall} {fresh : FreshCredential}
    {response : RotationResponse} (h : Ran (rotateHttp env identity r fresh now) db response db') :
    db' = db ∨ ∃ old c, Effective env db identity r fresh old ∧ c.terminalId = identity.id ∧
      c.status = .active ∧ c.graceExpiresAt = none ∧ c.rotatedFromId = some old.id ∧
      db'.activations = db.activations ∧
      (rotate old.id (now + seconds env.credentialGraceSeconds) c).Makes db.credentials
        db'.credentials := by
  simp only [rotateHttp, IdentityRepository.rotationRequest, ran_require_bind, ran_read_bind,
    Option.filter_eq_some_iff, decide_eq_true_eq] at h
  obtain ⟨key, ⟨given, usable⟩, h⟩ := h
  split at h
  · simp only [replayRotation, ran_ensure_bind, ran_pure] at h
    exact .inl h.2.2.symm
  · rename_i unused
    refine .inr ?_
    simp only [IdentityRepository.credentialById, IdentityRepository.tokenExists,
      IdentityRepository.graceHttpCredential, IdentityRepository.nextHttpVersion,
      IdentityRepository.createHttpCredential, IdentityRepository.saveRotationRequest,
      ran_require_bind, ran_read_bind, ran_ensure_bind, ran_write_bind, bind_assoc, pure_bind,
      ran_pure, id_eq, Option.isNone_iff_eq_none] at h
    obtain ⟨old, found, -, newToken, freshRow, -, freshId, -, -, -, rfl⟩ := h
    rw [Table.modify, Table.first?_modifyWhere] at freshId
    · have free := freshRow
      rw [Table.find?_modify] at free
      refine ⟨old, _, ⟨⟨key, given, usable, unused⟩, found, by simpa using newToken, ?_, by simpa using freshId⟩,
        rfl, rfl, rfl, rfl, rfl,
        makes_of_insert (by intro; rfl) rfl freshRow (by simpa using newToken) ?_⟩
      · split at free <;> simpa using free
      · intro c
        simp [row, Keyed.key]
    · intro
      rfl

theorem nextHttpVersion_gt {t : Table Credential} {terminalId : Id} {c : Credential}
    (mem : c ∈ t.rows) (mine : c.terminalId = terminalId) :
    c.version <
      ((t.rows.filter (·.terminalId = terminalId)).map (·.version)).max?.getD 0 + 1 := by
  have there : c.version ∈ (t.rows.filter (·.terminalId = terminalId)).map (·.version) :=
    List.mem_map_of_mem (List.mem_filter.mpr ⟨mem, by simpa using mine⟩)
  cases top : ((t.rows.filter (·.terminalId = terminalId)).map (·.version)).max? with
  | none =>
      rw [List.max?_eq_none_iff] at top
      simp [top] at there
  | some m =>
      have := (List.max?_eq_some_iff.mp top).2 _ there
      simp only [Option.getD_some]
      omega

theorem createHttpCredential_yields {c : Credential} {β : Type}
    {k : Credential → IdentitySql β} {Q : β → IdentityDb → Prop}
    (id : db.credentials.find? c.id = none)
    (token : db.credentials.first? (fun d => d.tokenHash = c.tokenHash) = none)
    (credentialId : db.credentials.first? (fun d => d.credentialId = c.credentialId) = none)
    (version : ∀ d ∈ db.credentials.rows, d.terminalId = c.terminalId → d.version < c.version)
    (rest : Yields (k c) { db with credentials := db.credentials.insert c } Q) :
    Yields (IdentityRepository.createHttpCredential c >>= k) db Q := by
  have noVersion : db.credentials.first? (fun d =>
      d.terminalId = c.terminalId ∧ d.version = c.version) = none := by
    rw [Table.first?_none]
    intro d mem
    rw [decide_eq_false_iff_not]
    rintro ⟨mine, equal⟩
    have := version d mem mine
    omega
  simp only [IdentityRepository.createHttpCredential, bind_assoc, pure_bind, yields_read_bind, id_eq]
  rw [yields_ensure_bind (by simp [id]), yields_ensure_bind (by simp [token]),
    yields_ensure_bind (by simp [credentialId]), yields_ensure_bind (by simpa using noVersion),
    yields_write_bind]
  exact rest

/-- A rotation that has what it takes runs, and moves the credential it starts from to grace. -/
theorem rotateHttp_yields {identity : Identity} {r : RotationCall} {fresh : FreshCredential}
    {old : Credential} (now : Time) (effective : Effective env db identity r fresh old) :
    Yields (rotateHttp env identity r fresh now) db fun _ db' =>
      db'.credentials.find? old.id = some { old with
        status := .grace, graceExpiresAt := some (now + seconds env.credentialGraceSeconds) } := by
  obtain ⟨key, given, usable, unused⟩ := effective.key
  have same : old.id = identity.credentialDbId := Table.key_of_find? effective.found
  have here : db.credentials.find? old.id = some old := same ▸ effective.found
  have other : old.tokenHash ≠ env.hashToken r.newToken := by
    simpa using Table.first?_none.mp effective.token old (Table.mem_of_find? here)
  simp only [rotateHttp, IdentityRepository.rotationRequest, IdentityRepository.credentialById,
    IdentityRepository.tokenExists, IdentityRepository.graceHttpCredential,
    IdentityRepository.nextHttpVersion, IdentityRepository.saveRotationRequest, bind_assoc]
  rw [yields_require_bind (a := key) (by simp [given, usable]), yields_read_bind]
  simp only [unused, yields_read_bind]
  rw [yields_require_bind effective.found, yields_ensure_bind other, yields_read_bind,
    yields_ensure_bind (by simp [effective.token]), yields_write_bind, yields_read_bind]
  apply createHttpCredential_yields
  · simp [Table.find?_modify, effective.id]
  · exact (Table.first?_modify_none (by intro; rfl) (by intro; rfl)).mpr effective.token
  · exact (Table.first?_modify_none (by intro; rfl) (by intro; rfl)).mpr effective.credentialId
  · exact fun d mem mine => nextHttpVersion_gt mem mine
  · simp only [yields_read_bind, id_eq]
    rw [yields_ensure_bind (by simp [unused]), yields_write_bind, yields_pure]
    exact Table.find?_insert_of_some (by simp [Table.find?_modify, here])

end DeviceIdentityService

namespace SimulatorPairingService
open CredentialChange

theorem provision_effect {sessionId : Id} {r : ProvisionRequest}
    {verified : PairingSession → Except Failure Unit}
    {fresh : DeviceIdentityService.FreshCredential} {payload : CredentialPayload}
    (h : Ran (provision env sessionId r verified fresh now) db payload db') :
    db'.activations = db.activations ∧
      (db'.credentials = db.credentials ∨ ∃ c, c.status = .active ∧ c.graceExpiresAt = none ∧
        c.rotatedFromId = none ∧
        (replace (now + seconds env.credentialGraceSeconds) c).Makes db.credentials
          db'.credentials) := by
  have known {row : PairingSession} {tokenHash : String} {o : Option Credential} {t : IdentityDb}
      (h : Ran (knownCredential row tokenHash) db o t) : t = db := by
    simp only [knownCredential, SimulatorPairingRepository.provisionedCredential,
      SimulatorPairingRepository.credentialForToken, ran_ite, ran_read_bind, ran_require_bind,
      ran_pure, ran_read] at h
    rcases h with ⟨-, -, -, -, rfl⟩ | ⟨-, -, rfl⟩ <;> rfl
  simp only [provision, SimulatorPairingRepository.session, ran_read_bind, ran_require_bind] at h
  obtain ⟨row, -, h⟩ := h
  split at h
  · simp at h
  · rw [ran_bind] at h
    obtain ⟨_, t, live, h⟩ := h
    rw [ran_onlyIf] at live
    rcases live with ⟨-, live⟩ | ⟨-, rfl⟩
    · simp at live
    · rw [ran_ensure_bind, ran_bind] at h
      obtain ⟨-, credential, u, had, h⟩ := h
      simp only [IdentityRepository.activateTerminal, SimulatorPairingRepository.markProvisioned,
        ran_write_bind, ran_pure] at h
      obtain ⟨-, rfl⟩ := h
      simp only [sessionCredential] at had
      rw [ran_bind] at had
      obtain ⟨found, v, sub, had⟩ := had
      cases known sub
      cases found with
      | some c =>
          simp only [ran_pure] at had
          obtain ⟨-, rfl⟩ := had
          exact ⟨rfl, .inl rfl⟩
      | none =>
          simp only [IdentityRepository.tokenExists, ran_read_bind, ran_ensure_bind] at had
          obtain ⟨-, active, ungraced, unrotated, sameActivations, makes⟩ :=
            DeviceIdentityService.replaceCredential_effect had.2
          exact ⟨sameActivations, .inr ⟨credential, active, ungraced, unrotated, makes⟩⟩

end SimulatorPairingService

namespace IdentitySystem
open DeviceIdentityService

/-- A step ran its transaction, or it raised and left everything as it was. -/
theorem step_cases (env : IdentityEnv) (s : IdentitySystem) (a : IdentityAction) :
    (∃ answer logins db, Ran (body env s.logins a) s.db (answer, logins) db ∧
      (machine env).step s a = ⟨db, s.logins ++ logins⟩) ∨ (machine env).step s a = s := by
  simp only [Ran, machine, Machine.step]
  cases h : body env s.logins a s.db with
  | error e => exact .inr rfl
  | ok r => exact .inl ⟨r.1.1, r.1.2, r.2, rfl, rfl⟩

theorem ran_answering {α : Type} {m : IdentitySql α} {answer : α → IdentityAnswer}
    {o : IdentityAnswer × List Identity} (h : Ran (answering m answer) db o db') :
    o.2 = [] ∧ ∃ a, Ran m db a db' := by
  simp only [answering, ran_bind, ran_pure] at h
  obtain ⟨a, _, ran, rfl, rfl⟩ := h
  exact ⟨rfl, a, ran⟩

/-- A login is left by an authentication, for a credential that is there. -/
theorem body_logins {s : IdentitySystem} {a : IdentityAction}
    {o : IdentityAnswer × List Identity} (h : Ran (body env s.logins a) s.db o db') :
    ∀ identity ∈ o.2, ∃ c, s.db.credentials.find? identity.credentialDbId = some c ∧
      c.terminalId = identity.id := by
  intro identity mem
  cases a with
  | authenticate deviceId headerDevice token now =>
      simp only [body, ran_bind, ran_pure] at h
      obtain ⟨found, _, ran, rfl, rfl⟩ := h
      obtain ⟨-, c, there, mine, -⟩ := authenticate_effect ran
      cases List.mem_singleton.mp mem
      exact ⟨c, there, mine⟩
  | rotateHttp login r fresh now =>
      simp only [body] at h
      split at h
      · simp [(ran_answering h).1] at mem
      · simp only [ran_pure] at h
        simp [← h.1] at mem
  | _ => simp [(ran_answering h).1] at mem

/-- What a step can do to the activation codes. -/
inductive Activates (env : IdentityEnv) (s : IdentitySystem) :
    IdentityAction → ActivationChange → Prop
  | same (a : IdentityAction) : Activates env s a .same
  | reissue (identifier : String) (ttl : Option Int) (code : String) (id activationId : Id)
      (now : Time) (activation : Activation) (pending : activation.status = .pending)
      (uncounted : activation.attemptCount = 0)
      (bound : activation.maxAttempts = env.activationMaxAttempts)
      (fresh : s.db.activations.find? activation.id = none) :
      Activates env s (.createActivationCode identifier ttl code id activationId now)
        (.reissue activation)
  | consume (r : ActivationRequest) (fresh : FreshCredential) (now : Time) (activation : Activation)
      (credentialDbId : Id) (found : s.db.activations.find? activation.id = some activation)
      (byCode : activation.codeHash = env.hashToken r.activationCode)
      (pending : activation.status = .pending) :
      Activates env s (.activate r fresh now) (.consume activation.id credentialDbId)

/-- What a step can do to the credentials. -/
inductive Issues (env : IdentityEnv) (s : IdentitySystem) :
    IdentityAction → CredentialChange → Prop
  | same (a : IdentityAction) : Issues env s a .same
  | replace (a : IdentityAction) (now : Time) (c : Credential) (active : c.status = .active)
      (ungraced : c.graceExpiresAt = none) (unrotated : c.rotatedFromId = none) :
      Issues env s a (.replace (now + seconds env.credentialGraceSeconds) c)
  | rotate (login : Nat) (identity : Identity) (r : RotationCall) (fresh : FreshCredential)
      (now : Time) (old c : Credential) (carried : s.logins[login]? = some identity)
      (effective : Effective env s.db identity r fresh old) (mine : c.terminalId = identity.id)
      (active : c.status = .active) (ungraced : c.graceExpiresAt = none)
      (rotated : c.rotatedFromId = some old.id) :
      Issues env s (.rotateHttp login r fresh now)
        (.rotate old.id (now + seconds env.credentialGraceSeconds) c)
  | revoke (identifier : String) (terminalId credentialId : Id) :
      Issues env s (.revokeHttp identifier credentialId) (.revoke terminalId credentialId)
  | expire (now : Time) : Issues env s (.expireCredentials now) (.expire now)

theorem expire_makes (t : Table Credential) :
    (CredentialChange.expire now).Makes t
      (t.modifyWhere
        (fun c => (c.status = .grace ∧ c.graceExpiresAt.any (· ≤ now)) ∨
          (c.status = .active ∧ c.expiresAt.any (· ≤ now)))
        (fun c => { c with status := .expired }) (fun _ => rfl)) := by
  refine CredentialChange.makes_of_modifyWhere (by intro; rfl) rfl ?_
  intro c
  simp [CredentialChange.row]

/-- One step is one change of the activation codes and one of the credentials. -/
theorem step_changes (env : IdentityEnv) (s : IdentitySystem) (a : IdentityAction) :
    (∃ change, Activates env s a change ∧
      ((machine env).step s a).db.activations = change.apply s.db.activations) ∧
    ∃ change, Issues env s a change ∧
      change.Makes s.db.credentials ((machine env).step s a).db.credentials := by
  have rest {t : IdentitySystem} (h : t.db.activations = s.db.activations)
      (h' : t.db.credentials = s.db.credentials) :
      (∃ change, Activates env s a change ∧ t.db.activations = change.apply s.db.activations) ∧
        ∃ change, Issues env s a change ∧ change.Makes s.db.credentials t.db.credentials :=
    ⟨⟨.same, .same a, h⟩, .same, .same a, h' ▸ CredentialChange.makes_same _⟩
  rcases step_cases env s a with ⟨answer, logins, db, ran, step⟩ | step
  · rw [step]
    cases a with
    | registerDevice device =>
        obtain ⟨-, _, ran⟩ := ran_answering ran
        simp only [registerDevice, ran_read_bind, ran_ensure_bind, ran_write] at ran
        obtain ⟨-, -, -, rfl⟩ := ran
        exact rest rfl rfl
    | setSession session =>
        obtain ⟨-, _, ran⟩ := ran_answering ran
        simp only [setSession, ran_write] at ran
        exact rest (ran ▸ rfl) (ran ▸ rfl)
    | createActivationCode identifier ttl code id activationId now =>
        obtain ⟨-, _, ran⟩ := ran_answering ran
        obtain ⟨sameCredentials, activation, pending, uncounted, bound, fresh, made⟩ :=
          createActivationCode_effect ran
        exact ⟨⟨_, .reissue _ _ _ _ _ _ activation pending uncounted bound fresh, made⟩, .same,
          .same _, sameCredentials ▸ CredentialChange.makes_same _⟩
    | revokeHttp identifier credentialId =>
        obtain ⟨-, _, ran⟩ := ran_answering ran
        obtain ⟨sameActivations, device, makes⟩ := revokeHttp_effect ran
        exact ⟨⟨.same, .same _, sameActivations⟩, _, .revoke identifier device.id credentialId, makes⟩
    | activate r fresh now =>
        obtain ⟨-, _, ran⟩ := ran_answering ran
        rcases activate_effect ran with rfl |
          ⟨device, activation, c, -, found, -, byCode, pending, -, -, active, ungraced, unrotated,
            made, makes⟩
        · exact rest rfl rfl
        · exact ⟨⟨_, .consume r fresh now activation c.id found byCode pending, made⟩, _,
            .replace _ now c active ungraced unrotated, makes⟩
    | authenticate deviceId headerDevice token now =>
        simp only [body, ran_bind, ran_pure] at ran
        obtain ⟨identity, _, ran, -, rfl⟩ := ran
        obtain ⟨rfl, -⟩ := authenticate_effect ran
        exact rest rfl rfl
    | rotateHttp login r fresh now =>
        simp only [body] at ran
        split at ran
        · rename_i identity carried
          obtain ⟨-, _, ran⟩ := ran_answering ran
          rcases rotateHttp_effect ran with rfl |
            ⟨old, c, effective, mine, active, ungraced, rotated, sameActivations, makes⟩
          · exact rest rfl rfl
          · exact ⟨⟨.same, .same _, sameActivations⟩, _,
              .rotate login identity r fresh now old c carried effective mine active ungraced rotated,
              makes⟩
        · simp only [ran_pure] at ran
          obtain ⟨-, rfl⟩ := ran
          exact rest rfl rfl
    | provision sessionId r verified fresh now =>
        obtain ⟨-, _, ran⟩ := ran_answering ran
        obtain ⟨sameActivations, unchanged | ⟨c, active, ungraced, unrotated, makes⟩⟩ :=
          SimulatorPairingService.provision_effect ran
        · exact rest sameActivations unchanged
        · exact ⟨⟨.same, .same _, sameActivations⟩, _, .replace _ now c active ungraced unrotated,
            makes⟩
    | expireCredentials now =>
        obtain ⟨-, _, ran⟩ := ran_answering ran
        simp only [WorkerRepository.expireCredentials, ran_write] at ran
        subst ran
        exact ⟨⟨.same, .same _, rfl⟩, _, .expire now, expire_makes _⟩
  · rw [step]
    exact rest rfl rfl

end IdentitySystem
end CoffeeCloud
