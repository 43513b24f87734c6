import CoffeeCloud.Identity.Effects

/-!
HTTP credentials over whole runs. A rotation addresses the credential it starts
from by row id and looks at nothing else of it, so it also moves a revoked or an
expired credential back to grace. Where every rotation starts from a credential
in good standing, revocation is final, grace only runs out and a terminal has
one active credential.
-/
namespace CoffeeCloud
open Library Tx

namespace IdentitySystem
open DeviceIdentityService

variable {env : IdentityEnv} {s : IdentitySystem} {a : IdentityAction}

/-- A rotation at `now` that takes effect, and the credential it starts from. -/
def Rotates (env : IdentityEnv) (s : IdentitySystem) (a : IdentityAction) (now : Time)
    (old : Credential) : Prop :=
  ∃ login identity r fresh, a = .rotateHttp login r fresh now ∧
    s.logins[login]? = some identity ∧ Effective env s.db identity r fresh old

theorem Rotates.found {now : Time} {old : Credential} (h : Rotates env s a now old) :
    s.db.credentials.find? old.id = some old := by
  obtain ⟨login, identity, r, fresh, -, -, effective⟩ := h
  have same : old.id = identity.credentialDbId := Table.key_of_find? effective.found
  exact same ▸ effective.found

theorem Rotates.step {now : Time} {old : Credential} (h : Rotates env s a now old) :
    ((machine env).step s a).db.credentials.find? old.id = some { old with
      status := .grace, graceExpiresAt := some (now + seconds env.credentialGraceSeconds) } := by
  obtain ⟨login, identity, r, fresh, rfl, carried, effective⟩ := h
  obtain ⟨response, db, ran, moved⟩ := rotateHttp_yields now effective
  have result : body env s.logins (.rotateHttp login r fresh now) s.db =
      .ok ((.rotated response, []), db) := by
    have work : Ran (answering (rotateHttp env identity r fresh now) .rotated) s.db
        (.rotated response, []) db := by
      simp only [answering, ran_bind, ran_pure]
      exact ⟨response, db, ran, rfl, rfl⟩
    simp only [body, carried]
    exact work
  simp only [Machine.step, machine, result]
  exact moved

/-- One change says what becomes of each row: a row that is there is changed in place, and a row
that is there afterwards was there before or is the added one, with a token of its own. -/
theorem step_rows (env : IdentityEnv) (s : IdentitySystem) (a : IdentityAction) :
    ∃ change, Issues env s a change ∧
      (∀ k c, s.db.credentials.find? k = some c →
        ((machine env).step s a).db.credentials.find? k = some (change.row c)) ∧
      ∀ k d, ((machine env).step s a).db.credentials.find? k = some d →
        (∃ c, s.db.credentials.find? k = some c ∧ d = change.row c) ∨
          (change.added = some d ∧ k = d.id ∧
            ∀ j c, s.db.credentials.find? j = some c → c.tokenHash ≠ d.tokenHash) := by
  obtain ⟨-, change, issues, fresh, rows⟩ := step_changes env s a
  refine ⟨change, issues, ?_, ?_⟩
  · intro k c found
    rw [rows k]
    cases added : change.added with
    | none => simp [found]
    | some d =>
        have distinct : k ≠ d.id := by
          rintro rfl
          simp [(fresh d added).1] at found
        simp [distinct, found]
  · intro k d found
    rw [rows k] at found
    have kept (h : (s.db.credentials.find? k).map change.row = some d) :
        ∃ c, s.db.credentials.find? k = some c ∧ d = change.row c := by
      obtain ⟨c, there, rfl⟩ := Option.map_eq_some_iff.mp h
      exact ⟨c, there, rfl⟩
    cases added : change.added with
    | none =>
        simp only [added] at found
        exact .inl (kept found)
    | some new =>
        simp only [added] at found
        split at found
        · rename_i isNew
          cases found
          exact .inr ⟨rfl, isNew, (fresh d added).2⟩
        · exact .inl (kept found)

/-- A change keeps what identifies a row. -/
theorem row_tokenHash (change : CredentialChange) (c : Credential) :
    (change.row c).tokenHash = c.tokenHash := by
  cases change <;> simp only [CredentialChange.row] <;> split <;> rfl

theorem row_rotatedFromId (change : CredentialChange) (c : Credential) :
    (change.row c).rotatedFromId = c.rotatedFromId := by
  cases change <;> simp only [CredentialChange.row] <;> split <;> rfl

theorem row_terminalId (change : CredentialChange) (c : Credential) :
    (change.row c).terminalId = c.terminalId := by
  cases change <;> simp only [CredentialChange.row] <;> split <;> rfl

/-- No two credentials share a token. -/
def DistinctTokens (s : IdentitySystem) : Prop :=
  ∀ j k c d, s.db.credentials.find? j = some c → s.db.credentials.find? k = some d →
    c.tokenHash = d.tokenHash → j = k

theorem distinctTokens_step (distinct : DistinctTokens s) :
    DistinctTokens ((machine env).step s a) := by
  obtain ⟨change, -, -, back⟩ := step_rows env s a
  intro j k c d foundC foundD same
  rcases back j c foundC with ⟨c, there, rfl⟩ | ⟨addedC, rfl, own⟩
  · rw [row_tokenHash] at same
    rcases back k d foundD with ⟨d, there', rfl⟩ | ⟨-, -, own⟩
    · rw [row_tokenHash] at same
      exact distinct j k c d there there' same
    · exact absurd same (own j c there)
  · rcases back k d foundD with ⟨d, there', rfl⟩ | ⟨addedD, rfl, -⟩
    · rw [row_tokenHash] at same
      exact absurd same.symm (own k d there')
    · cases addedC.symm.trans addedD
      rfl

theorem distinctTokens_run (as : List IdentityAction) :
    DistinctTokens ((machine env).run {} as) :=
  Machine.invariant_run (fun _ _ distinct _ => distinctTokens_step distinct)
    (by simp [DistinctTokens]) ((machine env).along_true {} as)

/-! Revocation. -/

def Revoked (k : Id) (s : IdentitySystem) : Prop :=
  ∃ c, s.db.credentials.find? k = some c ∧ c.status = .revoked

/-- No rotation that takes effect starts from a revoked credential. -/
def SparesRevoked (env : IdentityEnv) (s : IdentitySystem) (a : IdentityAction) : Prop :=
  ∀ now old, Rotates env s a now old → old.status ≠ .revoked

theorem revoked_step {k : Id} (revoked : Revoked k s) (spares : SparesRevoked env s a) :
    Revoked k ((machine env).step s a) := by
  obtain ⟨c, found, status⟩ := revoked
  obtain ⟨change, issues, kept, -⟩ := step_rows env s a
  refine ⟨change.row c, kept k c found, ?_⟩
  cases issues with
  | same => exact status
  | replace _ now new => simp [CredentialChange.row, status]
  | rotate login identity r fresh now old new carried effective =>
      have rotates : Rotates env s (.rotateHttp login r fresh now) now old :=
        ⟨login, identity, r, fresh, rfl, carried, effective⟩
      have key : c.id = k := Table.key_of_find? found
      have other : c.id ≠ old.id := by
        intro same
        have there := rotates.found
        rw [← same, key] at there
        cases found.symm.trans there
        exact spares now c rotates status
      simp [CredentialChange.row, other, status]
  | revoke => simp [CredentialChange.row, status]
  | expire => simp [CredentialChange.row, status]

/-- No credential but those of `s₀` was made by a rotation of the credential `k`. -/
def Childless (k : Id) (s₀ s : IdentitySystem) : Prop :=
  ∀ n d, s.db.credentials.find? n = some d → d.rotatedFromId = some k →
    s₀.db.credentials.find? n ≠ none

theorem childless_step {k : Id} {s₀ : IdentitySystem} (childless : Childless k s₀ s)
    (revoked : Revoked k s) (spares : SparesRevoked env s a) :
    Childless k s₀ ((machine env).step s a) := by
  obtain ⟨c, found, status⟩ := revoked
  obtain ⟨change, issues, -, back⟩ := step_rows env s a
  intro n d after child
  rcases back n d after with ⟨e, there, rfl⟩ | ⟨added, -, -⟩
  · rw [row_rotatedFromId] at child
    exact childless n e there child
  · cases issues with
    | replace _ now new active ungraced unrotated =>
        cases added
        simp [unrotated] at child
    | rotate login identity r fresh now old new carried effective mine active ungraced rotated =>
        cases added
        have rotates : Rotates env s (.rotateHttp login r fresh now) now old :=
          ⟨login, identity, r, fresh, rfl, carried, effective⟩
        have same : old.id = k := by simpa [rotated] using child
        cases found.symm.trans (same ▸ rotates.found)
        exact absurd status (spares now c rotates)
    | same | revoke | expire => simp [CredentialChange.added] at added

/-- What it means that the credential `k`, revoked after `p`, is revoked for good in the `q` that
follows: it stays so, its token is refused, and no credential is made from it. -/
structure FinallyRevoked (env : IdentityEnv) (p q : List IdentityAction) (k : Id) : Prop where
  stays : Revoked k ((machine env).run {} (p ++ q))
  refused : ∀ c, ((machine env).run {} p).db.credentials.find? k = some c →
    ∀ deviceId headerDevice token now identity db, env.hashToken token = c.tokenHash →
      ¬ Ran (authenticate env deviceId headerDevice (some token) now)
        ((machine env).run {} (p ++ q)).db identity db
  childless : Childless k ((machine env).run {} p) ((machine env).run {} (p ++ q))

theorem tokenHash_run {k : Id} {c : Credential} (found : s.db.credentials.find? k = some c)
    (as : List IdentityAction) :
    ∃ d, ((machine env).run s as).db.credentials.find? k = some d ∧ d.tokenHash = c.tokenHash := by
  induction as generalizing s c with
  | nil => exact ⟨c, found, rfl⟩
  | cons a as ih =>
      obtain ⟨change, -, kept, -⟩ := step_rows env s a
      obtain ⟨d, there, same⟩ := ih (kept k c found)
      exact ⟨d, there, same.trans (row_tokenHash change c)⟩

theorem not_accepted_of_revoked {now : Time} {c : Credential} (status : c.status = .revoked) :
    IdentityRepository.isAccepted now c = false := by
  simp [IdentityRepository.isAccepted, status]

theorem finallyRevoked_of_spares {p q : List IdentityAction} {k : Id}
    (revoked : Revoked k ((machine env).run {} p))
    (spares : (machine env).Along (SparesRevoked env) ((machine env).run {} p) q) :
    FinallyRevoked env p q k := by
  have after : Revoked k ((machine env).run {} (p ++ q)) ∧
      Childless k ((machine env).run {} p) ((machine env).run {} (p ++ q)) := by
    rw [Machine.run_append]
    refine Machine.invariant_run (I := fun s => Revoked k s ∧ Childless k _ s)
      (fun s a h spares => ⟨revoked_step h.1 spares, childless_step h.2 h.1 spares⟩)
      ⟨revoked, ?_⟩ spares
    intro n d found _
    simp [found]
  refine ⟨after.1, ?_, after.2⟩
  intro c found deviceId headerDevice token now identity db hash ran
  obtain ⟨-, d, there, -, itsToken, accepted⟩ := authenticate_effect ran
  obtain ⟨e, found', status⟩ := after.1
  obtain ⟨e', found'', same⟩ : ∃ e', ((machine env).run ((machine env).run {} p) q).db.credentials.find? k =
      some e' ∧ e'.tokenHash = c.tokenHash := tokenHash_run found q
  rw [← Machine.run_append, found', Option.some.injEq] at found''
  have one := distinctTokens_run (p ++ q) _ _ d e there found' (by
    rw [itsToken token rfl, hash, ← same, found''])
  rw [one, found', Option.some.injEq] at there
  subst there
  simp [not_accepted_of_revoked status] at accepted

/-- Revocation is final in every part of a run exactly when no rotation of the run that takes
effect starts from a revoked credential. -/
theorem finallyRevoked_iff (env : IdentityEnv) (as : List IdentityAction) :
    (∀ p q r k, as = p ++ (q ++ r) → Revoked k ((machine env).run {} p) →
      FinallyRevoked env p q k) ↔ (machine env).Along (SparesRevoked env) {} as := by
  constructor
  · intro final
    rw [Machine.along_iff]
    intro p a r split now old rotates status
    have still := (final p [a] r old.id split ⟨old, rotates.found, status⟩).stays
    obtain ⟨c, found, revoked⟩ := still
    rw [Machine.run_append] at found
    cases found.symm.trans rotates.step
    cases revoked
  · rintro spares p q r k rfl revoked
    rw [Machine.along_append, Machine.along_append] at spares
    exact finallyRevoked_of_spares revoked spares.2.1

/-- A device is activated and logs in; its credential is then revoked. -/
def stolenToken : List IdentityAction :=
  [.registerDevice { id := 1, deviceId := "bot", serialNumber := "CB-1" },
   .createActivationCode "bot" none "code" 7 70 0,
   .activate { deviceId := "bot", activationCode := "code", deviceToken := "token" } ⟨1, 10⟩ 1,
   .authenticate "bot" (some "bot") (some "token") 2,
   .revokeHttp "bot" 10]

/-- The rotation the login was for. -/
def lateRotation : IdentityAction :=
  .rotateHttp 0 { deviceId := "bot", newToken := "next", idempotencyKey := some "key"
                  requestBody := .null } ⟨2, 20⟩ 3

theorem lateRotation_revives :
    Revoked 1 ((machine .plain).run {} stolenToken) ∧
      ¬ FinallyRevoked .plain stolenToken [lateRotation] 1 := by
  refine ⟨⟨{ id := 1, terminalId := 1, tokenHash := "token", credentialId := 10, version := 1
             notBefore := some 1, status := .revoked }, by decide, rfl⟩, ?_⟩
  intro final
  obtain ⟨c, found, revoked⟩ := final.stays
  have revived : ((machine .plain).run {} (stolenToken ++ [lateRotation])).db.credentials.find? 1 =
      some { id := 1, terminalId := 1, tokenHash := "token", credentialId := 10, version := 1
             notBefore := some 1, status := .grace, graceExpiresAt := some (3 + seconds 300) } := by
    decide
  cases found.symm.trans revived
  cases revoked

/-! Grace. -/

/-- Every rotation that takes effect starts from an active credential. -/
def FromActive (env : IdentityEnv) (s : IdentitySystem) (a : IdentityAction) : Prop :=
  ∀ now old, Rotates env s a now old → old.status = .active

/-- The terminal of a login is that of the credential it came with. -/
def Owned (s : IdentitySystem) : Prop :=
  ∀ identity ∈ s.logins, ∃ c, s.db.credentials.find? identity.credentialDbId = some c ∧
    c.terminalId = identity.id

/-- A terminal has at most one active credential. -/
def OneActive (s : IdentitySystem) : Prop :=
  ∀ j k c d, s.db.credentials.find? j = some c → s.db.credentials.find? k = some d →
    c.status = .active → d.status = .active → c.terminalId = d.terminalId → j = k

/-- The credential is out of service from `until` on. -/
structure RunsOut (stop : Time) (c : Credential) : Prop where
  inactive : c.status ≠ .active
  bound : ∀ g, c.graceExpiresAt = some g → g ≤ stop

theorem RunsOut.refused {stop now : Time} {c : Credential} (h : RunsOut stop c)
    (late : stop ≤ now) : IdentityRepository.isAccepted now c = false := by
  have finished : c.graceExpiresAt.any (now < ·) = false := by
    cases grace : c.graceExpiresAt with
    | none => rfl
    | some g =>
        simp only [Option.any_some, decide_eq_false_iff_not]
        exact not_lt.mpr ((h.bound g grace).trans late)
  simp [IdentityRepository.isAccepted, h.inactive, finished]

/-- A credential that runs out goes on running out. -/
theorem runsOut_step {k : Id} {stop : Time}
    (fromActive : FromActive env s a)
    (runsOut : ∃ c, s.db.credentials.find? k = some c ∧ RunsOut stop c) :
    ∃ d, ((machine env).step s a).db.credentials.find? k = some d ∧ RunsOut stop d := by
  obtain ⟨c, found, inactive, bound⟩ := runsOut
  obtain ⟨change, issues, kept, -⟩ := step_rows env s a
  refine ⟨change.row c, kept k c found, ?_⟩
  cases issues with
  | same => exact ⟨inactive, bound⟩
  | replace _ now new =>
      simp only [CredentialChange.row, inactive, and_false, if_false]
      exact ⟨inactive, bound⟩
  | rotate login identity r fresh now old new carried effective =>
      have rotates : Rotates env s (.rotateHttp login r fresh now) now old :=
        ⟨login, identity, r, fresh, rfl, carried, effective⟩
      have key : c.id = k := Table.key_of_find? found
      have other : c.id ≠ old.id := by
        intro same
        have there := rotates.found
        rw [← same, key] at there
        cases found.symm.trans there
        exact inactive (fromActive now c rotates)
      simp only [CredentialChange.row, other, if_false]
      exact ⟨inactive, bound⟩
  | revoke identifier terminalId credentialId =>
      simp only [CredentialChange.row]
      split
      · exact ⟨by simp, by simp⟩
      · exact ⟨inactive, bound⟩
  | expire now =>
      simp only [CredentialChange.row]
      split
      · exact ⟨by simp, bound⟩
      · exact ⟨inactive, bound⟩

theorem owned_step (owned : Owned s) : Owned ((machine env).step s a) := by
  have kept {identity : Identity} (h : ∃ c,
      s.db.credentials.find? identity.credentialDbId = some c ∧ c.terminalId = identity.id) :
      ∃ c, ((machine env).step s a).db.credentials.find? identity.credentialDbId = some c ∧
        c.terminalId = identity.id := by
    obtain ⟨c, found, mine⟩ := h
    obtain ⟨change, -, kept, -⟩ := step_rows env s a
    exact ⟨change.row c, kept _ c found, by rw [row_terminalId, mine]⟩
  intro identity mem
  refine kept ?_
  rcases step_cases env s a with ⟨answer, logins, db, ran, step⟩ | step
  · rw [step, List.mem_append] at mem
    rcases mem with mem | mem
    · exact owned identity mem
    · exact body_logins ran identity mem
  · rw [step] at mem
    exact owned identity mem

/-- No change makes an earlier row active. -/
theorem row_active {change : CredentialChange} {c : Credential}
    (active : (change.row c).status = .active) : change.row c = c := by
  cases change <;> simp only [CredentialChange.row] at active ⊢ <;> split <;>
    simp_all

/-- An added row is the only active one of its terminal. -/
theorem added_alone {change : CredentialChange} (issues : Issues env s a change) (owned : Owned s)
    (one : OneActive s) (fromActive : FromActive env s a) {new c : Credential} {k : Id}
    (added : change.added = some new) (found : s.db.credentials.find? k = some c)
    (same : c.terminalId = new.terminalId) : (change.row c).status ≠ .active := by
  intro active
  have kept := row_active active
  have wasActive : c.status = .active := kept ▸ active
  cases issues with
  | replace _ now d =>
      cases added
      simp [CredentialChange.row, same, wasActive] at active
  | rotate login identity r fresh now old d carried effective mine =>
      cases added
      have rotates : Rotates env s (.rotateHttp login r fresh now) now old :=
        ⟨login, identity, r, fresh, rfl, carried, effective⟩
      obtain ⟨e, there, itsTerminal⟩ := owned identity (List.mem_of_getElem? carried)
      cases effective.found.symm.trans there
      have here := one k old.id c old found rotates.found wasActive (fromActive now old rotates)
        (by rw [same, mine, itsTerminal])
      have key : c.id = k := Table.key_of_find? found
      simp [CredentialChange.row, key.trans here] at active
  | same | revoke | expire => simp [CredentialChange.added] at added

theorem oneActive_step (owned : Owned s) (one : OneActive s) (fromActive : FromActive env s a) :
    OneActive ((machine env).step s a) := by
  obtain ⟨change, issues, -, back⟩ := step_rows env s a
  intro j k c d foundC foundD activeC activeD same
  rcases back j c foundC with ⟨c, there, rfl⟩ | ⟨addedC, rfl, -⟩
  · rcases back k d foundD with ⟨d, there', rfl⟩ | ⟨addedD, -, -⟩
    · have keptC := row_active activeC
      have keptD := row_active activeD
      rw [keptC] at activeC same
      rw [keptD] at activeD same
      exact one j k c d there there' activeC activeD same
    · rw [row_terminalId] at same
      exact absurd activeC (added_alone issues owned one fromActive addedD there same)
  · rcases back k d foundD with ⟨d, there', rfl⟩ | ⟨addedD, rfl, -⟩
    · rw [row_terminalId] at same
      exact absurd activeD (added_alone issues owned one fromActive addedC there' same.symm)
    · cases addedC.symm.trans addedD
      rfl

/-- What rotation promises over a run: one active credential a terminal, a grace that is never
prolonged, and an old token that stops working a grace after the rotation that replaced it. -/
structure GraceBounded (env : IdentityEnv) (as : List IdentityAction) : Prop where
  oneActive : ∀ p q, as = p ++ q → OneActive ((machine env).run {} p)
  bounded : ∀ p q r, as = p ++ (q ++ r) → ∀ k c g,
    ((machine env).run {} p).db.credentials.find? k = some c → c.status = .grace →
    c.graceExpiresAt = some g →
    ∃ d, ((machine env).run {} (p ++ q)).db.credentials.find? k = some d ∧ RunsOut g d
  replaced : ∀ p a q r, as = p ++ a :: (q ++ r) → ∀ now old,
    Rotates env ((machine env).run {} p) a now old →
    ∃ d, ((machine env).run {} (p ++ a :: q)).db.credentials.find? old.id = some d ∧
      ∀ time, now + seconds env.credentialGraceSeconds ≤ time →
        IdentityRepository.isAccepted time d = false

theorem runsOut_run {k : Id} {stop : Time} {as : List IdentityAction}
    (along : (machine env).Along (FromActive env) s as)
    (runsOut : ∃ c, s.db.credentials.find? k = some c ∧ RunsOut stop c) :
    ∃ d, ((machine env).run s as).db.credentials.find? k = some d ∧ RunsOut stop d :=
  Machine.invariant_run (I := fun s => ∃ c, s.db.credentials.find? k = some c ∧ RunsOut stop c)
    (fun _ _ runsOut fromActive => runsOut_step fromActive runsOut) runsOut along

theorem owned_oneActive_run {as : List IdentityAction}
    (along : (machine env).Along (FromActive env) {} as) :
    Owned ((machine env).run {} as) ∧ OneActive ((machine env).run {} as) :=
  Machine.invariant_run (I := fun s => Owned s ∧ OneActive s)
    (fun _ _ h fromActive => ⟨owned_step h.1, oneActive_step h.1 h.2 fromActive⟩)
    ⟨by simp [Owned], by simp [OneActive]⟩ along

/-- Where every rotation that takes effect starts from an active credential, rotation keeps its
promises over the whole run. -/
theorem graceBounded_of_fromActive {as : List IdentityAction}
    (along : (machine env).Along (FromActive env) {} as) : GraceBounded env as where
  oneActive := by
    rintro p q rfl
    exact (owned_oneActive_run ((Machine.along_append _ _ _ _).mp along).1).2
  bounded := by
    rintro p q r rfl k c g found grace expires
    rw [Machine.along_append, Machine.along_append] at along
    rw [Machine.run_append]
    refine runsOut_run along.2.1 ⟨c, found, by simp [grace], ?_⟩
    intro g' expires'
    cases expires.symm.trans expires'
    exact le_refl _
  replaced := by
    rintro p a q r rfl now old rotates
    rw [Machine.along_append] at along
    obtain ⟨-, -, along⟩ := along
    rw [Machine.along_append] at along
    have graced : RunsOut (now + seconds env.credentialGraceSeconds) { old with
        status := .grace
        graceExpiresAt := some (now + seconds env.credentialGraceSeconds) } := by
      refine ⟨by simp, ?_⟩
      intro g expires
      cases expires
      exact le_refl _
    obtain ⟨d, found, runsOut⟩ := runsOut_run along.1 ⟨_, rotates.step, graced⟩
    rw [Machine.run_append]
    exact ⟨d, found, fun time late => runsOut.refused late⟩

/-- A device is activated, logs in and rotates its token. -/
def rotatedOnce : List IdentityAction :=
  [.registerDevice { id := 1, deviceId := "bot", serialNumber := "CB-1" },
   .createActivationCode "bot" none "code" 7 70 0,
   .activate { deviceId := "bot", activationCode := "code", deviceToken := "token" } ⟨1, 10⟩ 1,
   .authenticate "bot" (some "bot") (some "token") 2,
   .rotateHttp 0 { deviceId := "bot", newToken := "next", idempotencyKey := some "first"
                   requestBody := .null } ⟨2, 20⟩ 3]

/-- The login made with the old token rotates once more. -/
def rotatedAgain : IdentityAction :=
  .rotateHttp 0 { deviceId := "bot", newToken := "other", idempotencyKey := some "second"
                  requestBody := .null } ⟨3, 30⟩ 4

theorem fromActive_of_quiet {env : IdentityEnv} {s : IdentitySystem} {a : IdentityAction}
    (quiet : ∀ login r fresh now, a ≠ .rotateHttp login r fresh now) : FromActive env s a := by
  rintro now old ⟨login, identity, r, fresh, rfl, -⟩
  exact absurd rfl (quiet login r fresh now)

theorem rotatedOnce_fromActive : (machine .plain).Along (FromActive .plain) {} rotatedOnce := by
  refine ⟨fromActive_of_quiet (by simp), fromActive_of_quiet (by simp),
    fromActive_of_quiet (by simp), fromActive_of_quiet (by simp), ?_, trivial⟩
  rintro now old ⟨login, identity, r, fresh, isRotation, carried, effective⟩
  cases isRotation
  have there : identity = ⟨1, "bot", 1⟩ :=
    Option.some.inj (carried.symm.trans (by decide))
  subst there
  have known : ((machine .plain).run {} (rotatedOnce.take 4)).db.credentials.find? 1 =
      some { id := 1, terminalId := 1, tokenHash := "token", credentialId := 10
             version := 1, notBefore := some 1 } := by decide
  cases effective.found.symm.trans known
  rfl

theorem graceBounded_rotatedOnce : GraceBounded .plain rotatedOnce :=
  graceBounded_of_fromActive rotatedOnce_fromActive

theorem rotatedAgain_unbounded : ¬ GraceBounded .plain (rotatedOnce ++ [rotatedAgain]) := by
  intro bounded
  have one := bounded.oneActive _ [] (List.append_nil _).symm 2 3
    { id := 2, terminalId := 1, tokenHash := "next", credentialId := 20, version := 2
      notBefore := some 3, rotatedFromId := some 1 }
    { id := 3, terminalId := 1, tokenHash := "other", credentialId := 30, version := 3
      notBefore := some 4, rotatedFromId := some 1 } (by decide) (by decide) rfl rfl rfl
  cases one

end IdentitySystem
end CoffeeCloud
