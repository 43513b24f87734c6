import CoffeeCloud.Identity.System
import CoffeeCloud.Services.DeviceLifecycle

/-!
Software pairing among everything else that gives a device its life cycle. A
session that is provisioned answers its token again, for a response that was lost,
and activates the terminal as the first time.
-/
namespace CoffeeCloud
open Library Tx

structure LifecycleSystem where
  db : LifecycleDb := {}
  logins : List Identity := []

inductive LifecycleAction where
  | identity (a : IdentityAction)
  -- The device.
  | createSession (serialNumber : String) (proof : Device → Except Failure Unit) (sessionId : Id)
      (fresh : SimulatorPairingService.FreshTerminal) (expiresAt : Time)
  | sessionStatus (sessionId : Id) (serialNumber : String)
      (verified : PairingSession → Except Failure Unit) (now : Time)
  -- Merchants.
  | claim (p : MerchantAssets.Principal) (sessionId : Id) (blocking : Bool) (now : Time)
  | update (p : MerchantAssets.Principal) (terminalId : Id) (version : Nat) (action : String)
      (blocking : Bool)
  | transfer (p : MerchantAssets.Principal) (terminalId : Id) (ownershipVersion : Nat)
      (target : Option Id) (transferId : Id) (blocking : Bool)
  | transferAction (p : MerchantAssets.Principal) (transferId : Id) (version : Nat) (accept : Bool)
  -- Administrators.
  | updateLifecycle (identifier status : String)

namespace LifecycleSystem

def quiet {α : Type} (m : LifecycleSql α) : LifecycleSql (List Identity) := do
  let _ ← m
  pure []

/-- Sessions come from `createSession` here, and none is set from outside. -/
def body (env : IdentityEnv) (logins : List Identity) :
    LifecycleAction → LifecycleSql (List Identity)
  | .identity (.setSession _) => pure []
  | .identity a => do
      let (_, logins) ← onIdentity (IdentitySystem.body env logins a)
      pure logins
  | .createSession serialNumber proof sessionId fresh expiresAt =>
      quiet (SimulatorPairingService.createSession serialNumber proof sessionId fresh expiresAt)
  | .sessionStatus sessionId serialNumber verified now =>
      quiet (SimulatorPairingService.sessionStatus sessionId serialNumber verified now)
  | .claim p sessionId blocking now => quiet (MerchantAssets.claim p sessionId blocking now)
  | .update p terminalId version action blocking =>
      quiet (MerchantAssets.update p terminalId version action blocking)
  | .transfer p terminalId ownershipVersion target transferId blocking =>
      quiet (MerchantAssets.transfer p terminalId ownershipVersion target transferId blocking)
  | .transferAction p transferId version accept =>
      quiet (MerchantAssets.transferAction p transferId version accept)
  | .updateLifecycle identifier status =>
      quiet (AdminOperationsService.updateLifecycle identifier status)

/-- A transaction that raises is rolled back. -/
def machine (env : IdentityEnv) : Machine LifecycleSystem LifecycleAction Unit where
  next s a :=
    match body env s.logins a s.db with
    | .ok (logins, db) => (⟨db, s.logins ++ logins⟩, ())
    | .error _ => (s, ())

variable {env : IdentityEnv} {s : LifecycleSystem} {a : LifecycleAction}

theorem step_of_ran {logins : List Identity} {db : LifecycleDb}
    (ran : Ran (body env s.logins a) s.db logins db) :
    (machine env).step s a = ⟨db, s.logins ++ logins⟩ := by
  simp only [Ran] at ran
  simp only [Machine.step, machine, ran]

def lifecycle (s : LifecycleSystem) (terminalId : Id) : Option String :=
  (s.db.identity.devices.find? terminalId).map (·.lifecycleStatus)

/-- A provisioned session is provisioned once more, with a valid proof and with the token it was
provisioned with. -/
structure Replays (env : IdentityEnv) (s : LifecycleSystem) (a : LifecycleAction)
    (row : PairingSession) : Prop where
  call : ∃ r verified fresh now credential, a = .identity (.provision row.id r verified fresh now) ∧
    row.serialNumber = r.serialNumber ∧ verified row = .ok () ∧
    (row.provisionedCredentialId.bind s.db.identity.credentials.find?) = some credential ∧
    credential.terminalId = row.terminalId ∧ credential.tokenHash = env.hashToken r.deviceToken
  found : s.db.identity.sessions.find? row.id = some row
  provisioned : row.status = .provisioned

/-- A replay leaves every terminal the life cycle it has. -/
def Leaves (env : IdentityEnv) (s : LifecycleSystem) (a : LifecycleAction) : Prop :=
  ∀ row, Replays env s a row → ∀ terminalId,
    lifecycle ((machine env).step s a) terminalId = lifecycle s terminalId

/-- The terminal of a session that is replayed is active. -/
def Standing (env : IdentityEnv) (s : LifecycleSystem) (a : LifecycleAction) : Prop :=
  ∀ row, Replays env s a row → ∀ status ∈ lifecycle s row.terminalId, status = "ACTIVE"

/-- A replay always succeeds, and what it does to the life cycles is to activate the terminal. -/
theorem Replays.revived {row : PairingSession} (replays : Replays env s a row) (terminalId : Id) :
    lifecycle ((machine env).step s a) terminalId =
      if terminalId = row.terminalId then (lifecycle s terminalId).map fun _ => "ACTIVE"
      else lifecycle s terminalId := by
  obtain ⟨⟨r, verified, fresh, now, credential, rfl, serial, proof, known, mine, token⟩, found,
    provisioned⟩ := replays
  have session : (s.db.identity.sessions.find? row.id).filter (·.serialNumber = r.serialNumber) =
      some row := by
    simp [found, serial]
  have credentialed : (row.provisionedCredentialId.bind s.db.identity.credentials.find?).filter
      (·.terminalId = row.terminalId) = some credential := by
    simp [known, mine]
  have provision : Ran (SimulatorPairingService.provision env row.id r verified fresh now)
      s.db.identity (DeviceIdentityService.credentialPayload credential false)
      { s.db.identity with
        devices := s.db.identity.devices.modify row.terminalId fun d =>
          { d with lifecycleStatus := "ACTIVE" }
        sessions := s.db.identity.sessions.modify row.id fun s => { s with
          status := .provisioned
          provisionedCredentialId := s.provisionedCredentialId.or (some credential.id) } } := by
    simp only [SimulatorPairingService.provision, SimulatorPairingRepository.session,
      ran_read_bind, ran_require_bind]
    refine ⟨row, session, ?_⟩
    simp only [proof]
    rw [ran_bind]
    refine ⟨(), _, (ran_onlyIf _ _ _ _ _).mpr (.inr ⟨by simp [provisioned], rfl⟩), ?_⟩
    simp only [ran_ensure_bind, provisioned, or_true, true_and,
      SimulatorPairingService.sessionCredential, SimulatorPairingService.knownCredential, if_true,
      SimulatorPairingRepository.provisionedCredential, bind_assoc, ran_read_bind, credentialed,
      ran_require_bind]
    refine ⟨credential, by simp [token], ?_⟩
    rfl
  have stepped := @step_of_ran env s (.identity (.provision row.id r verified fresh now)) _ _
    ((ran_bind _ _ _ _ _).mpr
      ⟨_, _, ran_onIdentity ((ran_bind _ _ _ _ _).mpr ⟨_, _, provision, rfl⟩), rfl⟩)
  simp only [LifecycleSystem.lifecycle, stepped, Table.find?_modify]
  split
  · simp [Option.map_map, Function.comp_def]
  · rfl

/-- Pairing leaves the life cycles to others, exactly in the runs in which every replay finds its
terminal active. -/
theorem leaves_iff (env : IdentityEnv) (as : List LifecycleAction) :
    (machine env).Along (Leaves env) {} as ↔ (machine env).Along (Standing env) {} as := by
  constructor
  · refine Machine.along_mono _ fun s a leaves row replays status standing => ?_
    have same := leaves row replays row.terminalId
    rw [replays.revived, if_pos rfl, Option.mem_def.mp standing] at same
    exact (Option.some.inj same).symm
  · refine Machine.along_mono _ fun s a standing row replays terminalId => ?_
    rw [replays.revived]
    split
    · next mine =>
        cases there : lifecycle s terminalId with
        | none => rfl
        | some status =>
            rw [standing row replays status (mine ▸ there)]
            rfl
    · rfl

/-- A merchant's user who may manage devices. -/
def manager : MerchantAssets.Principal := ⟨1, ["devices.manage"]⟩

/-- A device is paired and provisioned, its merchant suspends it, and it asks again. -/
def suspendedReplay : List LifecycleAction :=
  [.createSession "CB-2026-001" (fun _ => .ok ()) 0 ⟨0, "coffee-bot-001"⟩ (seconds 600),
    .claim manager 0 false 0,
    .identity (.provision 0 ⟨"CB-2026-001", "token"⟩ (fun _ => .ok ()) ⟨0, 0⟩ 0),
    .update manager 0 2 "SUSPEND" false,
    .identity (.provision 0 ⟨"CB-2026-001", "token"⟩ (fun _ => .ok ()) ⟨1, 1⟩ 0)]

/-- It is active again. -/
theorem suspendedReplay_revives :
    ¬ (machine .plain).Along (Leaves .plain) {} suspendedReplay := by
  intro leaves
  have last := (Machine.along_iff _).mp leaves (suspendedReplay.take 4)
    (.identity (.provision 0 ⟨"CB-2026-001", "token"⟩ (fun _ => .ok ()) ⟨1, 1⟩ 0)) [] rfl
  have revived := last ⟨0, 0, "CB-2026-001", .provisioned, seconds 600, some 0⟩
    ⟨⟨_, _, _, _, ⟨0, 0, "token", 0, 1, some 0, .active, none, none, none⟩, rfl, rfl, rfl, ?_, rfl,
      rfl⟩, ?_, rfl⟩ 0
  · revert revived
    decide +kernel
  · decide +kernel
  · decide +kernel

end LifecycleSystem
end CoffeeCloud
