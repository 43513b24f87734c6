import CoffeeCloud.Identity.System

/-!
MQTT credentials of one terminal and the broker that lets it connect. An issue
is three steps (the pending row, the broker, the active row) and a revocation is
two (the rows, the broker), with nothing held across them. Every broker call
succeeds, and each step is atomic.
-/
namespace CoffeeCloud
open Library Tx

/-- A call in progress, by the step it takes next. -/
inductive MqttCall where
  | provisioning (credentialId : Id) (password : String)
  | activating (credentialId : Id) (password : String)
  | unprovisioning
  | finished
deriving DecidableEq

structure MqttSystem where
  rows : Table MqttCredential := .empty
  broker : String → Option String := fun _ => none
  calls : List MqttCall := []

inductive MqttAction where
  | issue (credentialId : Id) (password : String)
  | provision (call : Nat)
  | activate (call : Nat)
  | revoke
  | unprovision (call : Nat)

namespace MqttSystem

def next (env : IdentityEnv) (device : Device) (s : MqttSystem) : MqttAction → MqttSystem
  | .issue credentialId password =>
      match DeviceIdentityService.issueMqttCredential env device credentialId password s.rows with
      | .ok (_, rows) =>
          { s with rows, calls := s.calls ++ [.provisioning credentialId password] }
      | .error _ => s
  | .provision call =>
      match s.calls[call]? with
      | some (.provisioning credentialId password) => { s with
          broker := put s.broker device.deviceId password
          calls := s.calls.set call (.activating credentialId password) }
      | _ => s
  | .activate call =>
      match s.calls[call]? with
      | some (.activating credentialId _) => { s with
          rows := leave (IdentityRepository.activateMqtt device.id credentialId) s.rows
          calls := s.calls.set call .finished }
      | _ => s
  | .revoke => { s with
      rows := leave (IdentityRepository.revokeMqtt device.id) s.rows
      calls := s.calls ++ [.unprovisioning] }
  | .unprovision call =>
      match s.calls[call]? with
      | some .unprovisioning => { s with
          broker := drop s.broker device.deviceId
          calls := s.calls.set call .finished }
      | _ => s

def machine (env : IdentityEnv) (device : Device) : Machine MqttSystem MqttAction Unit where
  next s a := (next env device s a, ())

variable {env : IdentityEnv} {device : Device} {s : MqttSystem} {a : MqttAction}

/-- No call is in progress. -/
def Quiet (s : MqttSystem) : Prop := ∀ call ∈ s.calls, call = .finished

instance (s : MqttSystem) : Decidable (Quiet s) :=
  inferInstanceAs (Decidable (∀ call ∈ s.calls, call = .finished))

/-- The active row, if any, is the one whose secret the broker holds. -/
structure Agree (env : IdentityEnv) (device : Device) (s : MqttSystem) : Prop where
  one : ∀ j k c d, s.rows.find? j = some c → s.rows.find? k = some d → c.status = .active →
    d.status = .active → j = k
  held : ∀ k c, s.rows.find? k = some c → c.status = .active →
    ∃ password, s.broker device.deviceId = some password ∧ env.hashToken password = c.secretHash

def Revoked (k : Id) (s : MqttSystem) : Prop :=
  ∃ c, s.rows.find? k = some c ∧ c.status = .revoked

/-- Some issue has yet to give the broker its password, or the broker holds it and the row has
yet to follow. -/
def Settling (device : Device) (s : MqttSystem) : Prop :=
  ∃ call ∈ s.calls, (∃ k password, call = .provisioning k password) ∨
    ∃ k password, call = .activating k password ∧ s.broker device.deviceId = some password

/-- No step of another call has come between the two steps of this one, unless an issue in
progress makes up for it. -/
def Undisturbed (device : Device) (s : MqttSystem) : MqttAction → Prop
  | .activate call => ∀ k password, s.calls[call]? = some (.activating k password) →
      ¬ Revoked k s ∧ Settling device s
  | .unprovision call => s.calls[call]? = some .unprovisioning →
      (∀ k c, s.rows.find? k = some c → c.status ≠ .active) ∨
        ∃ call ∈ s.calls, ∃ k password, call = .provisioning k password
  | _ => True

/-- What the rows and the calls always satisfy. -/
structure Filed (env : IdentityEnv) (device : Device) (s : MqttSystem) : Prop where
  mine : ∀ k c, s.rows.find? k = some c → c.terminalId = device.id
  row : ∀ call ∈ s.calls, ∀ k password,
    call = .provisioning k password ∨ call = .activating k password →
    ∃ c, s.rows.find? k = some c ∧ c.secretHash = env.hashToken password
  one : ∀ j k c d, s.rows.find? j = some c → s.rows.find? k = some d → c.status = .active →
    d.status = .active → j = k

/-! What the database steps do. -/

/-- The row an issue files. -/
def newRow (env : IdentityEnv) (device : Device) (credentialId : Id) (password : String)
    (version : Int) : MqttCredential where
  id := credentialId
  terminalId := device.id
  username := device.deviceId
  secretHash := env.hashToken password
  version := version

theorem issue_effect {credentialId : Id} {password : String} {u : Unit}
    {rows rows' : Table MqttCredential}
    (h : DeviceIdentityService.issueMqttCredential env device credentialId password rows =
      .ok (u, rows')) :
    rows.find? credentialId = none ∧ ∃ version, ∀ k, rows'.find? k =
      if k = credentialId then some (newRow env device credentialId password version)
      else rows.find? k := by
  have ran : Ran (DeviceIdentityService.issueMqttCredential env device credentialId password)
    rows u rows' := h
  simp only [DeviceIdentityService.issueMqttCredential, IdentityRepository.nextMqttVersion,
    IdentityRepository.createPendingMqtt, ran_read_bind, ran_ensure_bind, id_eq, ran_write,
    Option.isNone_iff_eq_none] at ran
  obtain ⟨fresh, -, rfl⟩ := ran
  exact ⟨fresh, _, fun k => Table.find?_insert _ _ k fresh⟩

theorem find?_activateMqtt (rows : Table MqttCredential) (terminalId credentialId k : Id) :
    (leave (IdentityRepository.activateMqtt terminalId credentialId) rows).find? k =
      (rows.find? k).map fun c =>
        if k = credentialId then { c with status := .active }
        else if c.terminalId = terminalId ∧ c.status = .active then { c with status := .revoked }
        else c := by
  have result : leave (IdentityRepository.activateMqtt terminalId credentialId) rows =
      (rows.modifyWhere
        (fun c => c.terminalId = terminalId ∧ c.status = .active ∧ c.id ≠ credentialId)
        (fun c => { c with status := .revoked }) (fun _ => rfl)).modify credentialId
          (fun c => { c with status := .active }) (fun _ => rfl) := rfl
  rw [result, Table.find?_modify, Table.find?_modifyWhere]
  cases found : rows.find? k with
  | none => simp
  | some c =>
      have key : c.id = k := Table.key_of_find? found
      by_cases same : k = credentialId
      · simp [same, key]
      · simp [same, key]

theorem find?_revokeMqtt (rows : Table MqttCredential) (terminalId k : Id) :
    (leave (IdentityRepository.revokeMqtt terminalId) rows).find? k =
      (rows.find? k).map fun c =>
        if c.terminalId = terminalId then { c with status := .revoked } else c := by
  have result : leave (IdentityRepository.revokeMqtt terminalId) rows =
      rows.modifyWhere (fun c => c.terminalId = terminalId ∧ c.status ≠ .revoked)
        (fun c => { c with status := .revoked }) (fun _ => rfl) := rfl
  rw [result, Table.find?_modifyWhere]
  congr 1
  funext c
  by_cases mine : c.terminalId = terminalId
  · by_cases revoked : c.status = .revoked
    · obtain ⟨id, terminal, username, secretHash, version, status⟩ := c
      simp_all
    · simp [mine, revoked]
  · simp [mine]

/-- The rows after a step: what a filed row becomes, and the row an issue files. -/
inductive RowStep (env : IdentityEnv) (device : Device) (s : MqttSystem) (k : Id) :
    MqttAction → Option MqttCredential → Prop
  | same (a : MqttAction) (o : Option MqttCredential) (unchanged : o = s.rows.find? k) :
      RowStep env device s k a o
  | filed (password : String) (version : Int) (fresh : s.rows.find? k = none) :
      RowStep env device s k (.issue k password) (some (newRow env device k password version))
  | activated (call : Nat) (password : String) (c : MqttCredential)
      (found : s.rows.find? k = some c)
      (due : s.calls[call]? = some (.activating k password)) :
      RowStep env device s k (.activate call) (some { c with status := .active })
  | replaced (call : Nat) (j : Id) (password : String) (c : MqttCredential)
      (found : s.rows.find? k = some c) (other : k ≠ j) (active : c.status = .active)
      (due : s.calls[call]? = some (.activating j password)) :
      RowStep env device s k (.activate call) (some { c with status := .revoked })
  | revoked (c : MqttCredential) (found : s.rows.find? k = some c) :
      RowStep env device s k .revoke (some { c with status := .revoked })

theorem step_row (env : IdentityEnv) (device : Device) (s : MqttSystem) (a : MqttAction) (k : Id) :
    RowStep env device s k a ((next env device s a).rows.find? k) := by
  cases a with
  | issue credentialId password =>
      simp only [next]
      split
      · rename_i u rows ok
        obtain ⟨fresh, version, rows⟩ := issue_effect ok
        rw [rows k]
        split
        · rename_i same
          subst same
          exact .filed password version fresh
        · exact .same _ _ rfl
      · exact .same _ _ rfl
  | provision call | unprovision call =>
      simp only [next]
      split <;> exact .same _ _ rfl
  | activate call =>
      simp only [next]
      split
      · rename_i j password due
        simp only [find?_activateMqtt]
        cases found : s.rows.find? k with
        | none => exact .same _ _ (by simp [found])
        | some c =>
            simp only [Option.map_some]
            split
            · rename_i same
              subst same
              exact .activated call password c found due
            · rename_i other
              split
              · rename_i active
                exact .replaced call j password c found other active.2 due
              · exact .same _ _ (by simp [found])
      · exact .same _ _ rfl
  | revoke =>
      simp only [next, find?_revokeMqtt]
      cases found : s.rows.find? k with
      | none => exact .same _ _ (by simp [found])
      | some c =>
          simp only [Option.map_some]
          split
          · exact .revoked c found
          · exact .same _ _ (by simp [found])

/-- A filed row stays, with its terminal and its secret. -/
theorem row_kept (env : IdentityEnv) (device : Device) (a : MqttAction) {k : Id}
    {c : MqttCredential} (found : s.rows.find? k = some c) :
    ∃ status, (next env device s a).rows.find? k = some { c with status } := by
  have step := step_row env device s a k
  generalize (next env device s a).rows.find? k = o at step
  cases step with
  | same _ _ unchanged => exact ⟨c.status, unchanged.trans found⟩
  | filed password version fresh => cases fresh.symm.trans found
  | activated call password d there due =>
      cases there.symm.trans found
      exact ⟨_, rfl⟩
  | replaced call j password d there other active due =>
      cases there.symm.trans found
      exact ⟨_, rfl⟩
  | revoked d there =>
      cases there.symm.trans found
      exact ⟨_, rfl⟩

theorem mine_step (mine : ∀ k c, s.rows.find? k = some c → c.terminalId = device.id) (k : Id)
    (c : MqttCredential) (found : (next env device s a).rows.find? k = some c) :
    c.terminalId = device.id := by
  have step := step_row env device s a k
  rw [found] at step
  generalize known : some c = o at step
  cases step with
  | same _ _ unchanged => exact mine k c (unchanged.symm.trans known.symm)
  | filed password version fresh =>
      cases known
      rfl
  | activated _ _ d there | replaced _ _ _ d there | revoked d there =>
      cases known
      exact mine k d there

/-- The calls after a step, each with the row it is about. -/
theorem call_step {call : MqttCall} (mem : call ∈ (next env device s a).calls) {k : Id}
    {password : String} (about : call = .provisioning k password ∨ call = .activating k password) :
    (∃ earlier ∈ s.calls, earlier = .provisioning k password ∨ earlier = .activating k password) ∨
      ∃ version, (next env device s a).rows.find? k =
        some (newRow env device k password version) := by
  cases a with
  | issue credentialId secret =>
      simp only [next] at mem ⊢
      split at mem
      · rename_i u rows ok
        simp only [List.mem_append, List.mem_singleton] at mem
        rcases mem with mem | rfl
        · exact .inl ⟨call, mem, about⟩
        · obtain ⟨-, version, rows⟩ := issue_effect ok
          simp only [MqttCall.provisioning.injEq, reduceCtorEq, or_false] at about
          obtain ⟨rfl, rfl⟩ := about
          refine .inr ⟨version, ?_⟩
          exact (rows credentialId).trans (if_pos rfl)
      · exact .inl ⟨call, mem, about⟩
  | provision i =>
      simp only [next] at mem
      split at mem
      · rename_i j secret due
        rcases List.mem_or_eq_of_mem_set mem with mem | rfl
        · exact .inl ⟨call, mem, about⟩
        · simp only [reduceCtorEq, MqttCall.activating.injEq, false_or] at about
          obtain ⟨rfl, rfl⟩ := about
          exact .inl ⟨_, List.mem_of_getElem? due, .inl rfl⟩
      · exact .inl ⟨call, mem, about⟩
  | activate i | unprovision i =>
      simp only [next] at mem
      split at mem
      · rcases List.mem_or_eq_of_mem_set mem with mem | rfl
        · exact .inl ⟨call, mem, about⟩
        · simp at about
      · exact .inl ⟨call, mem, about⟩
  | revoke =>
      simp only [next, List.mem_append, List.mem_singleton] at mem
      rcases mem with mem | rfl
      · exact .inl ⟨call, mem, about⟩
      · simp at about

/-- After an activation no other row of the terminal is active. -/
theorem activated_alone {call : Nat} {j k : Id} {password : String} {d : MqttCredential}
    (mine : ∀ k c, s.rows.find? k = some c → c.terminalId = device.id)
    (due : s.calls[call]? = some (.activating j password))
    (found : (next env device s (.activate call)).rows.find? k = some d)
    (active : d.status = .active) : k = j := by
  simp only [next, due, find?_activateMqtt, Option.map_eq_some_iff] at found
  obtain ⟨c, there, rfl⟩ := found
  by_contra other
  have its := mine k c there
  by_cases was : c.status = .active
  · simp [other, its, was] at active
  · simp [other, was] at active

/-- A row active after a step is activated by it, or was active before. -/
theorem active_step {k : Id} {d : MqttCredential}
    (found : (next env device s a).rows.find? k = some d) (active : d.status = .active) :
    (∃ call password, a = .activate call ∧ s.calls[call]? = some (.activating k password)) ∨
      s.rows.find? k = some d := by
  have step := step_row env device s a k
  rw [found] at step
  generalize known : some d = o at step
  cases step with
  | same _ _ unchanged => exact .inr unchanged.symm
  | activated call password c there due => exact .inl ⟨call, password, rfl, due⟩
  | filed | replaced | revoked =>
      cases known
      cases active

theorem filed_step (filed : Filed env device s) : Filed env device (next env device s a) where
  mine := mine_step filed.mine
  row := by
    rintro call mem k password about
    rcases call_step mem about with ⟨earlier, there, about⟩ | ⟨version, found⟩
    · obtain ⟨c, found, secret⟩ := filed.row earlier there k password about
      obtain ⟨status, kept⟩ := row_kept env device a found
      exact ⟨_, kept, secret⟩
    · exact ⟨_, found, rfl⟩
  one := by
    intro j k c d foundC foundD activeC activeD
    rcases active_step foundC activeC with ⟨call, password, rfl, due⟩ | thereC
    · exact (activated_alone filed.mine due foundD activeD).symm
    · rcases active_step foundD activeD with ⟨call, password, rfl, due⟩ | thereD
      · exact activated_alone filed.mine due foundC activeC
      · exact filed.one j k c d thereC thereD activeC activeD

/-- The active row has the broker's secret, or an issue in progress will see to it. -/
structure Settled (env : IdentityEnv) (device : Device) (s : MqttSystem) : Prop where
  filed : Filed env device s
  held : (∀ k c, s.rows.find? k = some c → c.status = .active →
    ∃ password, s.broker device.deviceId = some password ∧ env.hashToken password = c.secretHash) ∨
      Settling device s

theorem settled_step (settled : Settled env device s) (undisturbed : Undisturbed device s a) :
    Settled env device (next env device s a) := by
  refine ⟨filed_step settled.filed, ?_⟩
  have filed := settled.filed
  cases a with
  | issue credentialId secret =>
      simp only [next]
      split
      · exact .inr ⟨_, List.mem_append_right _ (List.mem_singleton_self _), .inl ⟨_, _, rfl⟩⟩
      · exact settled.held
  | provision i =>
      simp only [next]
      split
      · rename_i k secret due
        refine .inr ⟨.activating k secret, ?_, .inr ⟨k, secret, rfl, put_same _ _ _⟩⟩
        exact List.mem_set (List.getElem?_eq_some_iff.mp due).1 _
      · exact settled.held
  | activate i =>
      by_cases due : ∃ k secret, s.calls[i]? = some (.activating k secret)
      · obtain ⟨k, secret, due⟩ := due
        obtain ⟨-, call, mem, about⟩ := undisturbed k secret due
        by_cases itself : call = .activating k secret
        · -- this call's own password is the one the broker holds
          refine .inl ?_
          intro j d found active
          cases activated_alone filed.mine due found active
          obtain ⟨c, there, hash⟩ := filed.row _ (List.mem_of_getElem? due) _ secret (.inr rfl)
          obtain ⟨status, kept⟩ := row_kept env device (.activate i) there
          rw [kept, Option.some.injEq] at found
          subst found
          refine ⟨secret, ?_, hash.symm⟩
          rcases about with ⟨_, _, other⟩ | ⟨_, _, same, holds⟩
          · cases itself.symm.trans other
          · cases itself.symm.trans same
            simpa only [next, due] using holds
        · refine .inr ⟨call, ?_, ?_⟩
          · simpa only [next, due] using mem_set_of_ne mem due itself
          · simpa only [next, due] using about
      · have still : next env device s (.activate i) = s := by
          simp only [next]
          split
          · rename_i k secret there
            exact absurd ⟨k, secret, there⟩ due
          · rfl
        rw [still]
        exact settled.held
  | revoke =>
      refine .inl ?_
      intro k d found active
      simp only [next, find?_revokeMqtt, Option.map_eq_some_iff] at found
      obtain ⟨c, there, rfl⟩ := found
      simp [filed.mine k c there] at active
  | unprovision i =>
      simp only [next]
      split
      · rename_i due
        rcases undisturbed due with inactive | ⟨call, mem, k, secret, rfl⟩
        · exact .inl fun k c found active => absurd active (inactive k c found)
        · exact .inr ⟨_, mem_set_of_ne mem due (by simp), .inl ⟨k, secret, rfl⟩⟩
      · exact settled.held

theorem revoked_step {k : Id} (revoked : Revoked k s) (undisturbed : Undisturbed device s a) :
    Revoked k (next env device s a) := by
  obtain ⟨c, found, status⟩ := revoked
  have step := step_row env device s a k
  unfold Revoked
  generalize (next env device s a).rows.find? k = o at step ⊢
  cases step with
  | same _ _ unchanged => exact ⟨c, unchanged.trans found, status⟩
  | filed password version fresh => cases fresh.symm.trans found
  | activated call password d there due =>
      cases found.symm.trans there
      exact absurd ⟨c, found, status⟩ (undisturbed k password due).1
  | replaced call j password d there other active due => exact ⟨_, rfl, rfl⟩
  | revoked d there => exact ⟨_, rfl, rfl⟩

/-- What the calls on one terminal promise over a run: whenever none is in progress the rows and
the broker agree, and a revoked row stays revoked. -/
structure BrokerAgrees (env : IdentityEnv) (device : Device) (as : List MqttAction) : Prop where
  agree : ∀ p q, as = p ++ q → Quiet ((machine env device).run {} p) →
    Agree env device ((machine env device).run {} p)
  final : ∀ p q r k, as = p ++ (q ++ r) → Revoked k ((machine env device).run {} p) →
    Revoked k ((machine env device).run {} (p ++ q))

theorem settled_run {as : List MqttAction}
    (along : (machine env device).Along (Undisturbed device) {} as) :
    Settled env device ((machine env device).run {} as) :=
  Machine.invariant_run (M := machine env device) (I := Settled env device)
    (fun _ _ settled undisturbed => settled_step settled undisturbed)
    ⟨⟨by simp, by simp, by simp⟩, .inl (by simp)⟩ along

/-- Two issues overlap: the broker hears of the second last, the rows of the first. -/
def overlapping : List MqttAction :=
  [.issue 1 "first", .issue 2 "second", .provision 0, .provision 1, .activate 1, .activate 0]

def bot : Device := { id := 1, deviceId := "bot", serialNumber := "CB-1" }

/-- One issue after another, and a revocation. -/
def sequential : List MqttAction :=
  [.issue 1 "first", .provision 0, .activate 0, .issue 2 "second", .provision 1, .activate 1,
   .revoke, .unprovision 2]

theorem undisturbed_activate {s : MqttSystem} {call : Nat} (k : Id) (password : String)
    (c : MqttCredential) (due : s.calls[call]? = some (.activating k password))
    (found : s.rows.find? k = some c) (live : c.status ≠ .revoked)
    (holds : s.broker device.deviceId = some password) :
    Undisturbed device s (.activate call) := by
  intro j secret due'
  cases due.symm.trans due'
  refine ⟨?_, _, List.mem_of_getElem? due, .inr ⟨k, password, rfl, holds⟩⟩
  rintro ⟨d, there, revoked⟩
  cases found.symm.trans there
  exact live revoked

end MqttSystem
end CoffeeCloud
