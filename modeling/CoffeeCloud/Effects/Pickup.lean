import CoffeeCloud.Effects.EventLog

/-!
What an event does to the slot of its terminal, to the marks of collection on the
orders, and to where tasks belong. Of an event that is accepted the slot it reports
is all that counts.
-/
namespace CoffeeCloud
open Library Tx ProductionService

/-- The slots, when orders were collected, and which order a task is made for. -/
@[ext] structure PickupView where
  slot : Id → Option PickupSlot
  collected : Id → Option (Option Time)
  owner : Id → String → Option Id

def Db.pickup (db : Db) : PickupView where
  slot := db.pickupSlots.find?
  collected := db.orders.view (·.collectedAt)
  owner terminalId taskId :=
    (db.jobs.first? fun j => j.terminalId = terminalId ∧ j.taskId = taskId).map (·.orderId)

theorem PickupSlot.alike {a b : PickupSlot} (terminalId : a.terminalId = b.terminalId)
    (revision : a.revision = b.revision) (state : a.state = b.state) (taskId : a.taskId = b.taskId) :
    a = b := by
  cases a
  cases b
  cases terminalId
  cases revision
  cases state
  cases taskId
  rfl

namespace PickupView

/-- A report agrees with the stored slot, where that has its revision. -/
def Fits (v : PickupView) (slot : PickupSlot) : Prop :=
  ∀ current ∈ v.slot slot.terminalId, current.revision = slot.revision → current = slot

/-- The slot goes forward to a report, and the order of a collected cup is marked once. -/
def record (slot : PickupSlot) (collected : Bool) (now : Time) (v : PickupView) : PickupView :=
  { v with
    slot := fun k =>
      if k = slot.terminalId ∧ (v.slot k).all (·.revision < slot.revision) then some slot
      else v.slot k
    collected := fun k =>
      if collected ∧ v.owner slot.terminalId slot.taskId = some k then
        (v.collected k).map (·.or (some now))
      else v.collected k }

end PickupView

/-- The transaction is not about pickup. -/
def KeepsPickup (db db' : Db) : Prop := db'.pickup = db.pickup

instance : IsPreorder Db KeepsPickup where
  refl _ := rfl
  trans _ _ _ h k := k.trans h

section Frame
variable {env : Env} {fresh : FreshRefund} {now : Time}

theorem KeepsPickup.narrow : Narrow KeepsPickup where
  orders db k f hf lasting := by
    refine PickupView.ext rfl ?_ rfl
    refine Table.view_modify_same _ hf fun o _ => ?_
    have same := congrArg Order.collectedAt (lasting o)
    exact same
  orderTransitions _ _ := rfl
  commands _ _ := rfl
  commandTransitions _ _ := rfl
  payments _ _ := rfl
  refunds _ _ := rfl
  dispatchRequests _ _ := rfl

/-- A job keeps its task, its terminal and its order. -/
theorem modifyJob_pickup (jobId : Id) (f : Job → Job) (hf : ∀ j, (f j).id = j.id)
    (same : ∀ j, (f j).taskId = j.taskId ∧ (f j).terminalId = j.terminalId ∧
      (f j).orderId = j.orderId) : Follows KeepsPickup (OrderRepository.modifyJob jobId f hf) := by
  refine follows_write fun db => PickupView.ext rfl rfl ?_
  funext terminalId taskId
  simp only [Db.pickup, Table.modify]
  rw [Table.first?_modifyWhere db.jobs hf]
  · rw [Option.map_map]
    congr 1
    funext j
    simp only [Function.comp_apply]
    split
    · exact (same j).2.2
    · rfl
  · intro j
    rw [(same j).1, (same j).2.1]

theorem applyEvent_pickup (terminalId : Id) (event : TaskEvent) (input : EventInput) (order : Order)
    (job : Job) (command : Command) :
    Follows KeepsPickup (applyEvent env terminalId event input order job command fresh now) := by
  have narrow := KeepsPickup.narrow
  refine follows_bind (follows_lift _) fun _ => follows_bind (follows_lift _) fun steps => ?_
  refine follows_bind (narrow.transitionCommand _ _ _ _) fun moved => ?_
  refine follows_bind (modifyJob_pickup _ _ _ fun _ => ⟨rfl, rfl, rfl⟩) fun _ => ?_
  refine follows_bind ?_ fun _ => ?_
  · unfold markHold
    split
    · exact modifyJob_pickup _ _ _ fun _ => ⟨rfl, rfl, rfl⟩
    · split
      · exact modifyJob_pickup _ _ _ fun _ => ⟨rfl, rfl, rfl⟩
      · exact follows_pure ()
  · refine follows_bind (narrow.transitionOrder _ _ _) fun order => ?_
    refine follows_bind (follows_onlyIf fun _ => narrow.createAutomaticRefundRecord _ _ _) fun _ => ?_
    exact follows_bind (follows_onlyIf fun _ => narrow.requestDispatch _) fun _ => follows_pure _

theorem applyStep_pickup (input : EventInput) (order : Order) (job : Job) :
    Follows KeepsPickup (applyStep input order job now) :=
  follows_bind (follows_lift _) fun _ =>
    follows_bind (modifyJob_pickup _ _ _ fun _ => ⟨rfl, rfl, rfl⟩) fun _ => follows_pure _

theorem reconcileDeviceEvent_pickup (terminalId : Id) (body : Json) (eventType : String) :
    Follows KeepsPickup (reconcileDeviceEvent env terminalId body eventType fresh now) := by
  intro db reply db' h
  rcases reconcileDeviceEvent_cases h with
    ⟨-, same⟩ | ⟨kind, input, order, job, command, -, -, -, applied⟩ |
      ⟨event, input, command, r, -, -, -, moved⟩
  · exact congrArg Db.pickup same
  · cases kind with
    | step => exact applyStep_pickup _ _ _ _ _ _ applied
    | task event => exact applyEvent_pickup _ _ _ _ _ _ _ _ _ applied
  · exact KeepsPickup.narrow.transitionCommand _ _ _ _ _ _ _ moved

end Frame

namespace PickupRepository
variable {db db' : Db} {slot : PickupSlot} {collected : Bool} {now : Time} {u : Unit}

def mark (collected : Bool) (now : Time) (o : Order) : Order := { o with
  pickupRequired := true
  collectedAt := if collected then o.collectedAt.or (some now) else o.collectedAt }

theorem key_mark (collected : Bool) (now : Time) (o : Order) :
    Keyed.key (mark collected now o) = Keyed.key o := rfl

/-- The order's part of a report. -/
def marked (slot : PickupSlot) (collected : Bool) (now : Time) (db : Db) : Db :=
  match db.jobs.first? fun j => j.terminalId = slot.terminalId ∧ j.taskId = slot.taskId with
  | none => db
  | some j => { db with
      orders := db.orders.modify j.orderId (mark collected now) (key_mark collected now) }

theorem pickupSlots_marked : (marked slot collected now db).pickupSlots = db.pickupSlots := by
  rw [marked]
  split <;> rfl

theorem collected_marked : (marked slot collected now db).pickup.collected =
    (db.pickup.record slot collected now).collected := by
  funext k
  rw [marked]
  split
  · rename_i unowned
    have owner : db.pickup.owner slot.terminalId slot.taskId = none :=
      congrArg (Option.map Job.orderId) unowned
    simp [PickupView.record, owner]
  · rename_i j owned
    have owner : db.pickup.owner slot.terminalId slot.taskId = some j.orderId :=
      congrArg (Option.map Job.orderId) owned
    simp only [PickupView.record, owner, Option.some.injEq]
    simp only [Db.pickup, Table.view, Table.find?_modify]
    by_cases mine : k = j.orderId
    · subst mine
      cases collected <;> cases db.orders.find? j.orderId <;> simp [mark]
    · simp [mine, Ne.symm mine]

theorem owner_marked : (marked slot collected now db).pickup.owner = db.pickup.owner := by
  rw [marked]
  split <;> rfl

/-- What a report leaves, and what it asks of the stored slot. -/
theorem apply_pickup (h : Ran (apply slot collected now) db u db') :
    db.pickup.Fits slot ∧ db'.pickup = db.pickup.record slot collected now := by
  rw [apply, ran_write_bind] at h
  change Ran (Tx.read id >>= _) (marked slot collected now db) u db' at h
  rw [ran_read_bind, id_eq, pickupSlots_marked] at h
  split at h
  · rename_i absent
    simp only [ran_write] at h
    subst h
    refine ⟨fun current stored => ?_, PickupView.ext ?_ collected_marked owner_marked⟩
    · simp [Db.pickup, absent] at stored
    · funext k
      simp only [PickupView.record, Db.pickup, pickupSlots_marked]
      rw [Table.find?_insert _ _ _ absent]
      by_cases here : k = slot.terminalId
      · subst here
        simp [absent, Keyed.key]
      · simp [here, Keyed.key]
  · rename_i current stored
    have key : current.terminalId = slot.terminalId := Table.key_of_find? stored
    rw [ran_ite] at h
    rcases h with ⟨older, h⟩ | ⟨older, h⟩
    · simp only [ran_write] at h
      subst h
      refine ⟨fun c there same => ?_, PickupView.ext ?_ collected_marked owner_marked⟩
      · have there : db.pickupSlots.find? slot.terminalId = some c := there
        cases stored.symm.trans there
        omega
      · funext k
        simp only [PickupView.record, Db.pickup, pickupSlots_marked, Table.find?_modify]
        by_cases here : k = slot.terminalId
        · subst here
          simp [stored, older, key]
        · simp [here]
    · simp only [ran_ensure] at h
      obtain ⟨agrees, -, rfl⟩ := h
      refine ⟨fun c there same => ?_, PickupView.ext ?_ collected_marked owner_marked⟩
      · have there : db.pickupSlots.find? slot.terminalId = some c := there
        cases stored.symm.trans there
        exact PickupSlot.alike key same (agrees same).1 (agrees same).2
      · funext k
        simp only [PickupView.record, Db.pickup, pickupSlots_marked]
        by_cases here : k = slot.terminalId
        · subst here
          simp [stored, older]
        · simp [here]

/-- A report that agrees with the stored slot is taken. -/
theorem apply_completes (fits : db.pickup.Fits slot) : Completes (apply slot collected now) db := by
  refine completes_bind (completes_write _ _) fun _ t wrote =>
    completes_bind (completes_read id _) fun read t' there => ?_
  obtain ⟨rfl, -⟩ := (ran_read _ _ _ _).mp there
  have wrote : marked slot collected now db = t := (ran_write _ _ _ _).mp wrote
  have slots : (id t).pickupSlots = db.pickupSlots := by
    rw [← wrote]
    exact pickupSlots_marked
  rw [slots]
  cases stored : db.pickupSlots.find? slot.terminalId with
  | none => exact completes_write _ _
  | some current =>
      dsimp only
      split
      · exact completes_write _ _
      · refine completes_ensure (fun same => ?_) _ _
        rw [fits current stored same]
        exact ⟨rfl, rfl⟩

end PickupRepository

namespace DeviceMessageService
variable {env : Env} {terminalId : Id} {e : DeviceEvent} {fresh : FreshRefund} {now : Time}
  {db db' : Db} {u : Unit} {slot : PickupSlot}

/-- The slot an event reports. -/
def reportOf (terminalId : Id) (e : DeviceEvent) : Option PickupSlot :=
  let reported := (e.payload.get? "pickupSlot").getD .null
  if reported.truthy ∧ e.eventType ∈ slotEvents then (readSlot terminalId reported).toOption.join
  else none

def DeviceEvent.collects (e : DeviceEvent) : Bool := e.eventType = "pickup.collected"

/-- An event that says a cup was collected says so of the task of its slot, which it reports
empty. -/
def DeviceEvent.Confirms (e : DeviceEvent) (slot : PickupSlot) : Prop :=
  e.collects = true → slot.state = .empty ∧
    (e.payload.get? "taskId").bind Json.asStr? = some slot.taskId

theorem readSlot_terminal {reported : Json} (h : readSlot terminalId reported = .ok (some slot)) :
    slot.terminalId = terminalId := by
  simp only [readSlot] at h
  split at h
  · split at h
    · cases h
    · split at h
      · cases h
      · split at h
        · cases h
          rfl
        · cases h
  · cases h

/-- A report that is read has a version. -/
theorem readSlot_versioned {reported : Json} (h : readSlot terminalId reported = .ok (some slot)) :
    reported.isObj ∧ ((reported.get? "revision").getD .null).truthy := by
  simp only [readSlot] at h
  split at h
  · rename_i revision object version
    split at h
    · cases h
    · split at h
      · cases h
      · rename_i nonzero
        refine ⟨object, ?_⟩
        cases there : reported.get? "revision" with
        | none =>
            rw [there] at version
            cases version
        | some value =>
            rw [there] at version
            cases value with
            | int n =>
                cases version
                simpa [Json.truthy] using nonzero
            | null | bool _ | float _ | str _ | arr _ | obj _ => cases version
  · cases h

theorem reportOf_eq_some : reportOf terminalId e = some slot ↔
    (((e.payload.get? "pickupSlot").getD .null).truthy ∧ e.eventType ∈ slotEvents) ∧
      readSlot terminalId ((e.payload.get? "pickupSlot").getD .null) = .ok (some slot) := by
  simp only [reportOf]
  split
  · rename_i speaks
    cases readSlot terminalId ((e.payload.get? "pickupSlot").getD .null) with
    | error failure => simp [Except.toOption]
    | ok read => simp [Except.toOption, speaks]
  · rename_i silent
    simp [silent]

theorem reportOf_terminal (h : reportOf terminalId e = some slot) : slot.terminalId = terminalId :=
  readSlot_terminal (reportOf_eq_some.mp h).2

theorem reportOf_lasting (h : reportOf terminalId e = some slot) : e.eventType ≠ "task.progress" := by
  intro passing
  have speaks := (reportOf_eq_some.mp h).1.2
  rw [passing] at speaks
  exact absurd speaks (by decide)

/-- What the slot part of an event leaves. -/
theorem recordSlot_pickup (h : Ran (recordSlot terminalId e now) db u db') :
    (reportOf terminalId e = none ∧ db'.pickup = db.pickup) ∨
    ∃ slot, reportOf terminalId e = some slot ∧ e.Confirms slot ∧ db.pickup.Fits slot ∧
      db'.pickup = db.pickup.record slot e.collects now := by
  simp only [recordSlot, ran_ensure_bind] at h
  rw [ran_ite] at h
  obtain ⟨-, ⟨speaks, h⟩ | ⟨silent, h⟩⟩ := h
  · rw [ran_bind] at h
    obtain ⟨read, t, lifted, h⟩ := h
    obtain ⟨slot, rfl⟩ := ran_lift.mp lifted
    cases read with
    | none =>
        simp only [ran_pure] at h
        obtain ⟨-, rfl⟩ := h
        exact .inl ⟨by simp [reportOf, slot, Except.toOption], rfl⟩
    | some slot' =>
        simp only [ran_ensure_bind] at h
        obtain ⟨confirms, h⟩ := h
        rw [ran_bind] at h
        obtain ⟨_, t', applied, h⟩ := h
        have after : KeepsPickup t' db' :=
          follows_onlyIf (fun _ => KeepsPickup.narrow.requestDispatch _) _ _ _ h
        obtain ⟨fits, recorded⟩ := PickupRepository.apply_pickup applied
        exact .inr ⟨slot', reportOf_eq_some.mpr ⟨speaks, slot⟩, confirms, fits,
          after.trans recorded⟩
  · simp only [ran_pure] at h
    obtain ⟨-, rfl⟩ := h
    exact .inl ⟨if_neg silent, rfl⟩

/-- A report that agrees with the stored slot, and confirms what it has to, is taken. -/
theorem recordSlot_completes (reports : reportOf terminalId e = some slot)
    (confirms : e.Confirms slot) (fits : db.pickup.Fits slot) :
    Completes (recordSlot terminalId e now) db := by
  obtain ⟨speaks, read⟩ := reportOf_eq_some.mp reports
  refine completes_bind (completes_ensure (fun _ => readSlot_versioned read) _ _) fun _ t versioned => ?_
  obtain ⟨-, -, rfl⟩ := (ran_ensure _ _ _ _ _).mp versioned
  rw [if_pos speaks, read]
  refine completes_bind (completes_pure _ _) fun found t there => ?_
  obtain ⟨rfl, rfl⟩ := (ran_pure _ _ _ _).mp there
  dsimp only
  refine completes_bind (completes_ensure (by exact confirms) _ _) fun _ t confirmed => ?_
  obtain ⟨-, -, rfl⟩ := (ran_ensure _ _ _ _ _).mp confirmed
  exact completes_bind (PickupRepository.apply_completes fits) fun _ _ _ =>
    completes_onlyIf fun _ => completes_write _ _

/-- An event that is no repetition, up to the slot it reports. -/
def settle (env : Env) (terminalId : Id) (e : DeviceEvent) (fresh : FreshRefund) (now : Time) :
    Sql EventReply := do
  let _ ← DeviceMessageRepository.insertEvent env.driver (logged env terminalId e now)
  let reply ← reconcile env.driver env terminalId e.body e.eventType fresh now
  recordInventory terminalId e
  pure reply

theorem insertEvent_pickup (driver : Driver) (row : TerminalEvent) :
    Follows KeepsPickup (DeviceMessageRepository.insertEvent driver row) := by
  refine follows_bind (follows_ensure _ _) fun _ => follows_bind (follows_read _) fun found => ?_
  split
  · exact follows_pure _
  · exact follows_bind (follows_write fun _ => rfl) fun _ => follows_pure _

theorem recordInventory_pickup (e : DeviceEvent) :
    Follows KeepsPickup (recordInventory terminalId e) := by
  unfold recordInventory
  split
  · split
    · exact follows_pure ()
    · exact follows_bind (follows_ensure _ _) fun _ => follows_write fun _ => rfl
    · exact follows_raise _
  · exact follows_pure ()

theorem settle_pickup : Follows KeepsPickup (settle env terminalId e fresh now) :=
  follows_bind (insertEvent_pickup _ _) fun _ =>
    follows_bind (follows_reconcile (reconcileDeviceEvent_pickup _ _ _)) fun _ =>
      follows_bind (recordInventory_pickup e) fun _ => follows_pure _

/-- An event the log does not have is settled, and then its slot is recorded. -/
theorem event_eq (lasting : e.eventType ≠ "task.progress")
    (unseen : db.terminalEvents.find? (terminalId, e.eventId) = none) :
    event env terminalId e fresh now db =
      (do
        let reply ← settle env terminalId e fresh now
        recordSlot terminalId e now
        pure (EventAnswer.accepted reply)) db := by
  simp only [event, if_neg lasting, DeviceMessageRepository.event, apply_read_bind, unseen, settle,
    bind_assoc, pure_bind]
  rfl

theorem event_pickup {answer : EventAnswer}
    (h : Ran (event env terminalId e fresh now) db answer db') :
    ((∀ reply, answer ≠ .accepted reply) ∧ db' = db) ∨
    (db.terminalEvents.find? (terminalId, e.eventId) = none ∧ (∃ reply, answer = .accepted reply) ∧
      ((reportOf terminalId e = none ∧ db'.pickup = db.pickup) ∨
      ∃ slot, reportOf terminalId e = some slot ∧ e.Confirms slot ∧ db.pickup.Fits slot ∧
        db'.pickup = db.pickup.record slot e.collects now)) := by
  by_cases passing : e.eventType = "task.progress"
  · simp only [event, if_pos passing, ran_pure] at h
    obtain ⟨rfl, rfl⟩ := h
    exact .inl ⟨fun _ same => EventAnswer.noConfusion same, rfl⟩
  · cases found : db.terminalEvents.find? (terminalId, e.eventId) with
    | some row =>
        simp only [event, if_neg passing, DeviceMessageRepository.event, ran_read_bind, found,
          ran_ensure_bind, ran_pure] at h
        obtain ⟨-, rfl, rfl⟩ := h
        exact .inl ⟨fun _ same => EventAnswer.noConfusion same, rfl⟩
    | none =>
        rw [Ran, event_eq passing found] at h
        change Ran _ db answer db' at h
        rw [ran_bind] at h
        obtain ⟨reply, t, settled, h⟩ := h
        rw [ran_bind] at h
        obtain ⟨_, t', slot, h⟩ := h
        simp only [ran_pure] at h
        obtain ⟨rfl, rfl⟩ := h
        have kept : t.pickup = db.pickup := settle_pickup _ _ _ settled
        refine .inr ⟨rfl, ⟨reply, rfl⟩, ?_⟩
        rw [← kept]
        exact recordSlot_pickup slot

/-- An event the log does not have is accepted, where it is not refused. -/
theorem event_accepted {answer : EventAnswer} (lasting : e.eventType ≠ "task.progress")
    (unseen : db.terminalEvents.find? (terminalId, e.eventId) = none)
    (h : Ran (event env terminalId e fresh now) db answer db') : ∃ reply, answer = .accepted reply := by
  rw [Ran, event_eq lasting unseen] at h
  change Ran _ db answer db' at h
  rw [ran_bind] at h
  obtain ⟨reply, t, -, h⟩ := h
  simp only [ran_bind, ran_pure] at h
  obtain ⟨_, t', -, rfl, -⟩ := h
  exact ⟨reply, rfl⟩

/-- A report that agrees with the stored slot is not what an event fails by. -/
theorem event_accepts (unseen : db.terminalEvents.find? (terminalId, e.eventId) = none)
    (settles : Completes (settle env terminalId e fresh now) db)
    (reports : reportOf terminalId e = some slot) (confirms : e.Confirms slot)
    (fits : db.pickup.Fits slot) :
    ∃ reply db', Ran (event env terminalId e fresh now) db (.accepted reply) db' := by
  obtain ⟨reply, t, settled⟩ := settles
  have kept : t.pickup = db.pickup := settle_pickup _ _ _ settled
  have taken : Completes (recordSlot terminalId e now) t :=
    recordSlot_completes reports confirms (kept ▸ fits)
  obtain ⟨u, t', taken⟩ := taken
  refine ⟨reply, t', ?_⟩
  rw [Ran, event_eq (reportOf_lasting reports) unseen]
  change Ran _ db _ t'
  rw [ran_bind]
  refine ⟨reply, t, settled, ?_⟩
  rw [ran_bind]
  exact ⟨u, t', taken, (ran_pure _ _ _ _).mpr ⟨rfl, rfl⟩⟩

/-- The database takes the row of an event. -/
def Storable (env : Env) (terminalId : Id) (e : DeviceEvent) (now : Time) : Prop :=
  ∀ p ∈ (logged env terminalId e now).parameters, p.taken env.driver = true

/-- Nothing of an event of the slot alone can fail before its slot is looked at, once it is
stored. -/
theorem settle_completes (kind : e.eventType ∈ ["pickup.collected", "pickup.overdue"])
    (storable : Storable env terminalId e now) :
    Completes (settle env terminalId e fresh now) db := by
  have none : eventKind? e.eventType = none ∧ e.eventType ≠ "task.progress" ∧
      e.eventType.startsWith "task." = false ∧ e.eventType.startsWith "inventory." = false := by
    rw [List.mem_pair] at kind
    rcases kind with same | same <;> rw [same] <;> decide +kernel
  obtain ⟨untyped, lasting, task, inventory⟩ := none
  have idle : searching e.eventType e.body = none := by
    simp only [searching, if_neg lasting, untyped]
  have reconciles (t : Db) :
      Completes (reconcile env.driver env terminalId e.body e.eventType fresh now) t := by
    refine ⟨.none, t, ?_⟩
    simp only [Ran, reconcile, bound, idle, List.all_nil, if_true, reconcileDeviceEvent,
      if_neg lasting, untyped]
    rfl
  simp only [settle, DeviceMessageRepository.insertEvent, recordInventory, task, inventory,
    Bool.or_self]
  refine completes_bind ?_ fun _ _ _ => completes_bind (reconciles _) fun _ _ _ =>
    completes_bind (completes_pure _ _) fun _ _ _ => completes_pure _ _
  refine completes_bind (completes_ensure (List.all_eq_true.mpr storable) _ _) fun _ _ _ => ?_
  refine completes_bind (completes_read _ _) fun found _ _ => ?_
  split
  · exact completes_pure _ _
  · exact completes_bind (completes_write _ _) fun _ _ _ => completes_pure _ _

end DeviceMessageService
end CoffeeCloud
