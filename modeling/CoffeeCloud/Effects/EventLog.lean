import CoffeeCloud.Effects.Frames
import CoffeeCloud.Effects.Reports
import CoffeeCloud.Effects.DeviceMessages

/-!
The log of the events the devices reported. Handling a message writes the log in
one place, where the event itself is recorded, and an event the log has changes
nothing any more.
-/
namespace CoffeeCloud
open Library Tx ProductionService

/-- Neither the registrations nor the log of events are touched. -/
structure KeepsLog (db db' : Db) : Prop where
  terminals : db'.terminals = db.terminals
  terminalEvents : db'.terminalEvents = db.terminalEvents

namespace KeepsLog

theorem refl (db : Db) : KeepsLog db db := ⟨rfl, rfl⟩

theorem trans {db db' db'' : Db} (h : KeepsLog db db') (k : KeepsLog db' db'') :
    KeepsLog db db'' :=
  ⟨k.terminals.trans h.terminals, k.terminalEvents.trans h.terminalEvents⟩

instance : IsPreorder Db KeepsLog where
  refl := refl
  trans _ _ _ := trans

end KeepsLog

section Writes
variable {db db' : Db} {env : Env} {fresh : FreshRefund} {now : Time}

theorem KeepsLog.blind : Blind KeepsLog where
  orders _ _ := ⟨rfl, rfl⟩
  orderTransitions _ _ := ⟨rfl, rfl⟩
  commands _ _ := ⟨rfl, rfl⟩
  commandTransitions _ _ := ⟨rfl, rfl⟩
  payments _ _ := ⟨rfl, rfl⟩
  refunds _ _ := ⟨rfl, rfl⟩
  dispatchRequests _ _ := ⟨rfl, rfl⟩

theorem transitionCommand_log (command : Command) (target : CommandStatus) (actor : String)
    (strict : Bool) : Follows KeepsLog (transitionCommand command target actor strict now) :=
  KeepsLog.blind.transitionCommand command target actor strict

theorem modifyJob_log (jobId : Id) (f : Job → Job) (hf : ∀ j, (f j).id = j.id) :
    Follows KeepsLog (OrderRepository.modifyJob jobId f hf) :=
  follows_write fun _ => ⟨rfl, rfl⟩

theorem requestDispatch_log (terminalId : Id) :
    Follows KeepsLog (requestDispatch terminalId now) :=
  KeepsLog.blind.requestDispatch terminalId

theorem applyEvent_log (terminalId : Id) (event : TaskEvent) (input : EventInput) (order : Order)
    (job : Job) (command : Command) :
    Follows KeepsLog (applyEvent env terminalId event input order job command fresh now) := by
  refine follows_bind (follows_lift _) fun _ => follows_bind (follows_lift _) fun steps => ?_
  refine follows_bind (transitionCommand_log _ _ _ _) fun moved => ?_
  refine follows_bind (modifyJob_log _ _ _) fun _ => follows_bind ?_ fun _ => ?_
  · unfold markHold
    split
    · exact modifyJob_log _ _ _
    · split
      · exact modifyJob_log _ _ _
      · exact follows_pure ()
  · refine follows_bind (KeepsLog.blind.transitionOrder _ _ _) fun order => ?_
    refine follows_bind (follows_onlyIf fun _ => KeepsLog.blind.createAutomaticRefundRecord _ _ _) fun _ => ?_
    exact follows_bind (follows_onlyIf fun _ => requestDispatch_log _) fun _ => follows_pure _

theorem applyStep_log (input : EventInput) (order : Order) (job : Job) :
    Follows KeepsLog (applyStep input order job now) :=
  follows_bind (follows_lift _) fun _ => follows_bind (modifyJob_log _ _ _) fun _ => follows_pure _

theorem reconcileDeviceEvent_log (terminalId : Id) (body : Json) (eventType : String) :
    Follows KeepsLog (reconcileDeviceEvent env terminalId body eventType fresh now) := by
  intro db reply db' h
  rcases reconcileDeviceEvent_cases h with
    ⟨-, same⟩ | ⟨kind, input, order, job, command, -, -, -, applied⟩ |
      ⟨event, input, command, r, -, -, -, moved⟩
  · exact same ▸ .refl db
  · cases kind with
    | step => exact applyStep_log _ _ _ _ _ _ applied
    | task event => exact applyEvent_log _ _ _ _ _ _ _ _ _ applied
  · exact transitionCommand_log _ _ _ _ _ _ _ moved

end Writes

namespace DeviceMessageService
variable {db db' : Db} {env : Env} {fresh : FreshRefund} {now : Time} {terminalId : Id}

theorem taskAck_log (taskId : String) (body : Json) :
    Follows KeepsLog (taskAck env terminalId taskId body fresh now) :=
  follows_bind (follows_require _ _) fun _ => follows_bind (follows_require _ _) fun _ =>
    follows_bind (follows_read _) fun _ => follows_bind (follows_require _ _) fun _ =>
      reconcileDeviceEvent_log _ _ _

theorem commandResult_log (messageId status : String) :
    Follows KeepsLog (commandResult terminalId messageId status now) :=
  follows_bind (follows_read _) fun _ => follows_bind (follows_require _ _) fun _ =>
    follows_bind (follows_ensure _ _) fun _ => follows_bind (transitionCommand_log _ _ _ _) fun _ =>
      follows_pure _

theorem recordInventory_log (e : DeviceEvent) : Follows KeepsLog (recordInventory terminalId e) := by
  unfold recordInventory
  split
  · split
    · exact follows_pure ()
    · exact follows_bind (follows_ensure _ _) fun _ => follows_write fun _ => ⟨rfl, rfl⟩
    · exact follows_raise _
  · exact follows_pure ()

theorem pickup_log (slot : PickupSlot) (collected : Bool) :
    Follows KeepsLog (PickupRepository.apply slot collected now) := by
  refine follows_bind (follows_write fun t => ?_) fun _ =>
    follows_bind (follows_read id) fun t => ?_
  · split
    · exact .refl t
    · exact ⟨rfl, rfl⟩
  · split
    · exact follows_write fun _ => ⟨rfl, rfl⟩
    · split
      · exact follows_write fun _ => ⟨rfl, rfl⟩
      · exact follows_ensure _ _

theorem recordSlot_log (e : DeviceEvent) : Follows KeepsLog (recordSlot terminalId e now) := by
  refine follows_bind (follows_ensure _ _) fun _ => ?_
  split
  · refine follows_bind (follows_lift _) fun slot => ?_
    split
    · exact follows_pure ()
    · exact follows_bind (follows_ensure _ _) fun _ => follows_bind (pickup_log _ _) fun _ =>
        follows_onlyIf fun _ => requestDispatch_log terminalId
  · exact follows_pure ()

/-- The row an event leaves in the log. -/
def logged (env : Env) (terminalId : Id) (e : DeviceEvent) (now : Time) : TerminalEvent where
  terminalId := terminalId
  eventId := e.eventId
  bootId := e.bootId
  sequence := e.sequence
  eventType := e.eventType
  payloadDigest := env.canonicalDigest e.body
  payload := e.body
  receivedAt := now

/-- An event that is no progress is new to the log and recorded there, or the log has it and
nothing happens. -/
theorem event_log {e : DeviceEvent} {answer : EventAnswer} (lasting : e.eventType ≠ "task.progress")
    (h : Ran (event env terminalId e fresh now) db answer db') :
    (db.terminalEvents.find? (terminalId, e.eventId) = none ∧ db'.terminals = db.terminals ∧
      db'.terminalEvents = db.terminalEvents.insert (logged env terminalId e now)) ∨
    (db' = db ∧ ∃ row, db.terminalEvents.find? (terminalId, e.eventId) = some row ∧
      row.payloadDigest = env.canonicalDigest e.body) := by
  simp only [event, if_neg lasting, DeviceMessageRepository.event, ran_read_bind] at h
  split at h
  · next row found =>
      simp only [ran_ensure_bind, ran_pure] at h
      exact .inr ⟨h.2.2.symm, row, found, h.1⟩
  · next unseen =>
      simp only [DeviceMessageRepository.insertEvent, DeviceMessageRepository.event, bind_assoc,
        ran_ensure_bind, ran_read_bind, unseen, ran_write_bind, pure_bind] at h
      replace h := h.2
      rw [ran_bind] at h
      obtain ⟨reply, t, reconciled, h⟩ := h
      rw [ran_bind] at h
      obtain ⟨_, t', inventory, h⟩ := h
      simp only [ran_bind, ran_pure] at h
      obtain ⟨_, t'', slot, -, rfl⟩ := h
      have kept := ((reconcileDeviceEvent_log _ _ _ _ _ _ (ran_of_reconcile reconciled)).trans
        (recordInventory_log e _ _ _ inventory)).trans (recordSlot_log e _ _ _ slot)
      exact .inl ⟨unseen, kept.terminals, kept.terminalEvents⟩

theorem event_progress {e : DeviceEvent} {answer : EventAnswer}
    (passing : e.eventType = "task.progress")
    (h : Ran (event env terminalId e fresh now) db answer db') : db' = db := by
  simp only [event, if_pos passing, ran_pure] at h
  exact h.2.symm

/-- An event the log has with another digest is refused. -/
theorem event_refused {e : DeviceEvent} {row : TerminalEvent}
    (lasting : e.eventType ≠ "task.progress")
    (found : db.terminalEvents.find? (terminalId, e.eventId) = some row)
    (other : row.payloadDigest ≠ env.canonicalDigest e.body) :
    event env terminalId e fresh now db =
      .error (.serviceError 409 "eventId payload conflict") := by
  simp only [event, if_neg lasting, DeviceMessageRepository.event, apply_read_bind, found]
  exact apply_bind_of_error (by simp only [ensure, if_neg other]; rfl) _

end DeviceMessageService
end CoffeeCloud
