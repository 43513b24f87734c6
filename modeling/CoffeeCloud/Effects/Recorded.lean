import CoffeeCloud.Effects.Chronicles
import CoffeeCloud.Effects.Adjudications
import CoffeeCloud.Effects.BackgroundWorker
import CoffeeCloud.Effects.Reports

/-!
That every procedure keeps the histories, procedure by procedure. An order or a
command is read and moved in the same transaction, and what is written in between
is no status; so each transition starts from the row as it stands.
-/
namespace CoffeeCloud
open Library Tx PublicOrderService ProductionService

variable {db db' : Db} {env : Env} {fresh : FreshRefund} {now : Time} {u : Unit}

section Refunds

theorem settleTarget_keepsStatus (payment : Payment) : Follows KeepsStatus (settleTarget payment) :=
  follows_bind (follows_read _) fun _ => follows_bind (follows_read _) fun _ => follows_pure _

theorem settlePaymentAfterRefund_recorded {payment : Payment} {order : Option Order}
    {actor : String} (current : ∀ o ∈ order, Current db o)
    (h : Ran (settlePaymentAfterRefund payment order actor now) db u db') : Recorded db db' := by
  simp only [settlePaymentAfterRefund, ran_bind] at h
  obtain ⟨target, t, target', r, t', transition, h⟩ := h
  have kept := (settleTarget_keepsStatus _ _ _ _ target').trans
    (transitionPayment_keepsStatus _ _ _ _ _ transition)
  split at h
  · simp only [ran_pure] at h
    exact h.2 ▸ kept.recorded
  · rename_i order located
    have mine := (Option.filter_eq_some_iff.mp located).1
    rw [ran_bind] at h
    obtain ⟨_, t'', projected, h⟩ := h
    have kept := kept.trans (updatePaymentStatus_keepsStatus _ _ _ _ _ projected)
    rw [ran_ite] at h
    rcases h with ⟨-, h⟩ | ⟨-, h⟩
    · simp only [ran_bind, ran_pure] at h
      obtain ⟨moved, s, move, -, rfl⟩ := h
      exact kept.recorded.trans
        (transitionOrder_recorded ((current order mine).keep kept) move)
    · simp only [ran_pure] at h
      exact h.2 ▸ kept.recorded

theorem applyRefundOutcome_recorded {refundId : Id} {target : RefundStatus} {actor : String}
    {answer : Option Refund} (h : Ran (applyRefundOutcome refundId target actor now) db answer db') :
    Recorded db db' := by
  simp only [applyRefundOutcome, PaymentRepository.findRefund, PaymentRepository.find,
    OrderRepository.find, ran_read_bind] at h
  split at h
  · simp only [ran_pure] at h
    exact h.2 ▸ .refl _
  · simp only [ran_read_bind] at h
    split at h
    · simp only [ran_pure] at h
      exact h.2 ▸ .refl _
    · simp only [ran_read_bind, ran_require_bind] at h
      obtain ⟨refund, -, h⟩ := h
      rw [ran_ite] at h
      rcases h with ⟨-, h⟩ | ⟨-, h⟩
      · simp only [ran_pure] at h
        exact h.2 ▸ .refl _
      · rw [ran_bind] at h
        obtain ⟨moved, t, transition, h⟩ := h
        have kept := transitionRefund_keepsStatus _ _ _ _ _ transition
        rw [ran_ite] at h
        rcases h with ⟨-, h⟩ | ⟨-, h⟩
        · simp only [ran_bind, ran_pure] at h
          obtain ⟨_, t', settled, -, rfl⟩ := h
          refine kept.recorded.trans (settlePaymentAfterRefund_recorded (fun o found => ?_) settled)
          exact (Current.of_find? found).keep kept
        · simp only [ran_pure] at h
          exact h.2 ▸ kept.recorded

theorem recordRefund_recorded {refundId : Id} {answer : BackgroundWorkerService.RefundAnswer}
    (h : Ran (BackgroundWorkerService.recordRefund refundId answer now) db u db') :
    Recorded db db' := by
  simp only [BackgroundWorkerService.recordRefund, ran_bind] at h
  obtain ⟨current, t, applied, h⟩ := h
  refine (applyRefundOutcome_recorded applied).trans ?_
  split at h
  · simp only [ran_pure] at h
    exact h.2 ▸ .refl _
  · rw [ran_ite, ran_ite] at h
    rcases h with ⟨-, h⟩ | ⟨-, ⟨-, h⟩ | ⟨-, h⟩⟩
    · exact (modifyRefund_keepsStatus _ _ _ _ _ _ h).recorded
    · exact (modifyRefund_keepsStatus _ _ _ _ _ _ h).recorded
    · simp only [ran_pure] at h
      exact h.2 ▸ .refl _

end Refunds

section Customers

theorem create_recorded {r : CreateRequest} {mode : PaymentMode} {admitted : Except Failure Product}
    {new : FreshOrder} {answer : Id × Bool}
    (h : Ran (PublicOrderService.create env r mode admitted new now) db answer db') :
    Recorded db db' := by
  simp only [PublicOrderService.create, ran_ensure_bind, ran_read_bind, ran_require_bind,
    OrderRepository.findIdempotent] at h
  obtain ⟨-, terminal, -, -, h⟩ := h
  split at h
  · simp only [ran_ensure_bind, ran_pure] at h
    exact h.2.2 ▸ .refl _
  · cases admitted with
    | error e => simp at h
    | ok product =>
        simp only [OrderRepository.activeCount, OrderRepository.insert,
          OrderRepository.insertInitialTransition, bind_assoc, ran_read_bind, ran_ensure_bind,
          ran_write_bind, id_eq] at h
        obtain ⟨-, unused, -, h⟩ := h
        rw [ran_bind] at h
        obtain ⟨_, t, queued, h⟩ := h
        simp only [ran_pure] at h
        obtain ⟨-, rfl⟩ := h
        have unknown := Option.isNone_iff_eq_none.mp unused
        have rest := (follows_onlyIf (fun _ => follows_bind (insertProductionJob_keepsStatus _)
          fun _ => requestDispatch_keepsStatus _) _ _ _ queued).recorded
        exact Recorded.trans (openOrder_recorded unknown) rest

theorem insertPayment_rest {payment : Payment}
    (h : Ran (PaymentRepository.insert payment) db u db') :
    Recorded db db' ∧ db'.orders = db.orders := by
  simp only [PaymentRepository.insert, ran_read_bind, ran_ensure_bind, ran_write, id_eq] at h
  obtain ⟨-, -, -, rfl⟩ := h
  exact ⟨recorded_of_eq rfl rfl rfl rfl, rfl⟩

theorem openIntent_recorded {r : PaymentApplicationService.CreateRequest} {order : Order}
    {provider merchantNo : String} {k : Id} {payment : Payment} (current : Current db order)
    (h : Ran (PaymentApplicationService.openIntent env r order provider k merchantNo now) db payment
      db') : Recorded db db' := by
  simp only [PaymentApplicationService.openIntent] at h
  split at h
  · rw [ran_bind] at h
    obtain ⟨_, t, inserted, h⟩ := h
    obtain ⟨kept, orders⟩ := insertPayment_rest inserted
    refine kept.trans ?_
    rw [ran_ite] at h
    rcases h with ⟨-, h⟩ | ⟨-, h⟩
    · simp only [ran_bind, ran_pure] at h
      obtain ⟨moved, t, move, _, t', projected, -, rfl⟩ := h
      refine (transitionOrder_recorded (current.of_eq orders) move).trans ?_
      exact (updatePaymentStatus_keepsStatus _ _ _ _ _ projected).recorded
    · simp only [ran_bind, ran_pure] at h
      obtain ⟨_, t', projected, -, rfl⟩ := h
      exact (updatePaymentStatus_keepsStatus _ _ _ _ _ projected).recorded
  · simp at h

theorem createPayment_recorded {r : PaymentApplicationService.CreateRequest} {merchantNo : String}
    {k : Id} {opened : PaymentApplicationService.Opened}
    (h : Ran (PaymentApplicationService.create env r k merchantNo now) db opened db') :
    Recorded db db' := by
  simp only [PaymentApplicationService.create, ran_ensure_bind] at h
  obtain ⟨-, -, h⟩ := h
  rw [ran_bind] at h
  obtain ⟨order, t, authenticated, h⟩ := h
  rw [ran_bind] at h
  obtain ⟨provider, t', channel, h⟩ := h
  obtain ⟨rfl, found, -⟩ := PaymentApplicationService.authenticateOrder_effect authenticated
  obtain rfl := PaymentApplicationService.channelFor_effect channel
  simp only [ran_ensure_bind, PaymentRepository.findIdempotent, ran_read_bind] at h
  obtain ⟨-, h⟩ := h
  split at h
  · simp only [ran_ensure_bind, ran_ite, ran_pure] at h
    obtain ⟨-, ⟨-, -, rfl⟩ | ⟨-, -, rfl⟩⟩ := h
    all_goals exact .refl _
  · simp only [ran_ensure_bind, PaymentRepository.latestOpenForOrder, ran_read_bind] at h
    obtain ⟨-, -, h⟩ := h
    split at h
    · simp only [ran_ensure_bind, ran_pure] at h
      obtain ⟨-, -, rfl⟩ := h
      exact .refl _
    · simp only [ran_bind, ran_pure] at h
      obtain ⟨payment, t, opened, -, rfl⟩ := h
      exact openIntent_recorded (.of_find? found) opened

theorem cancelJob_keepsStatus (k : Id) : Follows KeepsStatus (OrderRepository.cancelJob k now) :=
  follows_write fun _ => ⟨rfl, rfl, rfl, rfl, rfl, rfl, rfl, rfl⟩

theorem cancel_recorded {orderId : Id} {token : Option String} {intents : List Payment}
    (h : Ran (PublicOrderService.cancel env orderId token fresh now) db intents db') :
    Recorded db db' := by
  simp only [PublicOrderService.cancel, ran_bind] at h
  obtain ⟨order, t, authenticated, h⟩ := h
  obtain ⟨rfl, found, -⟩ := PaymentApplicationService.authenticateOrder_effect authenticated
  rw [ran_ite] at h
  rcases h with ⟨-, h⟩ | ⟨-, h⟩
  · simp only [ran_pure] at h
    exact h.2 ▸ .refl _
  · simp only [ran_ensure_bind, PaymentRepository.openIntentsForOrder, ran_read_bind] at h
    obtain ⟨-, h⟩ := h
    rw [ran_bind] at h
    obtain ⟨_, t, refunded, h⟩ := h
    rw [ran_bind] at h
    obtain ⟨moved, t', move, h⟩ := h
    simp only [ran_bind, ran_pure] at h
    obtain ⟨_, t'', cancelled, -, rfl⟩ := h
    have kept := refundCancelled_keepsStatus _ _ _ _ refunded
    refine .trans ?_ (cancelJob_keepsStatus _ _ _ _ cancelled).recorded
    exact kept.recorded.trans (transitionOrder_recorded ((Current.of_find? found).keep kept) move)

theorem refund_keepsStatus (k : Id) (key reason : String) (amount : Option Int) :
    Follows KeepsStatus (PaymentApplicationService.refund env k key reason amount fresh now) :=
  follows_bind (follows_ensure _ _) fun _ => follows_bind (follows_read _) fun _ =>
    follows_bind (follows_require _ _) fun _ => follows_bind (follows_read _) fun _ =>
      follows_bind (follows_require _ _) fun _ => createRefundIntent_keepsStatus _

theorem merchantRefund_keepsStatus (k : Id) (key reason : String) (amount : Int) :
    Follows KeepsStatus (MerchantOrders.refund env k key reason amount fresh now) :=
  follows_bind (follows_ensure _ _) fun _ => follows_bind (follows_read _) fun _ =>
    follows_bind (follows_require _ _) fun _ => follows_bind (follows_require _ _) fun _ =>
      createRefundIntent_keepsStatus _

end Customers

section Reports
variable {order : Order} {job : Job} {command : Command}

theorem applyEvent_recorded {terminalId : Id} {event : TaskEvent} {input : EventInput}
    {reply : EventReply} (rows : Rows db order job command)
    (h : Ran (applyEvent env terminalId event input order job command fresh now) db reply db') :
    Recorded db db' := by
  simp only [applyEvent, ran_bind, ran_pure] at h
  obtain ⟨_, s, named, steps, s', progress, moved, t, commanded, _, t₁, outcome, _, t₂, held, order',
    t₃, ended, _, t₄, refunded, _, t₅, dispatched, -, rfl⟩ := h
  obtain ⟨-, rfl⟩ := ran_lift.mp named
  obtain ⟨-, rfl⟩ := ran_lift.mp progress
  obtain ⟨logged, orders⟩ := transitionCommand_recorded rows.issued commanded
  have kept := (modifyJob_keepsStatus _ _ _ _ _ _ outcome).trans
    (markHold_keepsStatus _ _ _ _ _ held)
  have current := ((Current.of_find? rows.ordered).of_eq orders).keep kept
  have after := (follows_onlyIf (fun _ => createAutomaticRefundRecord_keepsStatus _ _ _)
    _ _ _ refunded).trans (follows_onlyIf (fun _ => requestDispatch_keepsStatus _) _ _ _ dispatched)
  exact ((logged.trans kept.recorded).trans (transitionOrder_recorded current ended)).trans
    after.recorded

theorem applyStep_keepsStatus (input : EventInput) (order : Order) (job : Job) :
    Follows KeepsStatus (applyStep input order job now) :=
  follows_bind (lift_keepsStatus _) fun _ => follows_bind (modifyJob_keepsStatus _ _ _) fun _ =>
    follows_pure _

theorem reconcileDeviceEvent_recorded {terminalId : Id} {body : Json} {eventType : String}
    {reply : EventReply}
    (h : Ran (reconcileDeviceEvent env terminalId body eventType fresh now) db reply db') :
    Recorded db db' := by
  rcases reconcileDeviceEvent_cases h with
    ⟨-, same⟩ | ⟨kind, input, order, job, command, -, concerns, -, applied⟩ |
      ⟨event, input, command, r, -, alone, -, moved⟩
  · exact same ▸ .refl db
  · cases kind with
    | step => exact (applyStep_keepsStatus _ _ _ _ _ _ applied).recorded
    | task event => exact applyEvent_recorded concerns.rows applied
  · exact (transitionCommand_recorded alone.issued moved).1

theorem reconcileOrderAck_recorded {terminalId : Id} {taskId : String} {body : Json}
    {reply : EventReply}
    (h : Ran (reconcileOrderAck env terminalId taskId body fresh now) db reply db') :
    Recorded db db' := by
  simp only [reconcileOrderAck, DeviceMessageRepository.command, ran_require_bind,
    ran_read_bind] at h
  obtain ⟨accepted, -, messageId, -, command, -, h⟩ := h
  exact reconcileDeviceEvent_recorded h

theorem reconcileStored_recorded {p : String → Bool} {fresh : Nat → FreshRefund}
    (h : Ran (reconcileStored env p fresh now) db u db') : Recorded db db' := by
  simp only [reconcileStored, storedEvents, ran_read_bind] at h
  generalize List.zipIdx _ = items at h
  induction items generalizing db with
  | nil =>
      simp only [ran_forEach_nil] at h
      exact h ▸ .refl _
  | cons item items ih =>
      simp only [ran_forEach_cons, ran_bind, ran_pure] at h
      obtain ⟨t, ⟨reply, t', one, -, rfl⟩, rest⟩ := h
      exact (reconcileDeviceEvent_recorded one).trans
        (ih (by simpa only [ran_bind, ran_pure] using rest))

/-- What leaves orders, commands and their histories as they are. -/
theorem follows_untouched {f : Db → Db} (h : ∀ db, (f db).orders = db.orders ∧
    (f db).orderTransitions = db.orderTransitions ∧ (f db).commands = db.commands ∧
    (f db).commandTransitions = db.commandTransitions) :
    Follows Recorded (Tx.write f : Sql Unit) :=
  follows_write fun db =>
    recorded_of_eq (h db).1 (h db).2.1 (h db).2.2.1 (h db).2.2.2

theorem insertEvent_recorded (driver : Driver) (e : TerminalEvent) :
    Follows Recorded (DeviceMessageRepository.insertEvent driver e) := by
  refine follows_bind (follows_ensure _ _) fun _ => follows_bind (follows_read _) fun found => ?_
  split
  · exact follows_pure _
  · exact follows_bind (follows_untouched fun _ => ⟨rfl, rfl, rfl, rfl⟩) fun _ => follows_pure _

theorem recordInventory_recorded (terminalId : Id) (e : DeviceMessageService.DeviceEvent) :
    Follows Recorded (DeviceMessageService.recordInventory terminalId e) := by
  unfold DeviceMessageService.recordInventory
  split
  · split
    · exact follows_pure ()
    · exact follows_bind (follows_ensure _ _) fun _ =>
        follows_untouched fun _ => ⟨rfl, rfl, rfl, rfl⟩
    · exact follows_raise _
  · exact follows_pure ()

theorem pickup_keepsStatus (slot : PickupSlot) (collected : Bool) :
    Follows KeepsStatus (PickupRepository.apply slot collected now) := by
  refine follows_bind (follows_write fun t => ?_) fun _ =>
    follows_bind (follows_read id) fun t => ?_
  · split
    · exact .refl t
    · exact keepsStatus_modifyOrder t (by intros; rfl)
  · split
    · exact follows_write fun _ => ⟨rfl, rfl, rfl, rfl, rfl, rfl, rfl, rfl⟩
    · split
      · exact follows_write fun _ => ⟨rfl, rfl, rfl, rfl, rfl, rfl, rfl, rfl⟩
      · exact follows_ensure _ _

theorem recordSlot_keepsStatus (terminalId : Id) (e : DeviceMessageService.DeviceEvent) :
    Follows KeepsStatus (DeviceMessageService.recordSlot terminalId e now) := by
  refine follows_bind (follows_ensure _ _) fun _ => ?_
  split
  · refine follows_bind (lift_keepsStatus _) fun slot => ?_
    split
    · exact follows_pure ()
    · exact follows_bind (follows_ensure _ _) fun _ =>
        follows_bind (pickup_keepsStatus _ _) fun _ =>
          follows_onlyIf fun _ => requestDispatch_keepsStatus terminalId
  · exact follows_pure ()

theorem event_recorded {terminalId : Id} {e : DeviceMessageService.DeviceEvent}
    {answer : DeviceMessageService.EventAnswer}
    (h : Ran (DeviceMessageService.event env terminalId e fresh now) db answer db') :
    Recorded db db' := by
  simp only [DeviceMessageService.event] at h
  rw [ran_ite] at h
  rcases h with ⟨-, h⟩ | ⟨-, h⟩
  · simp only [ran_pure] at h
    exact h.2 ▸ .refl _
  · simp only [DeviceMessageRepository.event, ran_read_bind] at h
    split at h
    · simp only [ran_ensure_bind, ran_pure] at h
      exact h.2.2 ▸ .refl _
    · rw [ran_bind] at h
      obtain ⟨_, t, inserted, h⟩ := h
      rw [ran_bind] at h
      obtain ⟨reply, t', reconciled, h⟩ := h
      rw [ran_bind] at h
      obtain ⟨_, t'', inventory, h⟩ := h
      simp only [ran_bind, ran_pure] at h
      obtain ⟨_, t₃, slot, -, rfl⟩ := h
      refine ((insertEvent_recorded _ _ _ _ _ inserted).trans
        (reconcileDeviceEvent_recorded (ran_of_reconcile reconciled))).trans ?_
      exact (recordInventory_recorded _ _ _ _ _ inventory).trans
        (recordSlot_keepsStatus _ _ _ _ _ slot).recorded

end Reports

section Commands
variable {command : Command}

/-- A command is written with the first entry of its log. -/
theorem issued_recorded {α : Type} {a : α} {k : Sql α} {actor : String}
    (created : command.status = .created) (unmoved : command.revision = 0)
    (h : Ran (do
      CommandRepository.insert command
      CommandRepository.insertInitialTransition command.id actor
      k) db a db') :
    ∃ t, Recorded db t ∧ t.orders = db.orders ∧ Ran k t a db' := by
  simp only [CommandRepository.insert, CommandRepository.insertInitialTransition, bind_assoc,
    ran_read_bind, ran_ensure_bind, ran_write_bind, id_eq] at h
  obtain ⟨unused, -, -, h⟩ := h
  exact ⟨_, openCommand_recorded (Option.isNone_iff_eq_none.mp unused) created unmoved, rfl, h⟩

theorem insertCommand_recorded {r : CommandService.CreateRequest} {key : Option String}
    {actor : String} {new : FreshCommand}
    (h : Ran (CommandService.insertCommand r key actor new now) db u db') : Recorded db db' := by
  obtain ⟨t, recorded, -, h⟩ := issued_recorded rfl rfl h
  exact recorded.trans (insertOutbox_keepsStatus _ _ _ _ _ _ h).recorded

theorem createAdmin_recorded {r : CommandService.CreateRequest} {key : String} {new : FreshCommand}
    {clock : Time} {duplicate : Bool}
    (h : Ran (CommandService.createAdmin r key new clock now) db duplicate db') :
    Recorded db db' := by
  simp only [CommandService.createAdmin, OrderRepository.terminalForUpdate,
    CommandRepository.byIdempotency, ran_ensure_bind, ran_read_bind, ran_require_bind] at h
  obtain ⟨-, -, terminal, -, h⟩ := h
  split at h
  · simp only [ran_ensure_bind, ran_pure] at h
    exact h.2.2 ▸ .refl _
  · simp only [ran_bind, ran_pure] at h
    obtain ⟨_, t, inserted, -, rfl⟩ := h
    exact insertCommand_recorded inserted

theorem claim_keepsStatus (gatewayId : String) (lease : Int) (picks : List Id) :
    Follows KeepsStatus (CommandRepository.claim gatewayId lease now picks) := by
  induction picks with
  | nil => exact follows_pure []
  | cons pick picks ih =>
      refine follows_bind ?_ fun row => follows_bind ih fun rows => follows_pure _
      refine follows_bind (follows_read _) fun found => ?_
      split
      · exact follows_pure none
      · refine follows_bind (follows_read _) fun command => ?_
        split
        · exact follows_pure none
        · split
          · exact follows_bind (modifyOutbox_keepsStatus _ _ _) fun _ => follows_read _
          · exact follows_pure none

/-- A change of a command that is no move and is not counted is not logged. -/
theorem modifyCommand_recorded {k : Id} {f : Command → Command} {hf : ∀ c, (f c).id = c.id}
    (status : ∀ c, (f c).status = c.status) (revision : ∀ c, (f c).revision = c.revision) :
    Follows Recorded (CommandRepository.modifyCommand k f hf) := by
  refine follows_write fun db => ⟨id, fun logged => ?_⟩
  have same : Db.commandLog { db with commands := db.commands.modify k f hf } = db.commandLog := by
    simp only [Db.commandLog]
    rw [Table.view_modify_same _ hf fun c _ => status c]
  refine ⟨same ▸ logged.faithful, fun k' c found => ?_⟩
  rw [same]
  simp only [Table.find?_modify] at found
  by_cases here : k' = k
  · rw [if_pos here] at found
    obtain ⟨row, found', rfl⟩ := Option.map_eq_some_iff.mp found
    rw [revision]
    exact logged.counted _ _ found'
  · rw [if_neg here] at found
    exact logged.counted _ _ found

theorem setPublishedAt_recorded (k : Id) :
    Follows Recorded (CommandRepository.setPublishedAt k now) :=
  modifyCommand_recorded (fun _ => rfl) fun _ => rfl

theorem confirmPublished_recorded {k : Id}
    (h : Ran (CommandService.confirmPublished k now) db u db') : Recorded db db' := by
  simp only [CommandService.confirmPublished, CommandRepository.byDbId, ran_read_bind] at h
  split at h
  · simp only [ran_pure] at h
    exact h.2 ▸ .refl _
  · rename_i command found
    obtain rfl : command.id = k := Table.key_of_find? found
    rw [ran_bind] at h
    obtain ⟨_, t, moved, h⟩ := h
    refine .trans ?_ (setPublishedAt_recorded _ _ _ _ h)
    rw [ran_onlyIf] at moved
    rcases moved with ⟨-, moved⟩ | ⟨-, rfl⟩
    · simp only [ran_bind, ran_pure] at moved
      obtain ⟨r, t', transition, -, rfl⟩ := moved
      exact (transitionCommand_recorded found transition).1
    · exact .refl _

theorem published_recorded {x : Id} {gatewayId : String} {reply : CommandService.PublishReply}
    (h : Ran (CommandService.published x gatewayId now) db reply db') : Recorded db db' := by
  simp only [CommandService.published, CommandRepository.findOutbox, CommandRepository.byDbId,
    CommandRepository.outbox, ran_read_bind, ran_require_bind] at h
  obtain ⟨located, -, outbox, -, h⟩ := h
  rw [ran_ite, ran_ite] at h
  rcases h with ⟨-, h⟩ | ⟨-, ⟨-, h⟩ | ⟨-, h⟩⟩
  · simp only [ran_pure] at h
    exact h.2 ▸ .refl _
  · split at h
    · simp only [ran_pure] at h
      exact h.2 ▸ .refl _
    · simp only [ran_bind, ran_pure] at h
      obtain ⟨_, t, stamped, -, rfl⟩ := h
      exact setPublishedAt_recorded _ _ _ _ stamped
  · simp only [ran_ensure_bind] at h
    obtain ⟨-, h⟩ := h
    simp only [ran_bind, ran_pure] at h
    obtain ⟨_, t, marked, _, t', confirmed, -, rfl⟩ := h
    exact (modifyOutbox_keepsStatus _ _ _ _ _ _ marked).recorded.trans
      (confirmPublished_recorded confirmed)

theorem retry_keepsStatus (x : Id) (gatewayId : String) :
    Follows KeepsStatus (CommandService.retry x gatewayId now) := by
  refine follows_bind (follows_read _) fun _ => follows_bind (follows_require _ _) fun row => ?_
  split
  · exact follows_pure _
  · exact follows_bind (follows_ensure _ _) fun _ =>
      follows_bind (modifyOutbox_keepsStatus _ _ _) fun _ => follows_pure _

theorem commandResult_recorded {terminalId : Id} {messageId status : String} {reply : CommandReply}
    (h : Ran (DeviceMessageService.commandResult terminalId messageId status now) db reply db') :
    Recorded db db' := by
  simp only [DeviceMessageService.commandResult, DeviceMessageRepository.command, ran_read_bind,
    ran_require_bind, ran_ensure_bind] at h
  obtain ⟨command, located, -, h⟩ := h
  simp only [ran_bind, ran_pure] at h
  obtain ⟨r, t, transition, -, rfl⟩ := h
  exact (transitionCommand_recorded (Table.find?_of_mem (Table.first?_some located).1) transition).1

end Commands

section Deadlines
variable {order : Order} {job : Job}

theorem updateJobHold_keepsStatus (k : Id) (reason : String) :
    Follows KeepsStatus (OrderRepository.updateJobHold k reason now) := modifyJob_keepsStatus _ _ _

theorem expireCoordinated_recorded {delivered : Bool} (current : Current db order)
    (h : Ran (expireCoordinated env order job delivered fresh now) db u db') :
    Recorded db db' ∧ db'.commands = db.commands := by
  simp only [expireCoordinated] at h
  rw [ran_ite] at h
  rcases h with ⟨-, h⟩ | ⟨-, h⟩
  · simp only [ran_bind, ran_pure] at h
    obtain ⟨_, t, held, moved, t', move, -, rfl⟩ := h
    have kept := updateJobHold_keepsStatus _ _ _ _ _ held
    refine ⟨kept.recorded.trans (transitionOrder_recorded (current.keep kept) move), ?_⟩
    exact (transitionOrder_commands move (current.keep kept)).1.trans kept.commands
  · simp only [ran_bind] at h
    obtain ⟨_, t, expired, moved, t', move, h⟩ := h
    have kept := modifyJob_keepsStatus _ _ _ _ _ _ expired
    have after := refundExpired_keepsStatus _ _ _ _ h
    refine ⟨(kept.recorded.trans (transitionOrder_recorded (current.keep kept) move)).trans
      after.recorded, ?_⟩
    exact after.commands.trans
      ((transitionOrder_commands move (current.keep kept)).1.trans kept.commands)

theorem expireOrderForCommand_recorded {c : Id} {clock : Time} {verdict : Option CommandStatus}
    (h : Ran (expireOrderForCommand env c clock fresh now) db verdict db') : Recorded db db' := by
  simp only [expireOrderForCommand] at h
  rw [ran_bind] at h
  obtain ⟨rows, t, located, h⟩ := h
  obtain ⟨rfl, both, -⟩ := coordinated_effect located
  simp only [CommandRepository.byDbId, CommandRepository.outboxForCommand, ran_read_bind] at h
  split at h
  · simp only [ran_pure] at h
    exact h.2 ▸ .refl _
  · rename_i current picked
    obtain ⟨found, -⟩ := Option.filter_eq_some_iff.mp picked
    obtain rfl : current.id = c := Table.key_of_find? found
    simp only [ran_read_bind] at h
    rw [ran_bind] at h
    obtain ⟨_, t₁, terminalize, h⟩ := h
    have kept := terminalizeUnclaimed_keepsStatus _ _ _ _ terminalize
    refine kept.recorded.trans ?_
    generalize deliveredEvidence current _ = delivered at h
    split at h
    · simp only [ran_bind, ran_pure] at h
      obtain ⟨r, t₂, transition, -, rfl⟩ := h
      exact (transitionCommand_recorded (kept.commands ▸ found) transition).1
    · rename_i order job some
      obtain ⟨rfl, -⟩ := Option.filter_eq_some_iff.mp some
      obtain ⟨-, -, ordered, -⟩ := both order job rfl
      rw [ran_bind] at h
      obtain ⟨_, t₂, expire, h⟩ := h
      simp only [ran_bind, ran_pure] at h
      obtain ⟨r, t₃, transition, -, rfl⟩ := h
      obtain ⟨recorded, commands⟩ :=
        expireCoordinated_recorded ((Current.of_find? ordered).keep kept) expire
      refine recorded.trans (transitionCommand_recorded ?_ transition).1
      rw [commands, kept.commands]
      exact found

theorem pollCandidate_recorded {candidate : Command} {clock clock' : Time}
    {polled : DeviceMessageService.Polled}
    (h : Ran (DeviceMessageService.pollCandidate env candidate clock clock' fresh now) db polled
      db') : Recorded db db' := by
  simp only [DeviceMessageService.pollCandidate] at h
  rw [ran_ite] at h
  rcases h with ⟨-, h⟩ | ⟨-, h⟩
  · simp only [ran_bind, ran_pure] at h
    obtain ⟨verdict, t, judged, -, rfl⟩ := h
    exact expireOrderForCommand_recorded judged
  · simp only [CommandRepository.byDbId, ran_read_bind] at h
    split at h
    · simp only [ran_pure] at h
      exact h.2 ▸ .refl _
    · rename_i row there
      obtain ⟨found, -⟩ := Option.filter_eq_some_iff.mp there
      have key : row.id = candidate.id := Table.key_of_find? found
      rw [← key] at found
      simp only [DeviceMessageService.deliver] at h
      rw [ran_ite] at h
      rcases h with ⟨-, h⟩ | ⟨-, h⟩
      · simp only [ran_bind, ran_pure] at h
        obtain ⟨r, t, transition, h⟩ := h
        obtain ⟨_, _, ⟨-, rfl⟩, -, rfl⟩ := h
        exact (transitionCommand_recorded found transition).1
      · simp only [pure_bind, ran_pure] at h
        exact h.2 ▸ .refl _

theorem holdOverdueJob_recorded {orderId jobId : Id} {clock : Time}
    (h : Ran (holdOverdueJob env orderId jobId clock now) db u db') : Recorded db db' := by
  simp only [holdOverdueJob, OrderRepository.findWithTerminal, OrderRepository.lockJob,
    ran_read_bind] at h
  split at h
  · rename_i order job foundOrder foundJob
    obtain ⟨ordered, -⟩ := Option.filter_eq_some_iff.mp foundOrder
    rw [ran_ite] at h
    rcases h with ⟨-, h⟩ | ⟨-, h⟩
    · cases bound : job.commandId with
      | none =>
          simp only [bound, pure_bind, Option.filter_none, ran_pure] at h
          exact h.2 ▸ .refl _
      | some c =>
          simp only [bound, CommandRepository.byDbId, ran_read_bind] at h
          split at h
          · simp only [ran_pure] at h
            exact h.2 ▸ .refl _
          · rename_i command live
            obtain ⟨found, -⟩ := Option.filter_eq_some_iff.mp live
            obtain rfl : command.id = c := Table.key_of_find? found
            rw [ran_bind] at h
            obtain ⟨due, t, judged, h⟩ := h
            obtain ⟨-, rfl⟩ := ran_lift.mp judged
            rw [ran_onlyIf] at h
            rcases h with ⟨-, h⟩ | ⟨-, rfl⟩
            · simp only [ran_bind, ran_pure] at h
              obtain ⟨r, t₁, transition, _, t₂, held, moved, t₃, move, -, rfl⟩ := h
              obtain ⟨logged, orders⟩ := transitionCommand_recorded found transition
              have kept := updateJobHold_keepsStatus _ _ _ _ _ held
              refine (logged.trans kept.recorded).trans (transitionOrder_recorded ?_ move)
              exact ((Current.of_find? ordered).of_eq orders).keep kept
            · exact .refl _
    · simp only [ran_pure] at h
      exact h.2 ▸ .refl _
  · simp only [ran_pure] at h
    exact h.2 ▸ .refl _

end Deadlines

section Operators

theorem insertAdjudication_keepsStatus (a : Adjudication) :
    Follows KeepsStatus (AdjudicationRepository.insert a) :=
  follows_bind (follows_read _) fun _ => follows_bind (follows_ensure _ _) fun _ =>
    follows_write fun _ => ⟨rfl, rfl, rfl, rfl, rfl, rfl, rfl, rfl⟩

theorem adjudicate_recorded {r : OrderAdjudicationService.Request} {result : Adjudication}
    (h : Ran (OrderAdjudicationService.adjudicate env r fresh now) db result db') :
    Recorded db db' := by
  rcases OrderAdjudicationService.adjudicate_cases h with
    ⟨same, -⟩ | ⟨-, order, job, command, rows, -, -, -, -, h⟩
  · exact same ▸ .refl _
  · simp only [OrderAdjudicationService.resolve, OrderRepository.terminalForUpdate, ran_bind,
      ran_read, ran_pure] at h
    obtain ⟨moved, t, transition, _, t₁, outcome, _, t₂, cleared, order', t₃, move, _, t₄, refunded,
      terminal, _, ⟨-, rfl⟩, _, t₅, dispatched, _, t₆, inserted, -, rfl⟩ := h
    obtain ⟨logged, orders⟩ := transitionCommand_recorded rows.issued transition
    have kept := (modifyJob_keepsStatus _ _ _ _ _ _ outcome).trans
      (modifyJob_keepsStatus _ _ _ _ _ _ cleared)
    have current := ((Current.of_find? rows.ordered).of_eq orders).keep kept
    have after := ((follows_onlyIf (fun _ => createAutomaticRefundRecord_keepsStatus _ _ _)
      _ _ _ refunded).trans (requestDispatch_keepsStatus _ _ _ _ dispatched)).trans
        (insertAdjudication_keepsStatus _ _ _ _ inserted)
    exact ((logged.trans kept.recorded).trans (transitionOrder_recorded current move)).trans
      after.recorded

end Operators

section Worker
open BackgroundWorkerService

theorem expireUnpaid_recorded {picks : List Id}
    (h : Ran (BackgroundWorkerService.expireUnpaid env picks now) db u db') : Recorded db db' := by
  refine follows_forEach (R := Recorded) (fun pick _ => ?_) _ _ _ h
  intro db u db' one
  simp only [OrderRepository.find, ran_read_bind] at one
  split at one
  · simp only [ran_pure] at one
    exact one.2 ▸ .refl _
  · rename_i order located
    simp only [ran_bind, ran_pure] at one
    obtain ⟨moved, t', move, -, rfl⟩ := one
    exact transitionOrder_recorded (.of_find? (Option.filter_eq_some_iff.mp located).1) move

theorem ensureJob_keepsStatus (order : Order) (new : FreshJob) :
    Follows KeepsStatus (ensureJob order new now) := by
  refine follows_bind (follows_read _) fun found => ?_
  split
  · exact follows_pure ()
  · exact insertProductionJob_keepsStatus _

theorem processPaidEvent_recorded (event : BusinessEvent) (new : FreshJob) :
    Follows Recorded (processPaidEvent event new now) := by
  intro db u db' h
  simp only [processPaidEvent, OrderRepository.findWithTerminal, ran_read_bind] at h
  split at h
  · simp only [ran_pure] at h
    exact h.2 ▸ .refl _
  · rename_i order located
    have ordered := (Option.filter_eq_some_iff.mp (Option.filter_eq_some_iff.mp located).1).1
    rw [ran_ite, ran_ite] at h
    rcases h with ⟨-, h⟩ | ⟨-, ⟨-, h⟩ | ⟨-, h⟩⟩
    · simp only [ran_pure] at h
      exact h.2 ▸ .refl _
    · simp only [ran_pure] at h
      exact h.2 ▸ .refl _
    · rw [ran_bind] at h
      obtain ⟨_, t, ensured, h⟩ := h
      rw [ran_bind] at h
      obtain ⟨_, t', queued, requested⟩ := h
      have kept := ensureJob_keepsStatus _ _ _ _ _ ensured
      refine (kept.recorded.trans ?_).trans (requestDispatch_keepsStatus _ _ _ _ requested).recorded
      rw [ran_onlyIf] at queued
      rcases queued with ⟨-, queued⟩ | ⟨-, rfl⟩
      · simp only [ran_bind, ran_pure] at queued
        obtain ⟨moved, s, move, -, rfl⟩ := queued
        exact transitionOrder_recorded ((Current.of_find? ordered).keep kept) move
      · exact .refl _

theorem markEvent_keepsStatus {f : BusinessEvent → BusinessEvent} {hf : ∀ e, (f e).id = e.id}
    (k : Id) : Follows KeepsStatus (Tx.write fun db => { db with
      businessOutbox := db.businessOutbox.modify k f hf } : Sql Unit) :=
  follows_write fun _ => ⟨rfl, rfl, rfl, rfl, rfl, rfl, rfl, rfl⟩

theorem handleEvent_recorded (event : BusinessEvent) (disturbed : Bool) (new : FreshJob) :
    Follows Recorded (handleEvent event disturbed new now) := by
  refine follows_bind (follows_savepoint ?_) fun handled => ?_
  · refine follows_bind (processPaidEvent_recorded event new) fun _ => ?_
    exact follows_bind (follows_ensure _ _) fun _ db _ db' h =>
      (markEvent_keepsStatus _ db _ db' h).recorded
  · split
    · exact follows_pure ()
    · exact fun db _ db' h => (markEvent_keepsStatus _ db _ db' h).recorded

theorem claimBusinessEvents_keepsStatus (picks : List Id) :
    Follows KeepsStatus (WorkerRepository.claimBusinessEvents now picks) := by
  induction picks with
  | nil => exact follows_pure []
  | cons pick picks ih =>
      refine follows_bind (follows_read _) fun db => ?_
      split
      · exact ih
      · exact follows_bind (markEvent_keepsStatus _) fun _ => follows_bind ih fun _ => follows_pure _

theorem outboxBatch_recorded (picks : List Id) (disturbed : Id → Bool) (new : Id → FreshJob) :
    Follows Recorded (processBusinessOutboxBatch picks disturbed new now) :=
  follows_bind (fun db _ db' h => (claimBusinessEvents_keepsStatus _ db _ db' h).recorded)
    fun _ => follows_forEach fun _ _ => handleEvent_recorded _ _ _

theorem dispatchJob_recorded {job : Job} {terminalId : Id} {new : FreshCommand}
    (h : Ran (dispatchJob job terminalId new now) db u db') : Recorded db db' := by
  obtain ⟨t, recorded, -, h⟩ := issued_recorded rfl rfl h
  refine recorded.trans ?_
  rw [ran_bind] at h
  obtain ⟨_, t₁, posted, h⟩ := h
  rw [ran_bind] at h
  obtain ⟨_, t₂, linked, h⟩ := h
  refine ((insertOutbox_keepsStatus _ _ _ _ _ _ posted).recorded.trans
    (linkCommand_keepsStatus _ _ _ _ _ linked).recorded).trans ?_
  simp only [OrderRepository.findWithTerminal, ran_read_bind] at h
  split at h
  · simp only [ran_pure] at h
    exact h.2 ▸ .refl _
  · rename_i order located
    simp only [ran_bind, ran_pure] at h
    obtain ⟨moved, t₃, move, -, rfl⟩ := h
    exact transitionOrder_recorded (.of_find? (Option.filter_eq_some_iff.mp located).1) move

theorem dispatchNextOrderResult_recorded {terminalId : Id} {new : FreshCommand}
    {reason : DispatchReason}
    (h : Ran (dispatchNextOrderResult env terminalId new now) db reason db') :
    Recorded db db' := by
  simp only [dispatchNextOrderResult, OrderRepository.terminalForUpdate,
    OrderRepository.activeJobExists, PickupRepository.blocked, OrderRepository.nextQueuedJob,
    OrderRepository.findWithTerminal, OrderRepository.lockJob, ran_read_bind] at h
  split at h
  · simp only [ran_pure] at h
    exact h.2 ▸ .refl _
  · simp only [ran_ite, ran_read_bind, ran_pure] at h
    rcases h with ⟨-, -, rfl⟩ | ⟨-, ⟨-, -, rfl⟩ | ⟨-, ⟨-, -, rfl⟩ | ⟨-, ⟨-, -, rfl⟩ |
      ⟨-, ⟨-, -, rfl⟩ | ⟨-, h⟩⟩⟩⟩⟩
    · exact .refl _
    · exact .refl _
    · exact .refl _
    · exact .refl _
    · exact .refl _
    · split at h
      · simp only [ran_pure] at h
        exact h.2 ▸ .refl _
      · simp only [ran_read_bind] at h
        rw [ran_ite] at h
        rcases h with ⟨-, h⟩ | ⟨-, h⟩
        · simp only [ran_bind, ran_pure] at h
          obtain ⟨_, t, dispatched, -, rfl⟩ := h
          exact dispatchJob_recorded dispatched
        · simp only [ran_pure] at h
          exact h.2 ▸ .refl _

theorem modifyRequests_keepsStatus (f : Db → Table DispatchRequest) :
    Follows KeepsStatus (Tx.write fun db => { db with dispatchRequests := f db } : Sql Unit) :=
  follows_write fun _ => ⟨rfl, rfl, rfl, rfl, rfl, rfl, rfl, rfl⟩

theorem processDispatch_recorded {request : DispatchRequest} {new : FreshCommand}
    {reason : DispatchReason} (h : Ran (processDispatch env request new now) db reason db') :
    Recorded db db' := by
  simp only [processDispatch] at h
  rw [ran_bind] at h
  obtain ⟨outcome, t, dispatched, h⟩ := h
  refine (dispatchNextOrderResult_recorded dispatched).trans ?_
  simp only [OrderRepository.nextQueuedJob, ran_read_bind] at h
  rw [ran_ite] at h
  rcases h with ⟨-, h⟩ | ⟨-, h⟩
  · simp only [ran_bind, ran_pure] at h
    obtain ⟨_, t', retried, -, rfl⟩ := h
    exact (modifyRequests_keepsStatus _ _ _ _ retried).recorded
  · simp only [ran_bind, ran_pure] at h
    obtain ⟨_, t', completed, -, rfl⟩ := h
    exact (modifyRequests_keepsStatus _ _ _ _ completed).recorded

theorem claimDispatch_keepsStatus (pick : Id) : Follows KeepsStatus (claimDispatch pick now) := by
  refine follows_bind (follows_read _) fun db => ?_
  split
  · exact follows_pure none
  · exact follows_bind (modifyRequests_keepsStatus _) fun _ => follows_read _

theorem repairMissing_keepsStatus (limit : Nat) :
    Follows KeepsStatus (DispatchRepository.repairMissing limit now) :=
  follows_bind (follows_read _) fun _ =>
    follows_bind (follows_forEach fun _ _ => modifyRequests_keepsStatus _) fun _ => follows_pure _

theorem claimPayment_keepsStatus (pick : Id) : Follows KeepsStatus (claimPayment env pick now) := by
  refine follows_bind (follows_read _) fun payment => ?_
  split
  · exact follows_pure none
  · exact follows_bind (scheduleReconciliation_keepsStatus _ _) fun _ => follows_pure _

theorem claimRefund_keepsStatus (pick : Id) : Follows KeepsStatus (claimRefund pick now) := by
  refine follows_bind (follows_read _) fun refund => ?_
  split
  · exact follows_pure none
  · refine follows_bind (follows_read _) fun payment => ?_
    split
    · exact follows_pure none
    · split
      · exact follows_bind (transitionRefund_keepsStatus _ _) fun _ =>
          follows_bind (modifyRefund_keepsStatus _ _ _) fun _ => follows_pure _
      · exact follows_bind (modifyRefund_keepsStatus _ _ _) fun _ => follows_pure _

theorem cleanupHistory_recorded (events : List (Id × String)) (business outbox : List Id) :
    Follows Recorded (WorkerRepository.cleanupHistory env events business outbox now) :=
  follows_untouched fun _ => ⟨rfl, rfl, rfl, rfl⟩

theorem markOffline_recorded (clock : Time) : Follows Recorded (markOffline env clock) :=
  follows_untouched fun _ => ⟨rfl, rfl, rfl, rfl⟩

end Worker
end CoffeeCloud
