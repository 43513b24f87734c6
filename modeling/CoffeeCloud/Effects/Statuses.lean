import CoffeeCloud.Effects.DeviceMessages

/-!
What moves no order and no command. Most statements write payments, refunds,
jobs or requests; the procedures made of them leave the statuses of orders and
commands as they are, and what is recorded of these too.
-/
namespace CoffeeCloud
open Library Tx ProductionService

/-- An order but for what its payments and the pickup slot say about it. -/
def Order.course (o : Order) : Order :=
  { o with paymentStatus := .notStarted, paidPaymentId := none, pickupRequired := false
           collectedAt := none }

/-- What a payment is found by, and the order it is for. -/
def Payment.address (p : Payment) : Id × Id × String × String :=
  (p.id, p.orderId, p.provider, p.merchantPaymentNo)

/-- Orders, commands and their histories are as they were, payment columns and slot marks aside;
so are the terminals, their events and their watermarks, and where payments are found. -/
structure KeepsStatus (db db' : Db) : Prop where
  orders : db'.orders.view Order.course = db.orders.view Order.course
  orderTransitions : db'.orderTransitions = db.orderTransitions
  commands : db'.commands = db.commands
  commandTransitions : db'.commandTransitions = db.commandTransitions
  terminals : db'.terminals = db.terminals
  terminalEvents : db'.terminalEvents = db.terminalEvents
  watermarks : db'.watermarks = db.watermarks
  addresses : db'.payments.view Payment.address = db.payments.view Payment.address

namespace KeepsStatus

theorem refl (db : Db) : KeepsStatus db db := ⟨rfl, rfl, rfl, rfl, rfl, rfl, rfl, rfl⟩

theorem trans {db db' db'' : Db} (h : KeepsStatus db db') (k : KeepsStatus db' db'') :
    KeepsStatus db db'' :=
  ⟨k.orders.trans h.orders, k.orderTransitions.trans h.orderTransitions,
    k.commands.trans h.commands, k.commandTransitions.trans h.commandTransitions,
    k.terminals.trans h.terminals, k.terminalEvents.trans h.terminalEvents,
    k.watermarks.trans h.watermarks, k.addresses.trans h.addresses⟩

instance : IsPreorder Db KeepsStatus where
  refl := refl
  trans _ _ _ := trans

/-- What is read from an order's course reads the same. -/
theorem view_orders {db db' : Db} {β : Type} (h : KeepsStatus db db') (entry : Order → β)
    (blind : ∀ o, entry o.course = entry o) : db'.orders.view entry = db.orders.view entry := by
  have through (t : Table Order) : t.view entry = fun k => (t.view Order.course k).map entry := by
    funext k
    simp [Table.view, Option.map_map, Function.comp_def, blind]
  rw [through, through, h.orders]

theorem find?_order {db db' : Db} {k : Id} {order : Order} (h : KeepsStatus db db')
    (found : db.orders.find? k = some order) :
    ∃ order', db'.orders.find? k = some order' ∧ order'.course = order.course := by
  have same := congrFun h.orders k
  rw [Table.view_of_find? Order.course found] at same
  exact (Table.view_eq_some _).mp same

end KeepsStatus

section Writes
variable {env : Env} {fresh : FreshRefund} {now : Time}

theorem keepsStatus_modifyOrder {k : Id} {f : Order → Order} {hf : ∀ o, (f o).id = o.id}
    (db : Db) (course : ∀ o, db.orders.find? k = some o → (f o).course = o.course) :
    KeepsStatus db { db with orders := db.orders.modify k f hf } :=
  ⟨Table.view_modify_same _ hf course, rfl, rfl, rfl, rfl, rfl, rfl, rfl⟩

theorem keepsStatus_modifyPayment {k : Id} {f : Payment → Payment} {hf : ∀ p, (f p).id = p.id}
    (same : ∀ p, (f p).address = p.address) (db : Db) :
    KeepsStatus db { db with payments := db.payments.modify k f hf } :=
  ⟨rfl, rfl, rfl, rfl, rfl, rfl, rfl, Table.view_modify_same _ hf fun p _ => same p⟩

theorem updatePaymentStatus_keepsStatus (k : Id) (status : PaymentStatus) :
    Follows KeepsStatus (OrderRepository.updatePaymentStatus k status) :=
  follows_write fun db => keepsStatus_modifyOrder db (by intros; rfl)

theorem modifyPayment_keepsStatus (k : Id) (f : Payment → Payment) (hf : ∀ p, (f p).id = p.id)
    (same : ∀ p, (f p).address = p.address) :
    Follows KeepsStatus (PaymentRepository.modifyPayment k f hf) :=
  follows_bind (follows_write fun db => keepsStatus_modifyPayment same db) fun _ =>
    follows_bind (follows_read _) fun _ => follows_require _ _

theorem modifyRefund_keepsStatus (k : Id) (f : Refund → Refund) (hf : ∀ r, (f r).id = r.id) :
    Follows KeepsStatus (PaymentRepository.modifyRefund k f hf) :=
  follows_write fun _ => ⟨rfl, rfl, rfl, rfl, rfl, rfl, rfl, rfl⟩

theorem modifyJob_keepsStatus (k : Id) (f : Job → Job) (hf : ∀ j, (f j).id = j.id) :
    Follows KeepsStatus (OrderRepository.modifyJob k f hf) :=
  follows_write fun _ => ⟨rfl, rfl, rfl, rfl, rfl, rfl, rfl, rfl⟩

theorem modifyOutbox_keepsStatus (k : Id) (f : CommandOutbox → CommandOutbox)
    (hf : ∀ o, (f o).id = o.id) : Follows KeepsStatus (CommandRepository.modifyOutbox k f hf) :=
  follows_write fun _ => ⟨rfl, rfl, rfl, rfl, rfl, rfl, rfl, rfl⟩

theorem requestDispatch_keepsStatus (terminalId : Id) :
    Follows KeepsStatus (requestDispatch terminalId now) :=
  follows_write fun _ => ⟨rfl, rfl, rfl, rfl, rfl, rfl, rfl, rfl⟩

theorem lift_keepsStatus {α : Type} (e : Except Failure α) : Follows KeepsStatus (lift e) := by
  cases e with
  | ok a => exact follows_pure a
  | error e => exact follows_raise e

theorem transitionPayment_keepsStatus (payment : Payment) (target : PaymentStatus) :
    Follows KeepsStatus (transitionPayment payment target now) := by
  unfold transitionPayment
  dsimp only
  split
  · exact follows_pure _
  · split
    · exact follows_bind (modifyPayment_keepsStatus _ _ _ fun _ => rfl) fun _ => follows_pure _
    · exact follows_raise _

theorem transitionRefund_keepsStatus (refund : Refund) (target : RefundStatus) :
    Follows KeepsStatus (transitionRefund refund target now) := by
  unfold transitionRefund
  dsimp only
  split
  · exact follows_pure _
  · split
    · refine follows_bind ?_ fun _ => follows_pure _
      exact follows_bind (modifyRefund_keepsStatus _ _ _) fun _ =>
        follows_bind (follows_read _) fun _ => follows_require _ _
    · exact follows_raise _

theorem projectPayment_keepsStatus (payment : Payment) (status : PaymentStatus) :
    Follows KeepsStatus (projectPayment payment status) := by
  refine follows_bind (follows_read _) fun order => ?_
  cases order with
  | none => exact follows_pure ()
  | some order => exact follows_onlyIf fun _ => updatePaymentStatus_keepsStatus _ _

theorem insertRefund_keepsStatus (refund : Refund) :
    Follows KeepsStatus (PaymentRepository.insertRefund refund) :=
  follows_bind (follows_read _) fun _ => follows_bind (follows_ensure _ _) fun _ =>
    follows_bind (follows_ensure _ _) fun _ => follows_bind (follows_ensure _ _) fun _ =>
      follows_write fun _ => ⟨rfl, rfl, rfl, rfl, rfl, rfl, rfl, rfl⟩

theorem insertRefundIntent_keepsStatus (r : RefundRequest) (payment : Payment) :
    Follows KeepsStatus (insertRefundIntent env r payment fresh now) := by
  refine follows_bind (follows_bind (follows_read _) fun _ => follows_pure _) fun remaining => ?_
  dsimp only
  split
  · refine follows_bind (insertRefund_keepsStatus _) fun _ => ?_
    exact follows_bind (transitionPayment_keepsStatus _ _) fun _ =>
      follows_bind (projectPayment_keepsStatus _ _) fun _ => follows_pure _
  · exact follows_raise _

theorem createRefundIntent_keepsStatus (r : RefundRequest) :
    Follows KeepsStatus (createRefundIntent env r fresh now) := by
  refine follows_bind (follows_read _) fun _ => follows_bind (follows_require _ _) fun payment => ?_
  refine follows_bind (follows_read _) fun existing => ?_
  cases existing with
  | some existing => exact follows_bind (follows_ensure _ _) fun _ => follows_pure _
  | none => exact follows_bind (follows_ensure _ _) fun _ => insertRefundIntent_keepsStatus r payment

theorem ensureAutomaticRefundIntent_keepsStatus (paymentId : Id) (key reason : String) :
    Follows KeepsStatus (ensureAutomaticRefundIntent env paymentId key reason fresh now) := by
  refine follows_bind (follows_read _) fun payment => ?_
  split
  · exact follows_pure _
  · refine follows_bind (follows_read _) fun existing => ?_
    cases existing with
    | some existing => exact follows_pure _
    | none =>
        refine follows_bind (follows_bind (follows_read _) fun _ => follows_pure _) fun _ => ?_
        split
        · exact follows_bind (createRefundIntent_keepsStatus _) fun _ => follows_pure _
        · exact follows_pure _

theorem paymentToReturn_keepsStatus (order : Order) :
    Follows KeepsStatus (PublicOrderService.paymentToReturn order) := by
  unfold PublicOrderService.paymentToReturn
  split
  · exact follows_pure _
  · exact follows_bind (follows_read _) fun _ => follows_pure _

theorem createAutomaticRefundRecord_keepsStatus (order : Order) (job : Job) (reason : String) :
    Follows KeepsStatus (createAutomaticRefundRecord env order job reason fresh now) := by
  refine follows_bind (paymentToReturn_keepsStatus order) fun paymentId => ?_
  split
  · exact follows_pure ()
  · refine follows_bind (follows_read _) fun payment => ?_
    split
    · exact follows_pure ()
    · exact follows_bind (ensureAutomaticRefundIntent_keepsStatus _ _ _) fun _ => follows_pure ()

theorem refundCancelled_keepsStatus (order : Order) :
    Follows KeepsStatus (PublicOrderService.refundCancelled env order fresh now) := by
  unfold PublicOrderService.refundCancelled
  split
  · refine follows_bind (paymentToReturn_keepsStatus order) fun paymentId => ?_
    split
    · exact follows_pure ()
    · exact follows_bind (ensureAutomaticRefundIntent_keepsStatus _ _ _) fun _ => follows_pure ()
  · exact follows_pure ()

theorem refundExpired_keepsStatus (order : Order) :
    Follows KeepsStatus (refundExpired env order fresh now) := by
  unfold refundExpired
  split
  · refine follows_bind (paymentToReturn_keepsStatus order) fun paymentId => ?_
    split
    · exact follows_pure ()
    · exact follows_bind (ensureAutomaticRefundIntent_keepsStatus _ _ _) fun _ => follows_pure ()
  · exact follows_pure ()

theorem markHold_keepsStatus (event : TaskEvent) (k : Id) :
    Follows KeepsStatus (markHold event k now) := by
  unfold markHold
  split
  · exact modifyJob_keepsStatus _ _ _
  · split
    · exact modifyJob_keepsStatus _ _ _
    · exact follows_pure ()

theorem insertProductionJob_keepsStatus (job : Job) :
    Follows KeepsStatus (OrderRepository.insertProductionJob job) :=
  follows_bind (follows_read _) fun _ => follows_bind (follows_ensure _ _) fun _ =>
    follows_bind (follows_ensure _ _) fun _ => follows_bind (follows_ensure _ _) fun _ =>
      follows_write fun _ => ⟨rfl, rfl, rfl, rfl, rfl, rfl, rfl, rfl⟩

theorem linkCommand_keepsStatus (k c : Id) :
    Follows KeepsStatus (OrderRepository.linkCommand k c now) :=
  follows_bind (follows_read _) fun _ => follows_bind (follows_ensure _ _) fun _ =>
    follows_bind (follows_ensure _ _) fun _ => modifyJob_keepsStatus _ _ _

theorem insertOutbox_keepsStatus (x c terminalId : Id) :
    Follows KeepsStatus (CommandRepository.insertOutbox x c terminalId now) :=
  follows_bind (follows_read _) fun _ => follows_bind (follows_ensure _ _) fun _ =>
    follows_onlyIf fun _ => follows_write fun _ => ⟨rfl, rfl, rfl, rfl, rfl, rfl, rfl, rfl⟩

theorem terminalizeUnclaimed_keepsStatus (outbox : Option CommandOutbox) :
    Follows KeepsStatus (terminalizeUnclaimed outbox now) := by
  unfold terminalizeUnclaimed
  split
  · exact follows_pure ()
  · exact modifyOutbox_keepsStatus _ _ _

end Writes

section Payments
variable {env : Env} {fresh : FreshRefund} {now : Time}

theorem saveProviderResult_keepsStatus (payment : Payment) (tradeNo : Option String) :
    Follows KeepsStatus (PaymentRepository.saveProviderResult payment tradeNo) := by
  unfold PaymentRepository.saveProviderResult
  cases tradeNo with
  | none => exact modifyPayment_keepsStatus _ _ _ fun _ => rfl
  | some tradeNo =>
      exact follows_bind (follows_read _) fun _ => follows_bind (follows_ensure _ _) fun _ =>
        modifyPayment_keepsStatus _ _ _ fun _ => rfl

theorem scheduleReconciliation_keepsStatus (k : Id) (secs : Int) :
    Follows KeepsStatus (PaymentRepository.scheduleReconciliation k secs now) :=
  follows_write fun db => keepsStatus_modifyPayment (by intro; rfl) db

theorem recordTradeNo_keepsStatus (payment : Payment) (tradeNo : Option String) :
    Follows KeepsStatus (recordTradeNo payment tradeNo) := by
  unfold recordTradeNo
  split
  · exact follows_pure payment
  · exact follows_bind (follows_ensure _ _) fun _ => follows_bind (follows_read _) fun _ =>
      follows_bind (follows_ensure _ _) fun _ => modifyPayment_keepsStatus _ _ _ fun _ => rfl

theorem recordPaid_keepsStatus (payment : Payment) :
    Follows KeepsStatus (recordPaid payment now) := by
  unfold recordPaid
  split
  · exact follows_pure _
  · split
    · exact follows_bind (modifyPayment_keepsStatus _ _ _ fun _ => rfl) fun _ => follows_pure _
    · exact transitionPayment_keepsStatus _ _

theorem insertInbox_keepsStatus (row : CallbackInbox) : Follows KeepsStatus (insertInbox row) :=
  follows_write fun _ => ⟨rfl, rfl, rfl, rfl, rfl, rfl, rfl, rfl⟩

theorem claimPrimary_keepsStatus (order : Order) (payment : Payment) :
    Follows KeepsStatus (claimPrimary order payment) := by
  unfold claimPrimary
  split
  · exact follows_pure _
  · exact follows_bind (follows_write fun db => keepsStatus_modifyOrder db (by intros; rfl))
      fun _ => follows_pure _

theorem ensureExtraRefund_keepsStatus (payment : Payment) (key reason : String) :
    Follows KeepsStatus (ensureExtraRefund env payment key reason fresh now) := by
  unfold ensureExtraRefund
  split
  · exact follows_bind (ensureAutomaticRefundIntent_keepsStatus _ _ _) fun _ => follows_pure _
  · exact follows_pure _

theorem enqueueOutbox_keepsStatus (e : Id) (payment : Payment) (order : Order) :
    Follows KeepsStatus (enqueueOutbox e payment order now) :=
  follows_bind (follows_read _) fun _ => follows_bind (follows_ensure _ _) fun _ =>
    follows_onlyIf fun _ => follows_write fun _ => ⟨rfl, rfl, rfl, rfl, rfl, rfl, rfl, rfl⟩

theorem paidOnDeadOrder_keepsStatus (order : Order) (payment : Payment) :
    Follows KeepsStatus (paidOnDeadOrder env order payment fresh now) :=
  follows_bind (claimPrimary_keepsStatus _ _) fun _ =>
    follows_bind (follows_onlyIf fun _ =>
      follows_write fun db => keepsStatus_modifyOrder db (by intros; rfl)) fun _ =>
        ensureExtraRefund_keepsStatus _ _ _

theorem inboxConflict_keepsStatus (existing : CallbackInbox) (digest : String) :
    Follows KeepsStatus (inboxConflict existing digest) :=
  follows_ensure _ _

end Payments
end CoffeeCloud
