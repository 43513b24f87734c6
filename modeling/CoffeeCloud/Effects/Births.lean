import CoffeeCloud.Effects.Frames
import CoffeeCloud.Effects.Collected
import CoffeeCloud.Effects.Recorded

/-!
What an order is born with: its terminal, its key and the digest of its request.
No procedure but the one that creates orders writes any of it, or adds an order
or takes one away.
-/
namespace CoffeeCloud
open Library Tx PublicOrderService ProductionService

/-- What an order is created with, and found again by. -/
structure Birth where
  orderId : Id
  terminalId : Id
  idempotencyKey : String
  requestDigest : String
deriving DecidableEq

def Order.birth (o : Order) : Birth := ⟨o.id, o.terminalId, o.idempotencyKey, o.requestDigest⟩

def KeepsBirths (db db' : Db) : Prop := db'.orders.view Order.birth = db.orders.view Order.birth

instance : IsPreorder Db KeepsBirths where
  refl _ := rfl
  trans _ _ _ h k := k.trans h

theorem KeepsStatus.births {db db' : Db} (h : KeepsStatus db db') : KeepsBirths db db' :=
  h.view_orders Order.birth fun _ => rfl

theorem follows_births {α : Type} {m : Sql α} (h : Follows KeepsStatus m) : Follows KeepsBirths m :=
  fun db a db' ran => (h db a db' ran).births

theorem KeepsBirths.narrow : Narrow KeepsBirths where
  orders db k f hf lasting := by
    refine Table.view_modify_same Order.birth hf fun o _ => ?_
    have same := congrArg Order.birth (lasting o)
    exact same
  orderTransitions _ _ := rfl
  commands _ _ := rfl
  commandTransitions _ _ := rfl
  payments _ _ := rfl
  refunds _ _ := rfl
  dispatchRequests _ _ := rfl

variable {env : Env} {fresh : FreshRefund} {now : Time}

section Payments

theorem modifyOrder_births (k : Id) (f : Order → Order) (hf : ∀ o, (f o).id = o.id)
    (same : ∀ o, (f o).birth = o.birth) :
    Follows KeepsBirths
      (Tx.write fun db => { db with orders := db.orders.modify k f hf } : Sql Unit) :=
  follows_write fun _ => Table.view_modify_same Order.birth hf fun o _ => same o

theorem settlePaymentAfterRefund_births (payment : Payment) (order : Option Order)
    (actor : String) : Follows KeepsBirths (settlePaymentAfterRefund payment order actor now) := by
  refine follows_bind (follows_births (settleTarget_keepsStatus _)) fun target => ?_
  refine follows_bind (KeepsBirths.narrow.transitionPayment _ _) fun _ => ?_
  split
  · exact follows_pure ()
  · refine follows_bind (modifyOrder_births _ _ _ fun _ => rfl) fun _ => ?_
    split
    · exact follows_bind (KeepsBirths.narrow.transitionOrder _ _ _) fun _ => follows_pure ()
    · exact follows_pure ()

theorem applyRefundOutcome_births (refundId : Id) (target : RefundStatus) (actor : String) :
    Follows KeepsBirths (applyRefundOutcome refundId target actor now) := by
  refine follows_bind (follows_read _) fun located => ?_
  split
  · exact follows_pure none
  · refine follows_bind (follows_read _) fun payment => ?_
    split
    · exact follows_pure none
    · refine follows_bind (follows_read _) fun order => ?_
      refine follows_bind (follows_read _) fun _ => follows_bind (follows_require _ _) fun refund => ?_
      split
      · exact follows_pure _
      · refine follows_bind (follows_births (transitionRefund_keepsStatus _ _)) fun moved => ?_
        dsimp only
        split
        · exact follows_bind (settlePaymentAfterRefund_births _ _ _) fun _ => follows_pure _
        · exact follows_pure _

theorem recordRefund_births (refundId : Id) (answer : BackgroundWorkerService.RefundAnswer) :
    Follows KeepsBirths (BackgroundWorkerService.recordRefund refundId answer now) := by
  refine follows_bind (applyRefundOutcome_births _ _ _) fun current => ?_
  split
  · exact follows_pure ()
  · split
    · exact follows_births (modifyRefund_keepsStatus _ _ _)
    · split
      · exact follows_births (modifyRefund_keepsStatus _ _ _)
      · exact follows_pure ()

theorem insertPayment_births (payment : Payment) :
    Follows KeepsBirths (PaymentRepository.insert payment) := by
  intro db u db' h
  rw [KeepsBirths, (insertPayment_rest h).2]

theorem openIntent_births (r : PaymentApplicationService.CreateRequest) (order : Order)
    (provider merchantNo : String) (k : Id) :
    Follows KeepsBirths
      (PaymentApplicationService.openIntent env r order provider k merchantNo now) := by
  have projected := updatePaymentStatus_keepsStatus order.id .pending
  unfold PaymentApplicationService.openIntent
  split
  · refine follows_bind (insertPayment_births _) fun _ => ?_
    split
    · exact follows_bind (KeepsBirths.narrow.transitionOrder _ _ _) fun _ =>
        follows_bind (follows_births projected) fun _ => follows_pure _
    · exact follows_bind (follows_births projected) fun _ => follows_pure _
  · exact follows_raise _

theorem authenticateOrder_births (orderId : Id) (token : Option String) :
    Follows KeepsBirths (PaymentApplicationService.authenticateOrder env orderId token) := by
  intro db order db' h
  obtain ⟨rfl, -⟩ := PaymentApplicationService.authenticateOrder_effect h
  exact Std.Refl.refl _

theorem createPayment_births (r : PaymentApplicationService.CreateRequest) (k : Id)
    (merchantNo : String) :
    Follows KeepsBirths (PaymentApplicationService.create env r k merchantNo now) := by
  refine follows_bind (follows_ensure _ _) fun _ => follows_bind (follows_ensure _ _) fun _ => ?_
  refine follows_bind (authenticateOrder_births _ _) fun order => follows_bind ?_ fun provider => ?_
  · unfold PaymentApplicationService.channelFor
    split
    · exact follows_pure _
    · exact follows_bind (follows_read _) fun _ => follows_bind (follows_require _ _) fun _ =>
        follows_bind (follows_ensure _ _) fun _ => follows_pure _
  · refine follows_bind (follows_ensure _ _) fun _ => follows_bind (follows_read _) fun found => ?_
    split
    · refine follows_bind (follows_ensure _ _) fun _ => ?_
      split
      · exact follows_pure _
      · exact follows_pure _
    · refine follows_bind (follows_ensure _ _) fun _ => follows_bind (follows_ensure _ _) fun _ => ?_
      refine follows_bind (follows_read _) fun opened => ?_
      split
      · exact follows_bind (follows_ensure _ _) fun _ => follows_pure _
      · exact follows_bind (openIntent_births _ _ _ _ _) fun _ => follows_pure _

theorem cancel_births (orderId : Id) (token : Option String) :
    Follows KeepsBirths (PublicOrderService.cancel env orderId token fresh now) := by
  refine follows_bind (authenticateOrder_births _ _) fun order => ?_
  split
  · exact follows_pure _
  · refine follows_bind (follows_ensure _ _) fun _ => follows_bind (follows_read _) fun intents => ?_
    refine follows_bind (follows_births (refundCancelled_keepsStatus _)) fun _ => ?_
    exact follows_bind (KeepsBirths.narrow.transitionOrder _ _ _) fun _ =>
      follows_bind (follows_births (cancelJob_keepsStatus _)) fun _ => follows_pure _

theorem paidOnLiveOrder_births (order : Order) (payment : Payment) (e : Id) :
    Follows KeepsBirths (paidOnLiveOrder env order payment fresh e now) := by
  refine follows_bind (follows_births (claimPrimary_keepsStatus _ _)) fun primary => ?_
  split
  · exact follows_births (ensureExtraRefund_keepsStatus _ _ _)
  · split
    · exact follows_bind (modifyOrder_births _ _ _ fun _ => rfl) fun _ =>
        follows_bind (follows_births (enqueueOutbox_keepsStatus _ _ _)) fun _ => follows_pure _
    · exact follows_pure _

theorem applyPaidLocked_births (provider eventId : String) (values : Values) (order : Order)
    (payment : Payment) (e : Id) :
    Follows KeepsBirths (applyPaidLocked env provider eventId values order payment fresh e now) := by
  refine follows_bind (follows_births (recordTradeNo_keepsStatus _ _)) fun traded => ?_
  refine follows_bind (follows_births (recordPaid_keepsStatus _)) fun recorded => ?_
  refine follows_bind (follows_births (insertInbox_keepsStatus _)) fun _ => ?_
  split
  · exact follows_pure _
  · split
    · exact follows_bind (follows_births (paidOnDeadOrder_keepsStatus _ _)) fun _ => follows_pure _
    · exact follows_bind (paidOnLiveOrder_births _ _ _) fun _ => follows_pure _

theorem applyPaidCallback_births (provider eventId : String) (values : Values) (e : Id) :
    Follows KeepsBirths (applyPaidCallback env provider eventId values fresh e now) := by
  refine follows_bind (follows_read _) fun t => ?_
  split
  · exact follows_bind (follows_births (inboxConflict_keepsStatus _ _)) fun _ =>
      follows_bind (follows_read _) fun _ => follows_bind (follows_require _ _) fun _ => follows_pure _
  · refine follows_bind (follows_read _) fun _ => follows_bind (follows_require _ _) fun payment => ?_
    split
    · exact follows_raise _
    · exact follows_raise _
    · refine follows_bind (follows_ensure _ _) fun _ => follows_bind (follows_read _) fun _ => ?_
      refine follows_bind (follows_require _ _) fun order => follows_bind (follows_read _) fun _ => ?_
      refine follows_bind (follows_require _ _) fun payment => follows_bind (follows_read _) fun _ => ?_
      split
      · exact follows_bind (follows_births (inboxConflict_keepsStatus _ _)) fun _ => follows_pure _
      · exact applyPaidLocked_births _ _ _ _ _ _

theorem created_births (payment : Payment) (answer : PaymentApplicationService.ChannelAnswer)
    (e : Id) :
    Follows KeepsBirths (PaymentApplicationService.created env payment answer fresh e now) := by
  unfold PaymentApplicationService.created
  split
  · exact follows_bind (applyPaidCallback_births _ _ _ _) fun _ => follows_pure _
  · refine follows_bind (follows_read _) fun _ => follows_bind (follows_require _ _) fun _ => ?_
    refine follows_bind (follows_births (saveProviderResult_keepsStatus _ _)) fun current => ?_
    split
    · exact follows_bind (KeepsBirths.narrow.transitionPayment _ _) fun _ =>
        follows_bind (follows_births (scheduleReconciliation_keepsStatus _ _)) fun _ =>
          follows_pure _
    · exact follows_pure _

theorem recordClosed_births (c : Closed) : Follows KeepsBirths (recordClosed env c now) := by
  refine follows_bind (follows_read _) fun current => ?_
  split
  · exact follows_pure ()
  · split
    · exact follows_bind (KeepsBirths.narrow.transitionPayment _ _) fun _ => follows_pure ()
    · split
      · exact follows_bind (applyPaidCallback_births _ _ _ _) fun _ => follows_pure ()
      · exact follows_births (scheduleReconciliation_keepsStatus _ _)

theorem closeIntents_births (orderId : Id) (closed : List Closed) :
    Follows KeepsBirths (closeIntents env orderId closed now) := by
  refine follows_bind (follows_read _) fun found => ?_
  split
  · exact follows_pure ()
  · refine follows_bind (follows_forEach fun c _ => recordClosed_births c) fun _ => ?_
    refine follows_bind (follows_read _) fun _ => follows_bind (follows_require _ _) fun order => ?_
    exact follows_bind (follows_read _) fun _ => follows_onlyIf fun _ =>
      follows_births (updatePaymentStatus_keepsStatus _ _)

theorem reconcilePayment_births (payment : Payment)
    (answer : PaymentApplicationService.ChannelAnswer) (e : Id) :
    Follows KeepsBirths
      (BackgroundWorkerService.reconcilePayment env payment answer fresh e now) := by
  unfold BackgroundWorkerService.reconcilePayment
  split
  · exact follows_bind (applyPaidCallback_births _ _ _ _) fun _ => follows_pure ()
  · split
    · exact follows_pure ()
    · refine follows_bind (follows_read _) fun order => ?_
      split
      · exact follows_pure ()
      · refine follows_bind (follows_read _) fun current => ?_
        split
        · exact follows_pure ()
        · exact follows_bind (KeepsBirths.narrow.transitionPayment _ _) fun _ =>
            modifyOrder_births _ _ _ fun _ => rfl

end Payments

section Production

theorem applyEvent_births (terminalId : Id) (event : TaskEvent) (input : EventInput) (order : Order)
    (job : Job) (command : Command) :
    Follows KeepsBirths (applyEvent env terminalId event input order job command fresh now) := by
  have narrow := KeepsBirths.narrow
  refine follows_bind (follows_lift _) fun _ => follows_bind (follows_lift _) fun steps => ?_
  refine follows_bind (narrow.transitionCommand _ _ _ _) fun moved => ?_
  refine follows_bind (follows_births (modifyJob_keepsStatus _ _ _)) fun _ => ?_
  refine follows_bind (follows_births (markHold_keepsStatus _ _)) fun _ => ?_
  refine follows_bind (narrow.transitionOrder _ _ _) fun order => ?_
  refine follows_bind (follows_onlyIf fun _ => narrow.createAutomaticRefundRecord _ _ _) fun _ => ?_
  exact follows_bind (follows_onlyIf fun _ => narrow.requestDispatch _) fun _ => follows_pure _

theorem reconcileDeviceEvent_births (terminalId : Id) (body : Json) (eventType : String) :
    Follows KeepsBirths (reconcileDeviceEvent env terminalId body eventType fresh now) := by
  intro db reply db' h
  rcases reconcileDeviceEvent_cases h with
    ⟨-, same⟩ | ⟨kind, input, order, job, command, -, -, -, applied⟩ |
      ⟨event, input, command, r, -, -, -, moved⟩
  · rw [same]
    exact Std.Refl.refl db
  · cases kind with
    | step => exact (applyStep_keepsStatus _ _ _ _ _ _ applied).births
    | task event => exact applyEvent_births _ _ _ _ _ _ _ _ _ applied
  · exact KeepsBirths.narrow.transitionCommand _ _ _ _ _ _ _ moved

theorem reconcileOrderAck_births (terminalId : Id) (taskId : String) (body : Json) :
    Follows KeepsBirths (reconcileOrderAck env terminalId taskId body fresh now) :=
  follows_bind (follows_require _ _) fun _ => follows_bind (follows_require _ _) fun _ =>
    follows_bind (follows_read _) fun _ => follows_bind (follows_require _ _) fun _ =>
      reconcileDeviceEvent_births _ _ _

theorem reconcileStored_births (p : String → Bool) (fresh : Nat → FreshRefund) :
    Follows KeepsBirths (reconcileStored env p fresh now) :=
  follows_bind (follows_read _) fun _ => follows_forEach fun _ _ =>
    follows_bind (reconcileDeviceEvent_births _ _ _) fun _ => follows_pure ()

theorem event_births (terminalId : Id) (e : DeviceMessageService.DeviceEvent) :
    Follows KeepsBirths (DeviceMessageService.event env terminalId e fresh now) := by
  intro db answer db' h
  rcases DeviceMessageService.event_cases h with rfl | ⟨-, -, t, reply, mid, before, ran, after⟩
  · exact Std.Refl.refl _
  · have reconciled : KeepsBirths t mid := reconcileDeviceEvent_births _ _ _ _ _ _ ran
    have first : KeepsBirths db t := before.view_orders Order.birth fun _ => rfl
    have last : KeepsBirths mid db' := after.view_orders Order.birth fun _ => rfl
    exact (last.trans reconciled).trans first

theorem insertCommand_births (r : CommandService.CreateRequest) (key : Option String)
    (actor : String) (new : FreshCommand) :
    Follows KeepsBirths (CommandService.insertCommand r key actor new now) := by
  refine follows_bind ?_ fun _ => follows_bind (follows_write fun _ => rfl) fun _ =>
    follows_births (insertOutbox_keepsStatus _ _ _)
  exact follows_bind (follows_read _) fun _ => follows_bind (follows_ensure _ _) fun _ =>
    follows_bind (follows_ensure _ _) fun _ => follows_bind (follows_ensure _ _) fun _ =>
      follows_write fun _ => rfl

theorem createAdmin_births (r : CommandService.CreateRequest) (key : String) (new : FreshCommand)
    (clock : Time) : Follows KeepsBirths (CommandService.createAdmin r key new clock now) := by
  refine follows_bind (follows_ensure _ _) fun _ => follows_bind (follows_ensure _ _) fun _ => ?_
  refine follows_bind (follows_read _) fun _ => follows_bind (follows_require _ _) fun terminal => ?_
  refine follows_bind (follows_read _) fun existing => ?_
  split
  · exact follows_bind (follows_ensure _ _) fun _ => follows_pure _
  · exact follows_bind (insertCommand_births _ _ _ _) fun _ => follows_pure _

theorem published_births (x : Id) (gatewayId : String) :
    Follows KeepsBirths (CommandService.published x gatewayId now) := by
  refine follows_bind (follows_read _) fun _ => follows_bind (follows_require _ _) fun located => ?_
  refine follows_bind (follows_read _) fun command => follows_bind (follows_read _) fun _ => ?_
  refine follows_bind (follows_require _ _) fun outbox => ?_
  split
  · exact follows_pure _
  · split
    · split
      · exact follows_pure _
      · exact follows_bind (follows_write fun _ => rfl) fun _ => follows_pure _
    · refine follows_bind (follows_ensure _ _) fun _ => ?_
      refine follows_bind (follows_births (modifyOutbox_keepsStatus _ _ _)) fun _ => ?_
      refine follows_bind (follows_bind (follows_read _) fun command => ?_) fun _ => follows_pure _
      split
      · exact follows_pure ()
      · refine follows_bind (follows_onlyIf fun _ => ?_) fun _ => follows_write fun _ => rfl
        exact follows_bind (KeepsBirths.narrow.transitionCommand _ _ _ _) fun _ => follows_pure ()

theorem commandResult_births (terminalId : Id) (messageId status : String) :
    Follows KeepsBirths (DeviceMessageService.commandResult terminalId messageId status now) :=
  follows_bind (follows_read _) fun _ => follows_bind (follows_require _ _) fun _ =>
    follows_bind (follows_ensure _ _) fun _ =>
      follows_bind (KeepsBirths.narrow.transitionCommand _ _ _ _) fun _ => follows_pure _

theorem expireCoordinated_births (order : Order) (job : Job) (delivered : Bool) :
    Follows KeepsBirths (expireCoordinated env order job delivered fresh now) := by
  unfold expireCoordinated
  split
  · exact follows_bind (follows_births (modifyJob_keepsStatus _ _ _)) fun _ =>
      follows_bind (KeepsBirths.narrow.transitionOrder _ _ _) fun _ => follows_pure ()
  · exact follows_bind (follows_births (modifyJob_keepsStatus _ _ _)) fun _ =>
      follows_bind (KeepsBirths.narrow.transitionOrder _ _ _) fun _ =>
        follows_births (refundExpired_keepsStatus _)

theorem expireOrderForCommand_births (c : Id) (clock : Time) :
    Follows KeepsBirths (expireOrderForCommand env c clock fresh now) := by
  refine follows_bind ?_ fun rows => follows_bind (follows_read _) fun command => ?_
  · refine follows_bind (follows_read _) fun located => ?_
    split
    · exact follows_pure none
    · exact follows_bind (follows_read _) fun _ => follows_bind (follows_read _) fun _ =>
        follows_pure _
  · split
    · exact follows_pure none
    · refine follows_bind (follows_read _) fun outbox => ?_
      refine follows_bind (follows_births (terminalizeUnclaimed_keepsStatus _)) fun _ => ?_
      dsimp only
      split
      · exact follows_bind (KeepsBirths.narrow.transitionCommand _ _ _ _) fun _ => follows_pure _
      · exact follows_bind (expireCoordinated_births _ _ _) fun _ =>
          follows_bind (KeepsBirths.narrow.transitionCommand _ _ _ _) fun _ => follows_pure _

theorem pollCandidate_births (candidate : Command) (clock clock' : Time) :
    Follows KeepsBirths
      (DeviceMessageService.pollCandidate env candidate clock clock' fresh now) := by
  unfold DeviceMessageService.pollCandidate
  split
  · exact follows_bind (expireOrderForCommand_births _ _) fun _ => follows_pure _
  · refine follows_bind (follows_read _) fun row => ?_
    split
    · exact follows_pure _
    · unfold DeviceMessageService.deliver
      dsimp only
      split
      · exact follows_bind (KeepsBirths.narrow.transitionCommand _ _ _ _) fun _ =>
          follows_bind (follows_pure _) fun _ => follows_pure _
      · exact follows_bind (follows_pure _) fun _ => follows_pure _

theorem holdOverdue_births (order : Order) (jobId : Id) (command : Command) (due : Bool) :
    Follows KeepsBirths (Tx.onlyIf (due = true) (do
      let _ ← transitionCommand command .unknown "watchdog" true now
      OrderRepository.updateJobHold jobId "DEVICE_OUTCOME_UNKNOWN" now
      let _ ← transitionOrder order .hold "watchdog" now)) :=
  follows_onlyIf fun _ =>
    follows_bind (KeepsBirths.narrow.transitionCommand _ _ _ _) fun _ =>
      follows_bind (follows_births (modifyJob_keepsStatus _ _ _)) fun _ =>
        follows_bind (KeepsBirths.narrow.transitionOrder _ _ _) fun _ => follows_pure ()

theorem holdOverdueJob_births (orderId jobId : Id) (clock : Time) :
    Follows KeepsBirths (holdOverdueJob env orderId jobId clock now) := by
  refine follows_bind (follows_read _) fun order => follows_bind (follows_read _) fun job => ?_
  split
  · split
    · dsimp only
      split
      · refine follows_bind (follows_pure _) fun command => ?_
        split
        · exact follows_pure ()
        · exact follows_bind (follows_lift _) fun due => holdOverdue_births _ _ _ due
      · refine follows_bind (follows_read _) fun command => ?_
        split
        · exact follows_pure ()
        · exact follows_bind (follows_lift _) fun due => holdOverdue_births _ _ _ due
    · exact follows_pure ()
  · exact follows_pure ()

theorem heldCommand_births (order : Order) (job : Job) (taskId : String) :
    Follows KeepsBirths (OrderAdjudicationService.heldCommand order job taskId) := by
  unfold OrderAdjudicationService.heldCommand
  dsimp only
  split
  · exact follows_bind (follows_pure _) fun _ => follows_require _ _
  · exact follows_bind (follows_read _) fun _ => follows_require _ _

theorem adjudicate_births (r : OrderAdjudicationService.Request) :
    Follows KeepsBirths (OrderAdjudicationService.adjudicate env r fresh now) := by
  have narrow := KeepsBirths.narrow
  refine follows_bind (follows_ensure _ _) fun _ => follows_bind (follows_read _) fun _ => ?_
  refine follows_bind (follows_require _ _) fun order => follows_bind (follows_read _) fun found => ?_
  split
  · exact follows_bind (follows_ensure _ _) fun _ => follows_pure _
  · refine follows_bind (follows_read _) fun _ => follows_bind (follows_require _ _) fun job => ?_
    refine follows_bind (follows_ensure _ _) fun _ => follows_bind (follows_ensure _ _) fun _ => ?_
    refine follows_bind (heldCommand_births _ _ _) fun command => ?_
    refine follows_bind (follows_ensure _ _) fun _ => ?_
    refine follows_bind (narrow.transitionCommand _ _ _ _) fun _ => ?_
    refine follows_bind (follows_births (modifyJob_keepsStatus _ _ _)) fun _ => ?_
    refine follows_bind (follows_births (modifyJob_keepsStatus _ _ _)) fun _ => ?_
    refine follows_bind (narrow.transitionOrder _ _ _) fun order => ?_
    refine follows_bind (follows_onlyIf fun _ => narrow.createAutomaticRefundRecord _ _ _) fun _ => ?_
    refine follows_bind (follows_read _) fun terminal => ?_
    exact follows_bind (narrow.requestDispatch _) fun _ =>
      follows_bind (follows_births (insertAdjudication_keepsStatus _)) fun _ => follows_pure _

theorem expireUnpaid_births (picks : List Id) :
    Follows KeepsBirths (BackgroundWorkerService.expireUnpaid env picks now) := by
  refine follows_forEach fun pick _ => follows_bind (follows_read _) fun order => ?_
  split
  · exact follows_pure ()
  · exact follows_bind (KeepsBirths.narrow.transitionOrder _ _ _) fun _ => follows_pure ()

theorem processPaidEvent_births (event : BusinessEvent) (new : BackgroundWorkerService.FreshJob) :
    Follows KeepsBirths (BackgroundWorkerService.processPaidEvent event new now) := by
  refine follows_bind (follows_read _) fun order => ?_
  split
  · exact follows_pure ()
  · split
    · exact follows_pure ()
    · split
      · exact follows_pure ()
      · refine follows_bind (follows_births (ensureJob_keepsStatus _ _)) fun _ => ?_
        refine follows_bind (follows_onlyIf fun _ => ?_) fun _ => KeepsBirths.narrow.requestDispatch _
        exact follows_bind (KeepsBirths.narrow.transitionOrder _ _ _) fun _ => follows_pure ()

theorem outboxBatch_births (picks : List Id) (disturbed : Id → Bool)
    (new : Id → BackgroundWorkerService.FreshJob) :
    Follows KeepsBirths
      (BackgroundWorkerService.processBusinessOutboxBatch picks disturbed new now) := by
  refine follows_bind (follows_births (claimBusinessEvents_keepsStatus picks)) fun events => ?_
  refine follows_forEach fun event _ => follows_bind (follows_savepoint ?_) fun handled => ?_
  · exact follows_bind (processPaidEvent_births _ _) fun _ =>
      follows_bind (follows_ensure _ _) fun _ => follows_births (markEvent_keepsStatus _)
  · split
    · exact follows_pure ()
    · exact follows_births (markEvent_keepsStatus _)

theorem dispatchJob_births (job : Job) (terminalId : Id) (new : FreshCommand) :
    Follows KeepsBirths (dispatchJob job terminalId new now) := by
  refine follows_bind ?_ fun _ => follows_bind (follows_write fun _ => rfl) fun _ => ?_
  · exact follows_bind (follows_read _) fun _ => follows_bind (follows_ensure _ _) fun _ =>
      follows_bind (follows_ensure _ _) fun _ => follows_bind (follows_ensure _ _) fun _ =>
        follows_write fun _ => rfl
  · refine follows_bind (follows_births (insertOutbox_keepsStatus _ _ _)) fun _ => ?_
    refine follows_bind (follows_births (linkCommand_keepsStatus _ _)) fun _ => ?_
    refine follows_bind (follows_read _) fun order => ?_
    split
    · exact follows_pure ()
    · exact follows_bind (KeepsBirths.narrow.transitionOrder _ _ _) fun _ => follows_pure ()

theorem dispatchNextOrderResult_births (terminalId : Id) (new : FreshCommand) :
    Follows KeepsBirths (dispatchNextOrderResult env terminalId new now) := by
  refine follows_bind (follows_read _) fun terminal => ?_
  split
  · exact follows_pure _
  · split
    · exact follows_pure _
    · split
      · exact follows_pure _
      · refine follows_bind (follows_read _) fun active => ?_
        split
        · exact follows_pure _
        · refine follows_bind (follows_read _) fun blocked => ?_
          split
          · exact follows_pure _
          · split
            · exact follows_pure _
            · refine follows_bind (follows_read _) fun job => ?_
              split
              · exact follows_pure _
              · refine follows_bind (follows_read _) fun _ => follows_bind (follows_read _) fun _ => ?_
                split
                · exact follows_bind (dispatchJob_births _ _ _) fun _ => follows_pure _
                · exact follows_pure _

theorem processDispatch_births (request : DispatchRequest) (new : FreshCommand) :
    Follows KeepsBirths (BackgroundWorkerService.processDispatch env request new now) := by
  refine follows_bind (dispatchNextOrderResult_births _ _) fun outcome => ?_
  refine follows_bind (follows_read _) fun next => ?_
  split
  · exact follows_bind (follows_write fun _ => rfl) fun _ => follows_pure _
  · exact follows_bind (follows_write fun _ => rfl) fun _ => follows_pure _

end Production
end CoffeeCloud
