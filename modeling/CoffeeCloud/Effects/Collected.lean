import CoffeeCloud.Effects.Chronicles
import CoffeeCloud.Effects.BackgroundWorker

/-!
What recording a channel's word about an intent does to the status of its order.
First money on an order that waits for it, and the end of its intent, are written
over the status; everything else leaves it, and nothing touches a command.
-/
namespace CoffeeCloud
open Library Tx PublicOrderService ProductionService

variable {db db' : Db} {env : Env} {fresh : FreshRefund} {now : Time} {u : Unit}

section Callbacks
variable {payment : Payment} {order : Order} {e : Id}

/-- A trade number fits a payment that has none or the same, where no other payment has it. -/
def Db.FitsTradeNo (db : Db) (payment : Payment) (incoming : String) : Prop :=
  stripped (payment.providerTradeNo.getD "") ∈ ["", stripped incoming] ∧
    db.payments.first? (fun p => p.provider = payment.provider ∧
      p.providerTradeNo = some incoming ∧ p.id ≠ payment.id) = none

/-- The order still waits for its money, and the payment brings it. -/
def Order.Awaits (order : Order) (payment : Payment) : Prop :=
  order.status ∈ [.created, .awaitingPayment] ∧ (∀ p ∈ order.paidPaymentId, p = payment.id) ∧
    order.paymentStatus ≠ .paid

/-- A paid fact that is new, about a payment it fits, and the first money of an order that waits
for it. -/
def Db.MarksPaid (db : Db) (provider eventId : String) (values : Values) : Prop :=
  db.callbackInbox.find? (provider, eventId) = none ∧
    ∃ payment, db.payments.first? (fun p => p.provider = provider ∧
        p.merchantPaymentNo = (values.either "out_trade_no" "merchant_payment_no").getD "") =
          some payment ∧
      callbackAmountMinor values = .ok (some payment.amountMinor) ∧
      (∀ incoming ∈ values.either "trade_no" "provider_trade_no", db.FitsTradeNo payment incoming) ∧
      payment.status ∉ paidCallbackStatuses ∧
      ∃ order, db.orders.find? payment.orderId = some order ∧ order.Awaits payment

/-- Only first money on a waiting order is written over its status. -/
theorem paidOnLiveOrder_keepsStatus {r : Payment} (current : Current db order)
    (quiet : ¬ order.Awaits payment)
    (h : Ran (paidOnLiveOrder env order payment fresh e now) db r db') : KeepsStatus db db' := by
  simp only [paidOnLiveOrder, ran_bind] at h
  obtain ⟨primary, t, claim, h⟩ := h
  have kept := claimPrimary_keepsStatus _ _ _ _ _ claim
  have own : primary = order.paidPaymentId.getD payment.id := by
    cases claimed : order.paidPaymentId with
    | none =>
        simp only [claimPrimary, claimed, ran_write_bind, ran_pure] at claim
        exact claim.1.symm
    | some q =>
        simp only [claimPrimary, claimed, ran_pure] at claim
        exact claim.1.symm
  refine kept.trans ?_
  rw [ran_ite, ran_ite] at h
  rcases h with ⟨-, h⟩ | ⟨mine, ⟨unpaid, h⟩ | ⟨-, h⟩⟩
  · exact ensureExtraRefund_keepsStatus _ _ _ _ _ _ h
  · rw [ran_write_bind, ran_bind] at h
    obtain ⟨_, t', enqueued, h⟩ := h
    simp only [ran_pure] at h
    refine .trans ?_ (h.2 ▸ enqueueOutbox_keepsStatus _ _ _ _ _ _ enqueued)
    refine keepsStatus_modifyOrder _ fun o found => ?_
    obtain ⟨row, found', status⟩ := current.keep kept
    cases found.symm.trans found'
    have moved : o.status ∉ [.created, .awaitingPayment] := by
      rw [status]
      intro waits
      refine quiet ⟨waits, fun p claimed => ?_, unpaid⟩
      have claimed : order.paidPaymentId = some p := claimed
      rw [claimed] at own
      exact own.symm.trans (not_not.mp mine)
    simp only [Order.course, if_neg moved]
  · simp only [ran_pure] at h
    exact h.2 ▸ .refl _

theorem recordTradeNo_fits {tradeNo : Option String} {r : Payment}
    (h : Ran (recordTradeNo payment tradeNo) db r db') :
    ∀ incoming ∈ tradeNo, db.FitsTradeNo payment incoming := by
  intro incoming mem
  cases mem
  simp only [recordTradeNo, PaymentRepository.tradeNoTaken, ran_read_bind, ran_ensure_bind] at h
  obtain ⟨same, free, -⟩ := h
  exact ⟨by simpa using same, by simpa using free⟩

variable {provider eventId : String} {values : Values} {r : Payment × Bool}

theorem applyPaidLocked_keepsStatus (current : Current db order)
    (found : db.payments.find? payment.id = some payment)
    (quiet : (∀ incoming ∈ values.either "trade_no" "provider_trade_no",
        db.FitsTradeNo payment incoming) →
      payment.status ∉ paidCallbackStatuses → ¬ order.Awaits payment)
    (h : Ran (applyPaidLocked env provider eventId values order payment fresh e now) db r db') :
    KeepsStatus db db' := by
  simp only [applyPaidLocked, ran_bind] at h
  obtain ⟨traded, t₁, trade, recorded, t₂, paid, _, t₃, inbox, h⟩ := h
  have kept := ((recordTradeNo_keepsStatus _ _ _ _ _ trade).trans
    (recordPaid_keepsStatus _ _ _ _ paid)).trans (insertInbox_keepsStatus _ _ _ _ inbox)
  refine kept.trans ?_
  rw [ran_ite, ran_ite] at h
  rcases h with ⟨-, h⟩ | ⟨fresh', ⟨-, h⟩ | ⟨-, h⟩⟩
  · simp only [ran_pure] at h
    exact h.2 ▸ .refl _
  · simp only [ran_bind, ran_pure] at h
    obtain ⟨_, t, dead, -, rfl⟩ := h
    exact paidOnDeadOrder_keepsStatus _ _ _ _ _ dead
  · simp only [ran_bind, ran_pure] at h
    obtain ⟨_, t, live, -, rfl⟩ := h
    obtain ⟨found₁, -, id, -, -, status, -⟩ := recordTradeNo_effect trade found
    rw [← id] at found₁
    rcases recordPaid_effect paid found₁ with ⟨-, rfl, -⟩ | ⟨new, -, id₂, -⟩
    · exact absurd rfl fresh'
    · refine paidOnLiveOrder_keepsStatus (current.keep kept) (fun awaits => ?_) live
      refine quiet (recordTradeNo_fits trade) (status ▸ new) ⟨awaits.1, fun p claimed => ?_, awaits.2.2⟩
      exact (awaits.2.1 p claimed).trans (id₂.trans id)

theorem applyPaidCallback_keepsStatus (quiet : ¬ db.MarksPaid provider eventId values)
    (h : Ran (applyPaidCallback env provider eventId values fresh e now) db r db') :
    KeepsStatus db db' := by
  simp only [applyPaidCallback, ran_read_bind, id_eq] at h
  split at h
  · simp only [inboxConflict, ran_ensure_bind, ran_require_bind, PaymentRepository.find,
      ran_read_bind, ran_pure] at h
    obtain ⟨-, payment, -, -, rfl⟩ := h
    exact .refl _
  · rename_i absent
    simp only [PaymentRepository.findByMerchantNo, ran_read_bind, ran_require_bind] at h
    obtain ⟨payment, located, h⟩ := h
    split at h
    · simp at h
    · simp at h
    · rename_i amount read
      simp only [ran_ensure_bind, OrderRepository.find, PaymentRepository.find, ran_read_bind,
        ran_require_bind, id_eq, absent] at h
      obtain ⟨right, order, ordered, payment', found, h⟩ := h
      cases (Table.find?_of_mem (Table.first?_some located).1).symm.trans found
      refine applyPaidLocked_keepsStatus (.of_find? ordered) found (fun fits new awaits => ?_) h
      exact quiet ⟨absent, payment, located, right ▸ read, fits, new, order, ordered, awaits⟩

section Answers
variable {answer : PaymentApplicationService.ChannelAnswer} {c : Closed} {cs : List Closed}

theorem queriedPaid_merchantNo (merchantNo : String) (amountMinor : Int) :
    ((PaymentApplicationService.queriedPaid merchantNo amountMinor answer).either "out_trade_no"
      "merchant_payment_no").getD "" = merchantNo := by
  by_cases empty : merchantNo = ""
  · simp [PaymentApplicationService.queriedPaid, Values.either, Values.get?, Option.filter_some, empty]
  · simp [PaymentApplicationService.queriedPaid, Values.either, Values.get?, Option.filter_some, empty]

theorem created_keepsStatus {paid : Payment}
    (quiet : answer.status = "PAID" → ¬ db.MarksPaid payment.provider
      s!"query-paid:{payment.merchantPaymentNo}"
      (PaymentApplicationService.queriedPaid payment.merchantPaymentNo payment.amountMinor answer))
    (h : Ran (PaymentApplicationService.created env payment answer fresh e now) db paid db') :
    KeepsStatus db db' := by
  simp only [PaymentApplicationService.created] at h
  rw [ran_ite] at h
  rcases h with ⟨said, h⟩ | ⟨-, h⟩
  · simp only [ran_bind, ran_pure] at h
    obtain ⟨x, t, callback, -, rfl⟩ := h
    exact applyPaidCallback_keepsStatus (quiet said) callback
  · simp only [PaymentRepository.find, ran_read_bind, ran_require_bind] at h
    obtain ⟨current, -, h⟩ := h
    rw [ran_bind] at h
    obtain ⟨saved, t, save, h⟩ := h
    refine (saveProviderResult_keepsStatus _ _ _ _ _ save).trans ?_
    rw [ran_ite] at h
    rcases h with ⟨-, h⟩ | ⟨-, h⟩
    · simp only [ran_bind, ran_pure] at h
      obtain ⟨x, t', transition, _, t'', schedule, -, rfl⟩ := h
      exact (transitionPayment_keepsStatus _ _ _ _ _ transition).trans
        (scheduleReconciliation_keepsStatus _ _ _ _ _ schedule)
    · simp only [ran_pure] at h
      exact h.2 ▸ .refl _

/-- The channel says an intent is paid whose order still waits for its money. -/
def Db.Settles (db : Db) (c : Closed) : Prop :=
  c.answer.status = "PAID" ∧ ∃ payment order, db.payments.find? payment.id = some payment ∧
    payment.provider = c.intent.provider ∧
    payment.merchantPaymentNo = c.intent.merchantPaymentNo ∧
    db.orders.find? payment.orderId = some order ∧ order.status ∈ [.created, .awaitingPayment]

theorem KeepsStatus.settles (h : KeepsStatus db db') (settles : db'.Settles c) : db.Settles c := by
  obtain ⟨said, payment, order, found, provider, merchantNo, ordered, waits⟩ := settles
  have address := Table.view_of_find? Payment.address found
  rw [h.addresses] at address
  obtain ⟨before, located, same⟩ := (Table.view_eq_some _).mp address
  simp only [Payment.address, Prod.mk.injEq] at same
  have status := Table.view_of_find? (·.status) ordered
  rw [h.view_orders _ fun _ => rfl] at status
  obtain ⟨row, ordered', kept⟩ := (Table.view_eq_some _).mp status
  refine ⟨said, before, row, ?_, same.2.2.1.trans provider, same.2.2.2.trans merchantNo, ?_, ?_⟩
  · rw [same.1]
    exact located
  · rw [same.2.1]
    exact ordered'
  · exact kept ▸ waits

theorem recordClosed_keepsStatus (quiet : ¬ db.Settles c)
    (h : Ran (recordClosed env c now) db u db') : KeepsStatus db db' := by
  simp only [recordClosed, PaymentRepository.find, ran_read_bind] at h
  split at h
  · simp only [ran_pure] at h
    exact h.2 ▸ .refl _
  · rw [ran_ite, ran_ite] at h
    rcases h with ⟨-, h⟩ | ⟨-, ⟨said, h⟩ | ⟨-, h⟩⟩
    · simp only [ran_bind, ran_pure] at h
      obtain ⟨x, t, transition, -, rfl⟩ := h
      exact transitionPayment_keepsStatus _ _ _ _ _ transition
    · simp only [ran_bind, ran_pure] at h
      obtain ⟨x, t, callback, -, rfl⟩ := h
      refine applyPaidCallback_keepsStatus (fun marks => quiet ⟨said, ?_⟩) callback
      obtain ⟨-, payment, located, -, -, -, order, ordered, awaits⟩ := marks
      obtain ⟨mem, named⟩ := Table.first?_some located
      rw [queriedPaid_merchantNo] at named
      have named : payment.provider = c.intent.provider ∧
        payment.merchantPaymentNo = c.intent.merchantPaymentNo := by simpa using named
      exact ⟨payment, order, Table.find?_of_mem mem, named.1, named.2, ordered, awaits.1⟩
    · exact scheduleReconciliation_keepsStatus _ _ _ _ _ h

theorem recordAll_keepsStatus (quiet : ∀ c ∈ cs, ¬ db.Settles c)
    (h : Ran (Tx.forEach cs fun c => recordClosed env c now) db u db') : KeepsStatus db db' := by
  induction cs generalizing db with
  | nil =>
      simp only [ran_forEach_nil] at h
      exact h ▸ .refl _
  | cons c cs ih =>
      simp only [ran_forEach_cons] at h
      obtain ⟨t, one, rest⟩ := h
      have first := recordClosed_keepsStatus (quiet c List.mem_cons_self) one
      refine first.trans (ih (fun c hc settles => ?_) rest)
      exact quiet c (List.mem_cons_of_mem _ hc) (first.settles settles)

theorem closeIntents_keepsStatus {orderId : Id} (quiet : ∀ c ∈ cs, ¬ db.Settles c)
    (h : Ran (closeIntents env orderId cs now) db u db') : KeepsStatus db db' := by
  simp only [closeIntents, OrderRepository.find, ran_read_bind] at h
  split at h
  · simp only [ran_pure] at h
    exact h.2 ▸ .refl _
  · rw [ran_bind] at h
    obtain ⟨_, t, loop, h⟩ := h
    refine (recordAll_keepsStatus quiet loop).trans ?_
    simp only [ran_read_bind, ran_require_bind, PaymentRepository.openIntentsForOrder] at h
    obtain ⟨order, -, h⟩ := h
    rw [ran_onlyIf] at h
    rcases h with ⟨-, h⟩ | ⟨-, rfl⟩
    · exact updatePaymentStatus_keepsStatus _ _ _ _ _ h
    · exact .refl _

/-- The channel says an open intent will not be paid, and its order still waits for its money. -/
def Db.ClosesOut (db : Db) (payment : Payment) (status : String) : Prop :=
  (BackgroundWorkerService.closingTarget? status).isSome ∧
    ∃ current order, db.payments.find? payment.id = some current ∧
      current.status ∈ openPaymentStatuses ∧ db.orders.find? current.orderId = some order ∧
      order.status ∈ [.created, .awaitingPayment]

theorem reconcilePayment_keepsStatus
    (quiet : answer.status = "PAID" → ¬ db.MarksPaid payment.provider
      s!"reconcile-paid:{payment.merchantPaymentNo}"
      (PaymentApplicationService.queriedPaid payment.merchantPaymentNo payment.amountMinor answer))
    (closing : ¬ db.ClosesOut payment answer.status)
    (h : Ran (BackgroundWorkerService.reconcilePayment env payment answer fresh e now) db u db') :
    KeepsStatus db db' := by
  simp only [BackgroundWorkerService.reconcilePayment] at h
  rw [ran_ite] at h
  rcases h with ⟨said, h⟩ | ⟨-, h⟩
  · simp only [ran_bind, ran_pure] at h
    obtain ⟨x, t, callback, -, rfl⟩ := h
    exact applyPaidCallback_keepsStatus (quiet said) callback
  · split at h
    · simp only [ran_pure] at h
      exact h.2 ▸ .refl _
    · rename_i target closes
      simp only [OrderRepository.find, PaymentRepository.find, ran_read_bind] at h
      split at h
      · simp only [ran_pure] at h
        exact h.2 ▸ .refl _
      · simp only [ran_read_bind] at h
        split at h
        · simp only [ran_pure] at h
          exact h.2 ▸ .refl _
        · rename_i current located
          obtain ⟨found, isOpen⟩ := Option.filter_eq_some_iff.mp located
          rw [ran_bind] at h
          obtain ⟨x, t, transition, h⟩ := h
          have kept := transitionPayment_keepsStatus _ _ _ _ _ transition
          refine kept.trans ?_
          simp only [OrderRepository.updatePaymentOutcome, ran_write] at h
          subst h
          refine keepsStatus_modifyOrder t fun order ordered => ?_
          have status := Table.view_of_find? (·.status) ordered
          rw [kept.view_orders _ fun _ => rfl] at status
          obtain ⟨row, ordered', same⟩ := (Table.view_eq_some _).mp status
          have moved : order.status ∉ [.created, .awaitingPayment] := fun waits =>
            closing ⟨closes ▸ rfl, current, row, found, by simpa using isOpen, ordered', same ▸ waits⟩
          simp only [Order.course, if_neg moved]

end Answers

/-! Whatever a payment does to its order, it leaves the commands alone. -/

/-- The commands and their log are as they were. -/
structure KeepsCommands (db db' : Db) : Prop where
  commands : db'.commands = db.commands
  commandTransitions : db'.commandTransitions = db.commandTransitions

namespace KeepsCommands

theorem refl (db : Db) : KeepsCommands db db := ⟨rfl, rfl⟩

theorem trans {db db' db'' : Db} (h : KeepsCommands db db') (k : KeepsCommands db' db'') :
    KeepsCommands db db'' :=
  ⟨k.commands.trans h.commands, k.commandTransitions.trans h.commandTransitions⟩

instance : IsPreorder Db KeepsCommands where
  refl := refl
  trans _ _ _ := trans

theorem logged (h : KeepsCommands db db') (logged : db.Logged) : db'.Logged :=
  logged_of_eq h.commands h.commandTransitions logged

theorem of_keepsStatus {α : Type} {m : Sql α} (h : Follows KeepsStatus m) :
    Follows KeepsCommands m := by
  intro db a db' ran
  have kept := h db a db' ran
  exact ⟨kept.commands, kept.commandTransitions⟩

end KeepsCommands

section Unmoved
open KeepsCommands

theorem paidOnLiveOrder_commands (order : Order) (payment : Payment) (e : Id) :
    Follows KeepsCommands (paidOnLiveOrder env order payment fresh e now) := by
  refine follows_bind (of_keepsStatus (claimPrimary_keepsStatus _ _)) fun primary => ?_
  split
  · exact of_keepsStatus (ensureExtraRefund_keepsStatus _ _ _)
  · split
    · exact follows_bind (follows_write fun _ => ⟨rfl, rfl⟩) fun _ =>
        follows_bind (of_keepsStatus (enqueueOutbox_keepsStatus _ _ _)) fun _ => follows_pure _
    · exact follows_pure _

theorem applyPaidLocked_commands (provider eventId : String) (values : Values) (order : Order)
    (payment : Payment) (e : Id) :
    Follows KeepsCommands
      (applyPaidLocked env provider eventId values order payment fresh e now) := by
  refine follows_bind (of_keepsStatus (recordTradeNo_keepsStatus _ _)) fun traded => ?_
  refine follows_bind (of_keepsStatus (recordPaid_keepsStatus _)) fun recorded => ?_
  refine follows_bind (of_keepsStatus (insertInbox_keepsStatus _)) fun _ => ?_
  split
  · exact follows_pure _
  · split
    · exact follows_bind (of_keepsStatus (paidOnDeadOrder_keepsStatus _ _)) fun _ => follows_pure _
    · exact follows_bind (paidOnLiveOrder_commands _ _ _) fun _ => follows_pure _

theorem applyPaidCallback_commands (provider eventId : String) (values : Values) (e : Id) :
    Follows KeepsCommands (applyPaidCallback env provider eventId values fresh e now) := by
  refine follows_bind (follows_read _) fun db => ?_
  split
  · exact follows_bind (follows_ensure _ _) fun _ => follows_bind (follows_read _) fun _ =>
      follows_bind (follows_require _ _) fun _ => follows_pure _
  · refine follows_bind (follows_read _) fun _ => follows_bind (follows_require _ _) fun payment => ?_
    split
    · exact follows_raise _
    · exact follows_raise _
    · refine follows_bind (follows_ensure _ _) fun _ => follows_bind (follows_read _) fun _ => ?_
      refine follows_bind (follows_require _ _) fun order => follows_bind (follows_read _) fun _ => ?_
      refine follows_bind (follows_require _ _) fun payment => follows_bind (follows_read _) fun db => ?_
      split
      · exact follows_bind (follows_ensure _ _) fun _ => follows_pure _
      · exact applyPaidLocked_commands _ _ _ _ _ _

theorem created_commands (payment : Payment) (answer : PaymentApplicationService.ChannelAnswer)
    (e : Id) :
    Follows KeepsCommands (PaymentApplicationService.created env payment answer fresh e now) := by
  unfold PaymentApplicationService.created
  split
  · exact follows_bind (applyPaidCallback_commands _ _ _ _) fun _ => follows_pure _
  · refine follows_bind (follows_read _) fun _ => follows_bind (follows_require _ _) fun _ => ?_
    refine follows_bind (of_keepsStatus (saveProviderResult_keepsStatus _ _)) fun current => ?_
    split
    · exact follows_bind (of_keepsStatus (transitionPayment_keepsStatus _ _)) fun _ =>
        follows_bind (of_keepsStatus (scheduleReconciliation_keepsStatus _ _)) fun _ =>
          follows_pure _
    · exact follows_pure _

theorem recordClosed_commands (c : Closed) : Follows KeepsCommands (recordClosed env c now) := by
  refine follows_bind (follows_read _) fun current => ?_
  split
  · exact follows_pure ()
  · split
    · exact follows_bind (of_keepsStatus (transitionPayment_keepsStatus _ _)) fun _ =>
        follows_pure ()
    · split
      · exact follows_bind (applyPaidCallback_commands _ _ _ _) fun _ => follows_pure ()
      · exact of_keepsStatus (scheduleReconciliation_keepsStatus _ _)

theorem closeIntents_commands (orderId : Id) (cs : List Closed) :
    Follows KeepsCommands (closeIntents env orderId cs now) := by
  refine follows_bind (follows_read _) fun order => ?_
  split
  · exact follows_pure ()
  · refine follows_bind (follows_forEach fun c _ => recordClosed_commands c) fun _ => ?_
    refine follows_bind (follows_read _) fun _ => follows_bind (follows_require _ _) fun _ => ?_
    exact follows_bind (follows_read _) fun _ => follows_onlyIf fun _ =>
      of_keepsStatus (updatePaymentStatus_keepsStatus _ _)

theorem reconcilePayment_commands (payment : Payment)
    (answer : PaymentApplicationService.ChannelAnswer) (e : Id) :
    Follows KeepsCommands
      (BackgroundWorkerService.reconcilePayment env payment answer fresh e now) := by
  unfold BackgroundWorkerService.reconcilePayment
  split
  · exact follows_bind (applyPaidCallback_commands _ _ _ _) fun _ => follows_pure ()
  · split
    · exact follows_pure ()
    · refine follows_bind (follows_read _) fun order => ?_
      split
      · exact follows_pure ()
      · refine follows_bind (follows_read _) fun current => ?_
        split
        · exact follows_pure ()
        · exact follows_bind (of_keepsStatus (transitionPayment_keepsStatus _ _)) fun _ =>
            follows_write fun _ => ⟨rfl, rfl⟩

end Unmoved

end Callbacks
end CoffeeCloud
