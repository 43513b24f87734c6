import CoffeeCloud.Effects.Metrics

/-!
An event that its rows accept is carried out to its end: no check is left that
could still refuse it, and a refund it owes finds its identifiers free.
-/
namespace CoffeeCloud
open Library Tx PublicOrderService

namespace ProductionService
variable {db db' : Db} {now : Time} {env : Env} {order : Order} {job : Job} {command : Command}
  {payment : Payment} {fresh : FreshRefund} {terminalId : Id} {input : EventInput}
  {event : TaskEvent} {u : Unit}

section Money

theorem transitionPayment_completes (found : db.payments.find? payment.id = some payment)
    (refundable : payment.status ∈ refundablePaymentStatuses) :
    Completes (transitionPayment payment .refunding now) db := by
  have allowed : (decidePaymentTransition payment.status .refunding).allowed = true := by
    revert refundable
    cases payment.status <;> decide
  simp only [transitionPayment]
  split
  · exact completes_pure _ _
  · refine completes_bind ?_ fun _ _ _ => completes_pure _ _
    simp only [PaymentRepository.transitionPayment, PaymentRepository.modifyPayment,
      PaymentRepository.find]
    refine completes_bind (completes_write _ _) fun _ t wrote => ?_
    simp only [ran_write] at wrote
    subst wrote
    refine completes_bind (completes_read _ _) fun row t read => ?_
    obtain ⟨rfl, rfl⟩ := (ran_read _ _ _ _).mp read
    refine completes_require_isSome ?_ _ _
    rw [Table.find?_modify, if_pos rfl, found]
    rfl

theorem projectPayment_completes (status : PaymentStatus) :
    Completes (projectPayment payment status) db := by
  refine completes_bind (completes_read _ _) fun order t _ => ?_
  cases order with
  | none => exact completes_pure _ _
  | some order => exact completes_onlyIf fun _ => completes_write _ _

theorem insertRefund_completes {refund : Refund} (id : db.refunds.find? refund.id = none)
    (key : (db.refunds.first? fun r => r.paymentId = refund.paymentId ∧
      r.idempotencyKey = refund.idempotencyKey) = none)
    (number : ∀ r ∈ db.refunds.rows, r.merchantRefundNo ≠ refund.merchantRefundNo) :
    Completes (PaymentRepository.insertRefund refund) db := by
  have unnumbered : (db.refunds.first? fun r => r.provider = refund.provider ∧
      r.merchantRefundNo = refund.merchantRefundNo) = none := by
    refine Table.first?_none.mpr fun r mem => ?_
    simp [number r mem]
  refine completes_bind (completes_read _ _) fun now' t read => ?_
  obtain ⟨rfl, rfl⟩ := (ran_read _ _ _ _).mp read
  refine completes_bind (completes_ensure (by simp [id]) _ _) fun _ t ensured => ?_
  obtain ⟨-, rfl⟩ := (ran_ensure _ _ _ _ _).mp ensured
  refine completes_bind (completes_ensure (by simpa using key) _ _) fun _ t ensured => ?_
  obtain ⟨-, rfl⟩ := (ran_ensure _ _ _ _ _).mp ensured
  refine completes_bind (completes_ensure (by simpa using unnumbered) _ _) fun _ t ensured => ?_
  obtain ⟨-, rfl⟩ := (ran_ensure _ _ _ _ _).mp ensured
  exact completes_write _ _

/-- The whole remaining money of a refundable payment can be asked back once. -/
theorem createRefundIntent_completes {key reason : String} {remaining : Int} {p : Id}
    (unused : fresh.Unused db) (found : db.payments.find? p = some payment)
    (refundable : payment.status ∈ refundablePaymentStatuses)
    (first : (db.refunds.first? fun r => r.paymentId = p ∧ r.idempotencyKey = key) = none)
    (budget : remaining = payment.amountMinor - (db.books.balance payment.id).reserved)
    (left : 0 < remaining) :
    Completes (createRefundIntent env
      { paymentId := p, idempotencyKey := key, reason, amountMinor := some remaining } fresh now)
      db := by
  have mine : payment.id = p := Table.key_of_find? found
  subst mine
  simp only [createRefundIntent, PaymentRepository.find, PaymentRepository.findRefundIdempotent]
  refine completes_bind (completes_read _ _) fun row t read => ?_
  obtain ⟨rfl, rfl⟩ := (ran_read _ _ _ _).mp read
  refine completes_bind (completes_require found _ _) fun row t required => ?_
  obtain ⟨there, rfl⟩ := (ran_require _ _ _ _ _).mp required
  cases found.symm.trans there
  refine completes_bind (completes_read _ _) fun existing t read => ?_
  obtain ⟨rfl, rfl⟩ := (ran_read _ _ _ _).mp read
  simp only [first]
  refine completes_bind (completes_ensure refundable _ _) fun _ t ensured => ?_
  obtain ⟨-, rfl⟩ := (ran_ensure _ _ _ _ _).mp ensured
  simp only [insertRefundIntent]
  refine completes_bind (completes_bind (completes_read _ _) fun _ _ _ => completes_pure _ _)
    fun remaining' t budgeted => ?_
  obtain ⟨same, rfl⟩ := ran_remainingBudget budgeted
  rw [← budget] at same
  subst same
  simp only [Option.getD_some]
  rw [dif_pos ⟨left, le_refl _⟩]
  refine completes_bind (insertRefund_completes unused.id first unused.number)
    fun _ t' inserted => ?_
  have payments : t'.payments = t.payments := by
    simp only [PaymentRepository.insertRefund, ran_read_bind, ran_ensure_bind, ran_write] at inserted
    obtain ⟨-, -, -, rfl⟩ := inserted
    rfl
  refine completes_bind (transitionPayment_completes (by rw [payments, found]) refundable)
    fun moved t _ => ?_
  exact completes_bind (projectPayment_completes _) fun _ _ _ => completes_pure _ _

theorem ensureAutomaticRefundIntent_completes {p : Id} {key reason : String}
    (unused : fresh.Unused db) :
    Completes (ensureAutomaticRefundIntent env p key reason fresh now) db := by
  simp only [ensureAutomaticRefundIntent, PaymentRepository.find,
    PaymentRepository.findRefundIdempotent]
  refine completes_bind (completes_read _ _) fun row t read => ?_
  obtain ⟨rfl, rfl⟩ := (ran_read _ _ _ _).mp read
  split
  · exact completes_pure _ _
  · rename_i payment there
    obtain ⟨found, refundable⟩ := Option.filter_eq_some_iff.mp there
    refine completes_bind (completes_read _ _) fun existing t read => ?_
    obtain ⟨asked, rfl⟩ := (ran_read _ _ _ _).mp read
    cases existing with
    | some existing => exact completes_pure _ _
    | none =>
        refine completes_bind
          (completes_bind (completes_read _ _) fun _ _ _ => completes_pure _ _)
          fun remaining t budgeted => ?_
        obtain ⟨budget, rfl⟩ := ran_remainingBudget budgeted
        split
        · rename_i left
          exact completes_bind (createRefundIntent_completes unused found (by simpa using refundable)
            asked budget left) fun _ _ _ => completes_pure _ _
        · exact completes_pure _ _

theorem createAutomaticRefundRecord_completes {reason : String} (unused : fresh.Unused db) :
    Completes (createAutomaticRefundRecord env order job reason fresh now) db := by
  simp only [createAutomaticRefundRecord]
  have searched : Completes (paymentToReturn order) db := by
    unfold paymentToReturn
    split
    · exact completes_pure _ _
    · exact completes_bind (completes_read _ _) fun _ _ _ => completes_pure _ _
  refine completes_bind searched fun paymentId t search => ?_
  have same : t = db := (paymentToReturn_effect search).1
  subst same
  cases paymentId with
  | none => exact completes_pure _ _
  | some paymentId =>
      simp only [PaymentRepository.find]
      refine completes_bind (completes_read _ _) fun row t' read => ?_
      obtain ⟨-, rfl⟩ := (ran_read _ _ _ _).mp read
      split
      · exact completes_pure _ _
      · exact completes_bind (ensureAutomaticRefundIntent_completes unused) fun _ _ _ =>
          completes_pure _ _

end Money

section Rows

/-- The orders and the refunds are as they were. -/
structure KeepsOrders (db db' : Db) : Prop where
  orders : db'.orders = db.orders
  refunds : db'.refunds = db.refunds

instance : IsPreorder Db KeepsOrders where
  refl _ := ⟨rfl, rfl⟩
  trans _ _ _ h k := ⟨k.orders.trans h.orders, k.refunds.trans h.refunds⟩

theorem transitionOrder_completes {target : OrderStatus} {actor : String}
    (found : db.orders.find? order.id = some order) :
    Completes (transitionOrder order target actor now) db := by
  simp only [transitionOrder, OrderRepository.nextTransitionRevision,
    OrderRepository.updateTransitionState, OrderRepository.insertTransition, OrderRepository.find]
  split
  · exact completes_pure _ _
  · split
    · refine completes_bind (completes_read _ _) fun _ t read => ?_
      obtain ⟨-, rfl⟩ := (ran_read _ _ _ _).mp read
      refine completes_bind ?_ fun _ _ _ =>
        completes_bind (completes_write _ _) fun _ _ _ => completes_pure _ _
      refine completes_bind (completes_write _ _) fun _ t wrote => ?_
      simp only [ran_write] at wrote
      subst wrote
      refine completes_bind (completes_read _ _) fun row t read => ?_
      obtain ⟨rfl, rfl⟩ := (ran_read _ _ _ _).mp read
      refine completes_require_isSome ?_ _ _
      rw [Table.find?_modify, if_pos rfl, found]
      rfl
    · exact completes_pure _ _

/-- What is left of an accepted event once it is read runs to its end. -/
theorem applyEvent_completes (unused : fresh.Unused db) (rows : Rows db order job command)
    (named : failureCode event input.payload = .ok ())
    (reported : input.payload.get? "stepProgress" ≠ some .null)
    (allowed : (decideTransition command.status event.commandTarget).allowed = true) :
    Completes (applyEvent env terminalId event input order job command fresh now) db := by
  obtain ⟨b, progress⟩ := deviceProgress_ok reported job.progress job.stepProgress
  simp only [applyEvent, named, progress, lift, pure_bind]
  refine completes_bind (transitionCommand_completes rows.issued _ fun _ => allowed)
    fun moved t₁ commanded => ?_
  refine completes_bind (completes_write _ _) fun _ t₂ updated => ?_
  have marked : Completes (markHold event job.id now) t₂ := by
    unfold markHold
    split
    · exact completes_write _ _
    · split
      · exact completes_write _ _
      · exact completes_pure _ _
  refine completes_bind marked fun _ t₃ mark => ?_
  have aside : KeepsOrders db t₃ := by
    have first : KeepsOrders db t₁ := follows_transitionCommand (fun _ _ => ⟨rfl, rfl⟩)
      (fun _ _ => ⟨rfl, rfl⟩) _ _ _ _ _ _ _ commanded
    have second : KeepsOrders t₁ t₂ := follows_write (fun _ => ⟨rfl, rfl⟩) _ _ _ updated
    have third : KeepsOrders t₂ t₃ := by
      refine (?_ : Follows KeepsOrders (markHold event job.id now)) _ _ _ mark
      unfold markHold
      split
      · exact follows_write fun _ => ⟨rfl, rfl⟩
      · split
        · exact follows_write fun _ => ⟨rfl, rfl⟩
        · exact follows_pure _
    exact IsTrans.trans _ _ _ first (IsTrans.trans _ _ _ second third)
  have ordered : t₃.orders.find? order.id = some order := by rw [aside.orders, rows.ordered]
  refine completes_bind (transitionOrder_completes ordered) fun order' t₄ moving => ?_
  have refunds : t₄.refunds = db.refunds := by
    rcases ran_transitionOrder moving ordered with ⟨-, -, rfl⟩ | ⟨-, -, _, _, -, rfl⟩
    · exact aside.refunds
    · exact aside.refunds
  have unused : fresh.Unused t₄ := ⟨refunds ▸ unused.id, refunds ▸ unused.number⟩
  refine completes_bind (completes_onlyIf fun _ => createAutomaticRefundRecord_completes unused)
    fun _ _ _ => ?_
  exact completes_bind (completes_onlyIf fun _ => completes_write _ _) fun _ _ _ =>
    completes_pure _ _

theorem applyStep_completes (reported : input.payload.get? "stepProgress" ≠ some .null) :
    Completes (applyStep input order job now) db := by
  obtain ⟨b, progress⟩ := deviceProgress_ok reported job.progress job.stepProgress
  simp only [applyStep, progress, lift, pure_bind]
  exact completes_bind (completes_write _ _) fun _ _ _ => completes_pure _ _

end Rows

end ProductionService
end CoffeeCloud
