import CoffeeCloud.Runs

/-!
Refunds over whole runs: none exceeds its payment, an ended one stays ended, and
the status of a payment is what its refunds say.
-/
namespace CoffeeCloud
open Library Tx

/-- The status that the refunds of a payment give it. -/
def Db.settle (db : Db) (p : Payment) : PaymentStatus :=
  if p.amountMinor ≤ db.refundedTotal p.id [.succeeded] then .refunded
  else if db.inflightRefundExists p.id then .refunding
  else if 0 < db.refundedTotal p.id [.succeeded] then .partiallyRefunded
  else .paid

theorem Db.settle_eq (db : Db) (p : Payment) :
    db.settle p = settled ((db.books.balance p.id).phase p.amountMinor) := by
  have ran : Ran (settleTarget p) db (db.settle p) db := rfl
  exact (ran_settleTarget ran).1

/-- The error of a transition that the tables of payments and refunds do not have. -/
def Failure.Illegal (e : Failure) : Prop := ∃ detail, e = .httpException 409 detail

section Legal
variable {db : Db} {now : Time}

theorem transitionPayment_avoids {payment : Payment} {target : PaymentStatus}
    (legal : payment.status = target ∨ target ∈ paymentTransitions payment.status) :
    Avoids Failure.Illegal (transitionPayment payment target now) db := by
  simp only [transitionPayment, decidePaymentTransition]
  by_cases same : payment.status = target
  · simpa only [if_pos same, if_true] using avoids_pure _ _
  · simp only [if_neg same, if_pos (legal.resolve_left same), Bool.false_eq_true, if_false, if_true]
    refine avoids_bind (avoids_bind (avoids_write _ _) fun _ _ _ => ?_) fun _ _ _ => avoids_pure _ _
    exact avoids_bind (avoids_read _ _) fun _ _ _ => avoids_require _ (by simp [Failure.Illegal]) _

theorem transitionRefund_avoids {refund : Refund} {target : RefundStatus}
    (legal : refund.status = target ∨ target ∈ refundTransitions refund.status) :
    Avoids Failure.Illegal (transitionRefund refund target now) db := by
  simp only [transitionRefund, decideRefundTransition]
  by_cases same : refund.status = target
  · simpa only [if_pos same, if_true] using avoids_pure _ _
  · simp only [if_neg same, if_pos (legal.resolve_left same), Bool.false_eq_true, if_false, if_true]
    refine avoids_bind (avoids_bind (avoids_write _ _) fun _ _ _ => ?_) fun _ _ _ => avoids_pure _ _
    exact avoids_bind (avoids_read _ _) fun _ _ _ => avoids_require _ (by simp [Failure.Illegal]) _

theorem transitionOrder_avoids {order : Order} {target : OrderStatus} {actor : String} :
    Avoids Failure.Illegal (transitionOrder order target actor now) db := by
  simp only [transitionOrder]
  split
  · exact avoids_pure _ _
  · split
    · refine avoids_bind (avoids_read _ _) fun _ _ _ => avoids_bind ?_ fun _ _ _ =>
        avoids_bind (avoids_write _ _) fun _ _ _ => avoids_pure _ _
      refine avoids_bind (avoids_write _ _) fun _ _ _ => avoids_bind (avoids_read _ _) fun _ _ _ => ?_
      exact avoids_require _ (by simp [Failure.Illegal]) _
    · exact avoids_pure _ _

theorem insertRefund_avoids {refund : Refund} :
    Avoids Failure.Illegal (PaymentRepository.insertRefund refund) db := by
  refine avoids_bind (avoids_read _ _) fun _ _ _ => avoids_bind (avoids_ensure _ ?_ _) fun _ _ _ =>
    avoids_bind (avoids_ensure _ ?_ _) fun _ _ _ => avoids_bind (avoids_ensure _ ?_ _) fun _ _ _ =>
    avoids_write _ _
  all_goals simp [Failure.Illegal]

/-- A refundable payment may always go to REFUNDING. -/
theorem createRefundIntent_avoids {env : Env} {r : RefundRequest} {fresh : FreshRefund} :
    Avoids Failure.Illegal (createRefundIntent env r fresh now) db := by
  refine avoids_bind (avoids_read _ _) fun _ _ _ =>
    avoids_bind (avoids_require _ (by simp [Failure.Illegal]) _) fun payment _ _ => avoids_bind (avoids_read _ _) fun existing t _ => ?_
  cases existing with
  | some existing =>
      exact avoids_bind (avoids_ensure _ (by simp [Failure.Illegal]) _) fun _ _ _ => avoids_pure _ _
  | none =>
      refine avoids_bind (avoids_ensure _ (by simp [Failure.Illegal]) _) fun _ _ ran => ?_
      have refundable := ((ran_ensure _ _ _ _ _).mp ran).1
      refine avoids_bind (avoids_bind (avoids_read _ _) fun _ _ _ => avoids_pure _ _) fun _ _ _ => ?_
      simp only
      split
      · refine avoids_bind insertRefund_avoids fun _ _ _ => avoids_bind ?_ fun moved _ _ => ?_
        · refine transitionPayment_avoids ?_
          revert refundable
          cases payment.status <;> decide
        · refine avoids_bind (avoids_bind (avoids_read _ _) fun order _ _ => ?_) fun _ _ _ =>
            avoids_pure _ _
          cases order with
          | none => exact avoids_pure _ _
          | some order => exact avoids_onlyIf fun _ => avoids_write _ _
      · exact avoids_raise (by simp [Failure.Illegal]) _

theorem claimRefund_avoids {pick : Id} :
    Avoids Failure.Illegal (BackgroundWorkerService.claimRefund pick now) db := by
  refine avoids_bind (avoids_read _ _) fun claimed t ran => ?_
  obtain ⟨located, rfl⟩ := (ran_read _ _ _ _).mp ran
  cases claimed with
  | none => exact avoids_pure _ _
  | some refund =>
      obtain ⟨-, due⟩ := Option.filter_eq_some_iff.mp located
      simp only [WorkerRepository.isClaimableRefund, Bool.and_eq_true, decide_eq_true_eq] at due
      refine avoids_bind (avoids_read _ _) fun payment _ _ => ?_
      cases payment with
      | none => exact avoids_pure _ _
      | some payment =>
          simp only
          split
          · refine avoids_bind (transitionRefund_avoids ?_) fun _ _ _ =>
              avoids_bind (avoids_write _ _) fun _ _ _ => avoids_pure _ _
            have live := due.1
            revert live
            cases refund.status <;> decide
          · exact avoids_bind (avoids_write _ _) fun _ _ _ => avoids_pure _ _

theorem settlePaymentAfterRefund_avoids {payment : Payment} {order : Option Order} {actor : String}
    (refunding : payment.status = .refunding) :
    Avoids Failure.Illegal (settlePaymentAfterRefund payment order actor now) db := by
  refine avoids_bind (avoids_bind (avoids_read _ _) fun _ _ _ =>
    avoids_bind (avoids_read _ _) fun _ _ _ => avoids_pure _ _) fun target _ aim => ?_
  obtain ⟨rfl, -⟩ := ran_settleTarget aim
  refine avoids_bind (transitionPayment_avoids ?_) fun _ _ _ => ?_
  · rw [refunding]
    generalize Balance.phase _ _ = phase
    cases phase <;> decide
  · cases order.filter _ with
    | none => exact avoids_pure _ _
    | some order =>
        refine avoids_bind (avoids_write _ _) fun _ _ _ => ?_
        split
        · exact avoids_bind transitionOrder_avoids fun _ _ _ => avoids_pure _ _
        · exact avoids_pure _ _

/-- A payment with a refund in flight is REFUNDING. -/
theorem refunding_of_live {payment : Payment} {refund : Refund} (sound : db.books.Sound)
    (found : db.payments.find? refund.paymentId = some payment)
    (row : db.refunds.find? refund.id = some refund) (live : refund.status ∈ inFlightRefundStatuses) :
    payment.status = .refunding := by
  have entry := Db.books_payment found
  obtain ⟨pe, hp, received⟩ := sound.refundReceived _ _ (Db.books_refund row)
  cases entry.symm.trans hp
  have held : refund.amountMinor ≤ (db.books.balance refund.paymentId).held := le_held row live
  have positive := refund.amountPositive
  obtain ⟨-, -, -, within⟩ := sound.within _ _ entry
  have status : payment.status = settled ((db.books.balance refund.paymentId).phase _) :=
    sound.status _ _ entry received
  rw [status]
  have unspent : ¬ (PaymentEntry.of payment).amount ≤ (db.books.balance refund.paymentId).spent := by
    simp only [Balance.reserved] at within
    omega
  have some : 0 < (db.books.balance refund.paymentId).held := by omega
  simp [Balance.phase, unspent, some, settled]

theorem applyRefundOutcome_avoids {k : Id} {answer : BackgroundWorkerService.RefundAnswer}
    {actor : String} (sound : db.books.Sound) :
    Avoids Failure.Illegal (applyRefundOutcome k answer.target actor now) db := by
  refine avoids_bind (avoids_read _ _) fun located t ran => ?_
  obtain ⟨found, rfl⟩ := (ran_read _ _ _ _).mp ran
  cases located with
  | none => exact avoids_pure _ _
  | some located =>
      refine avoids_bind (avoids_read _ _) fun payment t ran => ?_
      obtain ⟨row, rfl⟩ := (ran_read _ _ _ _).mp ran
      cases payment with
      | none => exact avoids_pure _ _
      | some payment =>
          refine avoids_bind (avoids_read _ _) fun order t ran => ?_
          obtain ⟨-, rfl⟩ := (ran_read _ _ _ _).mp ran
          refine avoids_bind (avoids_read _ _) fun again t ran => ?_
          obtain ⟨rfl, rfl⟩ := (ran_read _ _ _ _).mp ran
          refine avoids_bind (avoids_require _ (by simp [Failure.Illegal]) _) fun refund t ran => ?_
          obtain ⟨same, rfl⟩ := (ran_require _ _ _ _ _).mp ran
          cases found.symm.trans same
          have key : located.id = k := Table.key_of_find? found
          simp only
          split
          · exact avoids_pure _ _
          · rename_i open_
            have live := inFlight_of_not_terminal open_
            refine avoids_bind (transitionRefund_avoids ?_) fun _ _ _ => ?_
            · have target : answer.target ∈ [RefundStatus.succeeded, .failed, .processing, .unknown] := by
                cases answer with
                | status text =>
                    simp only [BackgroundWorkerService.RefundAnswer.target]
                    split
                    · decide
                    · split <;> decide
                | raised => decide
              revert live target
              cases located.status <;> cases answer.target <;> decide
            · split
              · refine avoids_bind (settlePaymentAfterRefund_avoids ?_) fun _ _ _ => avoids_pure _ _
                exact refunding_of_live sound row (key ▸ found) live
              · exact avoids_pure _ _

theorem recordRefund_avoids {k : Id} {answer : BackgroundWorkerService.RefundAnswer}
    (sound : db.books.Sound) :
    Avoids Failure.Illegal (BackgroundWorkerService.recordRefund k answer now) db := by
  refine avoids_bind (applyRefundOutcome_avoids sound) fun current _ _ => ?_
  cases current with
  | none => exact avoids_pure _ _
  | some current =>
      simp only
      split
      · exact avoids_write _ _
      · split
        · exact avoids_write _ _
        · exact avoids_pure _ _

end Legal

namespace System
variable {env : Env} {s : System}

/-- Every payment keeps its refunds within its amount, and an ended refund stays as it ended. -/
theorem refunds_within (reach : (machine env).Reachable {} s) :
    (∀ p payment, s.db.payments.find? p = some payment →
      s.db.refundedTotal p budgetRefundStatuses ≤ payment.amountMinor) ∧
    ∀ as r refund, s.db.refunds.find? r = some refund → refund.status ∈ refundTerminal →
      ∃ refund', ((machine env).run s as).db.refunds.find? r = some refund' ∧
        refund'.status = refund.status ∧ refund'.paymentId = refund.paymentId ∧
        refund'.amountMinor = refund.amountMinor := by
  have sound := sound_of_reachable reach
  constructor
  · intro p payment found
    have within := (sound.books.within p _ (Db.books_payment found)).reserved
    rw [Db.refundedTotal, ← reserved_balanceOf]
    exact within
  · intro as r refund found ended
    have refines : Refines _ _ s.db ((machine env).run s as).db := run_refines sound as
    have kept := refines.books.invariant
      (I := fun b => ∃ e, b.refunds r = some e ∧ e.status = refund.status ∧
        e.payment = refund.paymentId ∧ e.amount = refund.amountMinor)
      ⟨_, Db.books_refund found, rfl, rfl, rfl⟩ <| by
        rintro b x ⟨e, he, status, payment, amount⟩ hx
        obtain ⟨e', he', payment', amount', -, stays⟩ := Books.post_refund hx.1 he
        exact ⟨e', he', (stays (status ▸ ended)).trans status, payment'.trans payment,
          amount'.trans amount⟩
    obtain ⟨e, he, same⟩ := kept
    obtain ⟨refund', found', rfl⟩ := (Table.view_eq_some _).mp he
    exact ⟨refund', found', same⟩

/-- A sale and two refunds of it, the first of which the channel pays out. -/
def refundedSale : List Action :=
  sale ++
    [ .refund 0 "first" "reason" (some 200) (freshRefund 0) 0,
      .claimRefund 0 0,
      .recordRefund 1 (.status "REFUNDED") 0,
      .refund 0 "second" "reason" (some 300) (freshRefund 1) 0 ]

theorem refunds_within_refundedSale :
    ∃ payment refund refund',
      ((machine shop).run {} refundedSale).db.payments.find? 0 = some payment ∧
      ((machine shop).run {} refundedSale).db.refundedTotal 0 budgetRefundStatuses ≤
        payment.amountMinor ∧
      ((machine shop).run {} refundedSale).db.refunds.find? 0 = some refund ∧
      refund.status = .succeeded ∧
      ((machine shop).run ((machine shop).run {} refundedSale)
        [.recordRefund 1 (.status "FAILED") 0]).db.refunds.find? 0 = some refund' ∧
      refund'.status = .succeeded := by
  obtain ⟨payment, found, -⟩ := (Option.any_eq_true (fun _ => true)
    (((machine shop).run {} refundedSale).db.payments.find? 0)).mp (by decide +kernel)
  obtain ⟨refund, found', succeeded⟩ := (Option.any_eq_true (fun r => r.status = .succeeded)
    (((machine shop).run {} refundedSale).db.refunds.find? 0)).mp (by decide +kernel)
  have succeeded : refund.status = .succeeded := by simpa using succeeded
  have reach : (machine shop).Reachable {} ((machine shop).run {} refundedSale) :=
    ⟨refundedSale, rfl⟩
  obtain ⟨within, ended⟩ := refunds_within reach
  obtain ⟨refund', kept, same, -⟩ := ended [.recordRefund 1 (.status "FAILED") 0] 0 refund found'
    (by rw [succeeded]; decide)
  exact ⟨payment, refund, refund', found, within 0 payment found, found', succeeded, kept,
    same.trans succeeded⟩

/-- The status of a payment that has received money is what its refunds say, and neither a new
refund nor an answer of the channel ever asks for a transition the tables do not have. -/
theorem payments_settled (reach : (machine env).Reachable {} s) :
    (∀ p payment, s.db.payments.find? p = some payment → payment.status ∈ paidCallbackStatuses →
      payment.status = s.db.settle payment) ∧
    (∀ r fresh now, Avoids Failure.Illegal (createRefundIntent env r fresh now) s.db) ∧
    (∀ pick now, Avoids Failure.Illegal (BackgroundWorkerService.claimRefund pick now) s.db) ∧
    (∀ k (answer : BackgroundWorkerService.RefundAnswer) actor now,
      Avoids Failure.Illegal (applyRefundOutcome k answer.target actor now) s.db) ∧
    ∀ k answer now, Avoids Failure.Illegal (BackgroundWorkerService.recordRefund k answer now) s.db := by
  have sound := sound_of_reachable reach
  refine ⟨fun p payment found received => ?_, fun _ _ _ => createRefundIntent_avoids,
    fun _ _ => claimRefund_avoids, fun _ _ _ _ => applyRefundOutcome_avoids sound.books,
    fun _ _ _ => recordRefund_avoids sound.books⟩
  have key : payment.id = p := Table.key_of_find? found
  rw [Db.settle_eq, key]
  exact sound.books.status p _ (Db.books_payment found) received

theorem payments_settled_refundedSale :
    ∃ payment, ((machine shop).run {} refundedSale).db.payments.find? 0 = some payment ∧
      payment.status = .refunding ∧
      ((machine shop).run {} refundedSale).db.settle payment = .refunding ∧
      Avoids Failure.Illegal (BackgroundWorkerService.recordRefund 0 (.status "FAILED") 0)
        ((machine shop).run {} refundedSale).db := by
  obtain ⟨payment, found, refunding⟩ := (Option.any_eq_true (fun p => p.status = .refunding)
    (((machine shop).run {} refundedSale).db.payments.find? 0)).mp (by decide +kernel)
  have refunding : payment.status = .refunding := by simpa using refunding
  have reach : (machine shop).Reachable {} ((machine shop).run {} refundedSale) :=
    ⟨refundedSale, rfl⟩
  obtain ⟨settled, -, -, -, legal⟩ := payments_settled reach
  exact ⟨payment, found, refunding,
    (settled 0 payment found (by rw [refunding]; decide)).symm.trans refunding, legal 0 _ 0⟩

end System
end CoffeeCloud
