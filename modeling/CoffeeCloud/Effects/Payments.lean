import CoffeeCloud.Effects.PaymentService

/-!
What the payment API does: it opens an intent where none is open, records the
channel's answer to it, and lets manual refunds in.
-/
namespace CoffeeCloud
open Library Tx

variable {db db' : Db} {now : Time} {env : Env}

theorem same_modifyPayment (db : Db) {k : Id} {f : Payment → Payment} (hf : ∀ p, (f p).id = p.id)
    (h : ∀ p, PaymentEntry.of (f p) = PaymentEntry.of p) :
    Same db { db with payments := db.payments.modify k f hf } := by
  refine ⟨?_, rfl⟩
  simp only [Db.books]
  congr 1
  exact Table.view_modify_same PaymentEntry.of hf fun p _ => h p

theorem scheduleReconciliation_same (p : Id) (secs : Int) :
    Follows Same (PaymentRepository.scheduleReconciliation p secs now) :=
  follows_write fun db => same_modifyPayment db _ fun _ => rfl

theorem saveProviderResult_effect {payment r : Payment} {tradeNo : Option String}
    (h : Ran (PaymentRepository.saveProviderResult payment tradeNo) db r db')
    (found : db.payments.find? payment.id = some payment) :
    db'.payments.find? r.id = some r ∧ r.status = payment.status ∧ Same db db' := by
  have written {t : Db} (h : Ran (PaymentRepository.modifyPayment payment.id
      (fun p => { p with providerTradeNo := tradeNo.or p.providerTradeNo }) (fun _ => rfl)) db r t) :
      t.payments.find? r.id = some r ∧ r.status = payment.status ∧ Same db t := by
    obtain ⟨p, row, rfl, rfl⟩ := ran_modifyPayment.mp h
    cases found.symm.trans row
    exact ⟨by simp [Table.find?_modify, found], rfl, same_modifyPayment db _ fun _ => rfl⟩
  cases tradeNo with
  | none =>
      simp only [PaymentRepository.saveProviderResult] at h
      exact written h
  | some tradeNo =>
      simp only [PaymentRepository.saveProviderResult, PaymentRepository.tradeNoTaken,
        ran_read_bind, ran_ensure_bind] at h
      exact written h.2

namespace PaymentApplicationService

theorem authenticateOrder_effect {orderId : Id} {token : Option String} {order : Order}
    (h : Ran (authenticateOrder env orderId token) db order db') :
    db' = db ∧ db.orders.find? order.id = some order ∧ order.id = orderId := by
  simp only [authenticateOrder] at h
  split at h
  · simp at h
  · simp only [OrderRepository.findWithTerminal, ran_read_bind, ran_require,
      Option.filter_eq_some_iff] at h
    obtain ⟨⟨⟨found, -⟩, -⟩, rfl⟩ := h
    have key : order.id = orderId := Table.key_of_find? found
    exact ⟨rfl, key ▸ found, key⟩

section Create
variable {r : CreateRequest} {order : Order} {provider merchantNo : String} {p : Id}

theorem channelFor_effect {s : String} (h : Ran (channelFor r provider order) db s db') : db' = db := by
  simp only [channelFor] at h
  split at h
  · simp only [ran_pure] at h
    exact h.2.symm
  · simp only [ran_read_bind, ran_require_bind, ran_ensure_bind, ran_pure] at h
    obtain ⟨-, -, -, -, rfl⟩ := h
    rfl

def Opens (x : Posting) : Prop := ∃ p o a, x = .openPayment p o a

theorem openIntent_effect {payment : Payment}
    (h : Ran (openIntent env r order provider p merchantNo now) db payment db')
    (found : db.orders.find? order.id = some order)
    (start : order.status ∈ [.created, .awaitingPayment])
    (unpaid : order.paymentStatus ∉ paidCallbackStatuses)
    (none : ∀ q ∈ db.payments.rows, q.orderId = order.id → ¬ q.status.Open) :
    Refines Opens (fun w => ∃ o, w = .jobless o .awaitingPayment) db db' := by
  have entry := Db.books_order found
  have unpaidStatus : order.status.Unpaid := by simpa [OrderStatus.Unpaid] using start
  simp only [openIntent] at h
  split at h
  · rename_i positive
    simp only [PaymentRepository.insert, bind_assoc, ran_read_bind, ran_ensure_bind,
      ran_write_bind, id_eq, Option.isNone_iff_eq_none, updatePaymentStatus_eq] at h
    obtain ⟨fresh, -, -, h⟩ := h
    have ok : db.books.ok AutomaticKey (.openPayment p order.id order.totalAmountMinor) := by
      refine ⟨(Table.view_eq_none _).mpr fresh, positive, ⟨_, entry, unpaidStatus, unpaid⟩, ?_⟩
      intro q e hq mine
      obtain ⟨payment, row, rfl⟩ := (Table.view_eq_some _).mp hq
      exact none payment (Table.mem_of_find? row) mine
    have rows := fun r : Payment => Table.view_insert (t := db.payments) (r := r) PaymentEntry.of
    rw [ran_ite] at h
    rcases h with ⟨created, h⟩ | ⟨awaiting, h⟩
    · rw [ran_bind] at h
      obtain ⟨moved, t, transition, h⟩ := h
      simp only [ran_write_bind, ran_pure] at h
      obtain ⟨-, rfl⟩ := h
      rcases ran_transitionOrder transition found with ⟨stuck, -⟩ | ⟨-, -, _, _, -, rfl⟩
      · simp [created, orderTransitions] at stuck
      · refine .both _ (.jobless order.id .awaitingPayment) ok ⟨_, _, _, rfl⟩ (fun sound => ?_)
          ⟨_, rfl⟩ ?_ ?_
        · have stands : db.floor.At order.id .created := ⟨_, Db.floor_order found, created⟩
          exact ⟨sound.jobless_of_early stands (by decide), _, stands, by decide, by decide⟩
        · rw [Db.projectOrder_books, Db.moveOrder_books]
          simp only [Books.setStatus, adjust_adjust, Books.post]
          simp only [Db.books]
          rw [rows _ fresh]
          rfl
        · rw [Db.projectOrder_floor, Db.moveOrder_floor]
          rfl
    · simp only [ran_write_bind, ran_pure] at h
      obtain ⟨-, rfl⟩ := h
      have waits : order.status = .awaitingPayment := by
        simpa [awaiting] using start
      refine .post _ ok ⟨_, _, _, rfl⟩ ?_ ?_
      · rw [Db.projectOrder_books]
        have shown : adjust db.books.orders order.id (fun e => { e with payment := .pending }) =
            adjust db.books.orders order.id fun e =>
              { e with status := .awaitingPayment, payment := .pending } := by
          simp only [adjust_of_some entry, OrderEntry.of, waits]
        simp only [Books.post, ← shown]
        simp only [Db.books]
        rw [rows _ fresh]
        rfl
      · rw [Db.projectOrder_floor]
        rfl
  · simp at h

theorem create_effect {opened : Opened} (h : Ran (create env r p merchantNo now) db opened db') :
    Refines Opens (fun w => ∃ o, w = .jobless o .awaitingPayment) db db' := by
  simp only [create, ran_ensure_bind] at h
  obtain ⟨-, -, h⟩ := h
  rw [ran_bind] at h
  obtain ⟨order, t, authenticated, h⟩ := h
  rw [ran_bind] at h
  obtain ⟨provider, t', channel, h⟩ := h
  obtain ⟨rfl, found, -⟩ := authenticateOrder_effect authenticated
  obtain rfl := channelFor_effect channel
  simp only [ran_ensure_bind, PaymentRepository.findIdempotent, ran_read_bind] at h
  obtain ⟨-, h⟩ := h
  split at h
  · simp only [ran_ensure_bind, ran_ite, ran_pure] at h
    obtain ⟨-, ⟨-, -, rfl⟩ | ⟨-, -, rfl⟩⟩ := h
    all_goals exact .refl _
  · simp only [ran_ensure_bind, PaymentRepository.latestOpenForOrder, ran_read_bind] at h
    obtain ⟨unpaid, start, h⟩ := h
    split at h
    · simp only [ran_ensure_bind, ran_pure] at h
      obtain ⟨-, -, rfl⟩ := h
      exact .refl _
    · rename_i closed
      simp only [ran_bind, ran_pure] at h
      obtain ⟨payment, t, opened, -, rfl⟩ := h
      refine openIntent_effect opened found start unpaid fun q hq mine isOpen => ?_
      have := Table.head?_select_none closed q hq
      simp only [PaymentRepository.isOpenIntent, mine, decide_true, Bool.true_and,
        decide_eq_false_iff_not] at this
      exact this isOpen

end Create

section Answers
variable {payment : Payment} {answer : ChannelAnswer} {fresh : FreshRefund} {e : Id}

/-- What the channel's answer to a new intent may post. -/
def Created (x : Posting) : Prop := Collect x ∨ ∃ p, x = .pend p

theorem created_effect {r : Payment} (sound : db.books.Sound)
    (h : Ran (created env payment answer fresh e now) db r db') :
    Refines Created (fun w => ∃ o, w = .jobless o .paid) db db' := by
  simp only [created] at h
  rw [ran_ite] at h
  rcases h with ⟨-, h⟩ | ⟨-, h⟩
  · simp only [ran_bind, ran_pure] at h
    obtain ⟨x, t, callback, -, rfl⟩ := h
    rcases applyPaidCallback_effect sound callback with ⟨-, -, replayed⟩ | ⟨-, -, refines⟩
    · exact .of_same replayed.same
    · exact refines.mono (fun _ => .inl) fun _ => id
  · simp only [PaymentRepository.find, ran_read_bind, ran_require_bind] at h
    obtain ⟨current, found, h⟩ := h
    rw [ran_bind] at h
    obtain ⟨saved, t, save, h⟩ := h
    have key : current.id = payment.id := Table.key_of_find? found
    obtain ⟨found', status, same⟩ := saveProviderResult_effect save (key ▸ found)
    rw [ran_ite] at h
    rcases h with ⟨isNew, h⟩ | ⟨-, h⟩
    · simp only [ran_bind, ran_pure] at h
      obtain ⟨moved, t', transition, u, t'', schedule, -, rfl⟩ := h
      refine .trans (.of_same same) (.trans ?_ (.of_same
        (scheduleReconciliation_same _ _ _ _ _ schedule)))
      refine .post (.pend saved.id) ⟨_, Db.books_payment found', isNew⟩ (.inr ⟨_, rfl⟩)
        (transitionPayment_books transition found') (transitionPayment_rest transition found').1
    · simp only [ran_pure] at h
      obtain ⟨-, rfl⟩ := h
      exact .of_same same

/-- A refund under the given key. -/
def Requests (key : String) (x : Posting) : Prop := ∃ o r, x = .request o r ∧ r.key = key

theorem requested {request : RefundRequest} {intent : RefundIntent}
    (h : Ran (createRefundIntent env request fresh now) db intent db') :
    Refines (Requests request.idempotencyKey) (fun _ => False) db db' := by
  obtain ⟨payment, -, ⟨rfl, -⟩ | ⟨amount, effect⟩⟩ := createRefundIntent_effect h
  · exact .refl _
  · exact .post (.request payment.orderId (request.entered fresh amount)) ⟨_, effect.fits⟩
      ⟨_, _, rfl, rfl⟩ effect.books effect.floor

theorem refund_effect {p : Id} {key reason : String} {amount : Option Int} {intent : RefundIntent}
    (h : Ran (refund env p key reason amount fresh now) db intent db') :
    Refines (Requests key) (fun _ => False) db db' := by
  simp only [refund, ran_ensure_bind, PaymentRepository.find, OrderRepository.find, ran_read_bind,
    ran_require_bind] at h
  obtain ⟨-, _, _, _, _, h⟩ := h
  exact requested h

end Answers

end PaymentApplicationService

theorem MerchantOrders.refund_effect {orderId : Id} {key reason : String} {amount : Int}
    {fresh : FreshRefund} {intent : RefundIntent}
    (h : Ran (MerchantOrders.refund env orderId key reason amount fresh now) db intent db') :
    Refines (PaymentApplicationService.Requests ("merchant:" ++ key)) (fun _ => False) db db' := by
  simp only [MerchantOrders.refund, ran_ensure_bind, OrderRepository.find, ran_read_bind,
    ran_require_bind] at h
  obtain ⟨-, _, _, _, _, h⟩ := h
  exact PaymentApplicationService.requested h

end CoffeeCloud
