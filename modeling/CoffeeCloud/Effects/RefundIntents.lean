import CoffeeCloud.Effects.Transitions

/-!
What the refund services do to the books: a new refund enters where it fits, an
outcome settles its payment, and nothing else happens.
-/
namespace CoffeeCloud
open Library Tx

variable {db db' : Db} {payment : Payment} {now : Time}

theorem transitionPayment_books {target : PaymentStatus} {r : Payment × Bool}
    (h : Ran (transitionPayment payment target now) db r db')
    (found : db.payments.find? payment.id = some payment) :
    db'.books = { db.books with
      payments := adjust db.books.payments payment.id fun e => { e with status := target } } := by
  rcases ran_transitionPayment h found with ⟨same, -, rfl⟩ | ⟨-, -, -, rfl⟩
  · rw [adjust_eq_self]
    intro e he
    cases (Db.books_payment found).symm.trans he
    simp [PaymentEntry.of, same]
  · exact Db.movePayment_books db

theorem transitionPayment_rest {target : PaymentStatus} {r : Payment × Bool}
    (h : Ran (transitionPayment payment target now) db r db')
    (found : db.payments.find? payment.id = some payment) :
    db'.floor = db.floor ∧ r.1.id = payment.id ∧ r.1.orderId = payment.orderId := by
  rcases ran_transitionPayment h found with ⟨-, rfl, rfl⟩ | ⟨-, -, rfl, rfl⟩
  · exact ⟨rfl, rfl, rfl⟩
  · exact ⟨rfl, rfl, rfl⟩

theorem projectPayment_effect {status : PaymentStatus} {u : Unit}
    (h : Ran (projectPayment payment status) db u db') :
    db'.books = { db.books with
        orders := adjust db.books.orders payment.orderId (Books.project payment.id status) } ∧
      db'.floor = db.floor := by
  simp only [projectPayment, OrderRepository.find, ran_read_bind] at h
  cases found : db.orders.find? payment.orderId with
  | none =>
      simp only [found, ran_pure] at h
      obtain ⟨-, rfl⟩ := h
      rw [adjust_eq_self]
      · exact ⟨rfl, rfl⟩
      · intro e he
        simp [Db.books, Table.view, found] at he
  | some order =>
      have key : order.id = payment.orderId := Table.key_of_find? found
      simp only [found, ran_onlyIf, updatePaymentStatus_eq, ran_write] at h
      rcases h with ⟨primary, rfl⟩ | ⟨other, rfl⟩
      · rw [key]
        refine ⟨?_, db.projectOrder_floor⟩
        rw [Db.projectOrder_books]
        have entry := Db.books_order found
        have shows : (OrderEntry.of order).primary = some payment.id := primary
        rw [adjust_of_some entry, adjust_of_some entry, Books.project, if_pos shows]
      · rw [adjust_eq_self]
        · exact ⟨rfl, rfl⟩
        · intro e he
          cases (Db.books_order found).symm.trans he
          exact if_neg other

theorem ran_remainingBudget {n : Int} (h : Ran (remainingBudget payment) db n db') :
    n = payment.amountMinor - (db.books.balance payment.id).reserved ∧ db' = db := by
  simp only [remainingBudget, PaymentRepository.refundedTotal, Db.refundedTotal, ran_read_bind,
    ran_pure] at h
  obtain ⟨rfl, rfl⟩ := h
  exact ⟨by rw [Db.books, reserved_balanceOf], rfl⟩

theorem Db.insertRefund_books (db : Db) (refund : Refund)
    (fresh : db.refunds.find? refund.id = none) (requested : refund.status = .requested) :
    ({ db with refunds := db.refunds.insert refund } : Db).books = { db.books with
      refunds := put db.books.refunds refund.id
        ⟨refund.paymentId, refund.amountMinor, .requested, refund.idempotencyKey⟩
      balance := fun p =>
        if p = refund.paymentId then (db.books.balance p).reserve refund.amountMinor
        else db.books.balance p } := by
  have rows := Table.view_insert (t := db.refunds) (r := refund) RefundEntry.of fresh
  simp only [Db.books, rows, balanceOf_insert fresh requested, RefundEntry.of, requested]
  rfl

section Insert
variable {env : Env} {r : RefundRequest} {fresh : FreshRefund} {intent : RefundIntent}

def RefundRequest.entered (r : RefundRequest) (fresh : FreshRefund) (amount : Int) : Entered :=
  ⟨fresh.id, r.paymentId, amount, r.idempotencyKey⟩

/-- What a refund that entered did. -/
structure Intent (db db' : Db) (r : RefundRequest) (fresh : FreshRefund) (payment : Payment)
    (amount : Int) : Prop where
  fits : db.books.Fits payment.orderId (r.entered fresh amount) (PaymentEntry.of payment)
  asked : amount = r.amountMinor.getD
    (payment.amountMinor - (db.books.balance r.paymentId).reserved)
  books : db'.books = Books.enter payment.orderId (r.entered fresh amount) db.books
  floor : db'.floor = db.floor

theorem insertRefundIntent_effect (h : Ran (insertRefundIntent env r payment fresh now) db intent db')
    (found : db.payments.find? r.paymentId = some payment)
    (refundable : payment.status ∈ refundablePaymentStatuses) :
    ∃ amount, Intent db db' r fresh payment amount := by
  obtain ⟨paymentId, idempotencyKey, reason, amountMinor, requestDigest⟩ := r
  have key : payment.id = paymentId := Table.key_of_find? found
  subst key
  simp only [insertRefundIntent, ran_bind] at h
  obtain ⟨remaining, _, budget, h⟩ := h
  obtain ⟨rfl, rfl⟩ := ran_remainingBudget budget
  split at h
  · rename_i fits
    simp only [bind_assoc, PaymentRepository.insertRefund, ran_read_bind, ran_ensure_bind,
      ran_write_bind, id_eq, Option.isNone_iff_eq_none] at h
    obtain ⟨fresh', -, -, h⟩ := h
    rw [ran_bind] at h
    obtain ⟨moved, t, transition, h⟩ := h
    rw [ran_bind] at h
    obtain ⟨u, t', project, h⟩ := h
    simp only [ran_pure] at h
    obtain ⟨-, rfl⟩ := h
    have payments := transitionPayment_books transition found
    have rest := transitionPayment_rest transition found
    have orders := projectPayment_effect project
    refine ⟨_, ⟨Db.books_payment found, rfl, refundable, fits.1, fits.2, ?_⟩, rfl, ?_, ?_⟩
    · exact (Table.view_eq_none _).mpr fresh'
    · rw [orders.1, payments, rest.2.1, rest.2.2, Db.insertRefund_books]
      · rfl
      · exact fresh'
      · rfl
    · rw [orders.2, rest.1]
      rfl
  · simp at h

/-- A replay changes nothing; a new refund enters. -/
theorem createRefundIntent_effect (h : Ran (createRefundIntent env r fresh now) db intent db') :
    ∃ payment, db.payments.find? r.paymentId = some payment ∧
      (db' = db ∧ (∃ re ∈ db.refunds.rows, re.paymentId = r.paymentId ∧
          re.idempotencyKey = r.idempotencyKey) ∧ intent.payment = payment ∨
        ∃ amount, Intent db db' r fresh payment amount) := by
  simp only [createRefundIntent, PaymentRepository.find, PaymentRepository.findRefundIdempotent,
    ran_read_bind, ran_require_bind] at h
  obtain ⟨payment, found, h⟩ := h
  refine ⟨payment, found, ?_⟩
  split at h
  · rename_i existing replay
    simp only [ran_ensure_bind, ran_pure] at h
    obtain ⟨-, rfl, rfl⟩ := h
    have := Table.first?_some replay
    simp only [decide_eq_true_eq] at this
    exact .inl ⟨rfl, ⟨existing, this⟩, rfl⟩
  · simp only [ran_ensure_bind] at h
    exact .inr (insertRefundIntent_effect h.2 found h.1)

/-- Nothing is left to be refunded under this key. -/
def Settled (b : Books) (p : Id) (key : String) : Prop :=
  ∀ pe, b.payments p = some pe → pe.status ∈ refundablePaymentStatuses →
    pe.amount ≤ (b.balance p).reserved ∨
      ∃ x re, b.refunds x = some re ∧ re.payment = p ∧ re.key = key

/-- The whole remaining money enters, or nothing is left to be refunded. -/
theorem ensureAutomaticRefundIntent_effect {p : Id} {key reason : String}
    {x : Option RefundIntent}
    (h : Ran (ensureAutomaticRefundIntent env p key reason fresh now) db x db') :
    db' = db ∧ Settled db.books p key ∨
      ∃ payment amount, db.payments.find? p = some payment ∧
        amount = payment.amountMinor - (db.books.balance p).reserved ∧
        db.books.Fits payment.orderId ⟨fresh.id, p, amount, key⟩ (PaymentEntry.of payment) ∧
        db'.books = Books.enter payment.orderId ⟨fresh.id, p, amount, key⟩ db.books ∧
        db'.floor = db.floor := by
  have replayed {re : Refund} (mem : re ∈ db.refunds.rows) (mine : re.paymentId = p)
      (same : re.idempotencyKey = key) : Settled db.books p key := fun pe _ _ =>
    .inr ⟨re.id, .of re, Db.books_refund (Table.find?_of_mem mem), mine, same⟩
  simp only [ensureAutomaticRefundIntent, PaymentRepository.find,
    PaymentRepository.findRefundIdempotent, ran_read_bind] at h
  cases found : db.payments.find? p with
  | none =>
      simp only [found, Option.filter_none, ran_pure] at h
      obtain ⟨-, rfl⟩ := h
      refine .inl ⟨rfl, fun pe hp => ?_⟩
      simp [Db.books, Table.view, found] at hp
  | some payment =>
      have mine : payment.id = p := Table.key_of_find? found
      by_cases refundable : payment.status ∈ refundablePaymentStatuses
      · simp only [found, Option.filter, refundable, decide_true, if_true, ran_read_bind] at h
        split at h
        · rename_i existing replay
          simp only [ran_pure] at h
          obtain ⟨-, rfl⟩ := h
          obtain ⟨mem, same⟩ := Table.first?_some replay
          simp only [decide_eq_true_eq] at same
          exact .inl ⟨rfl, replayed mem same.1 same.2⟩
        · rw [ran_bind] at h
          obtain ⟨remaining, t, budget, h⟩ := h
          obtain ⟨rfl, rfl⟩ := ran_remainingBudget budget
          rw [mine, ran_ite] at h
          rcases h with ⟨-, h⟩ | ⟨covered, h⟩
          · simp only [ran_bind, ran_pure] at h
            obtain ⟨intent, t', created, -, rfl⟩ := h
            obtain ⟨payment', found', ⟨rfl, ⟨re, mem, same⟩, -⟩ | ⟨amount, effect⟩⟩ :=
              createRefundIntent_effect created
            · exact .inl ⟨rfl, replayed mem same.1 same.2⟩
            · cases found.symm.trans found'
              exact .inr ⟨payment, amount, rfl, effect.asked, effect.fits, effect.books, effect.floor⟩
          · simp only [ran_pure] at h
            obtain ⟨-, rfl⟩ := h
            refine .inl ⟨rfl, fun pe hp _ => ?_⟩
            cases (Db.books_payment found).symm.trans hp
            left
            simp only [PaymentEntry.of]
            omega
      · simp only [found, Option.filter, refundable, decide_false, Bool.false_eq_true, if_false,
          ran_pure] at h
        obtain ⟨-, rfl⟩ := h
        refine .inl ⟨rfl, fun pe hp refundable' => ?_⟩
        cases (Db.books_payment found).symm.trans hp
        exact absurd refundable' refundable

end Insert

section Outcome
variable {target : RefundStatus} {actor : String}

theorem ran_settleTarget {s : PaymentStatus} (h : Ran (settleTarget payment) db s db') :
    s = settled ((db.books.balance payment.id).phase payment.amountMinor) ∧ db' = db := by
  simp only [settleTarget, PaymentRepository.refundedTotal, PaymentRepository.inflightRefundExists,
    ran_read_bind, ran_pure] at h
  obtain ⟨rfl, rfl⟩ := h
  refine ⟨?_, rfl⟩
  simp only [inflight_iff, Balance.phase, Db.books]
  have spent : db.refundedTotal payment.id [.succeeded] = (balanceOf db.refunds payment.id).spent :=
    rfl
  rw [spent]
  by_cases full : payment.amountMinor ≤ (balanceOf db.refunds payment.id).spent
  · simp [full, settled]
  · by_cases held : 0 < (balanceOf db.refunds payment.id).held
    · simp [full, held, settled]
    · by_cases some : 0 < (balanceOf db.refunds payment.id).spent
      · simp [full, held, some, settled]
      · simp [full, held, some, settled]

theorem inFlight_of_not_terminal {s : RefundStatus} (h : s ∉ refundTerminal) :
    s ∈ inFlightRefundStatuses := by
  revert h
  cases s <;> decide

/-- An outcome that is not final only moves the refund. -/
theorem moveRefund_advance {refund : Refund} (found : db.refunds.find? refund.id = some refund)
    (live : refund.status ∈ inFlightRefundStatuses) (still : target ∈ inFlightRefundStatuses) :
    (db.moveRefund refund target now).books = Books.post (.advance refund.id target) db.books := by
  have rows := Table.view_modify (t := db.refunds) (k := refund.id) RefundEntry.of
    (fun e => { e with status := target }) (PaymentRepository.refundTransitioned_id target now)
    fun _ => rfl
  have balance := balanceOf_modify (PaymentRepository.refundTransitioned_id target now) found rfl rfl
    live
  simp only [Db.moveRefund, Db.books, Books.post, rows, balance]
  simp [PaymentRepository.refundTransitioned, still]

/-- A final outcome takes its amount out of what is held. -/
theorem moveRefund_final {refund : Refund} (found : db.refunds.find? refund.id = some refund)
    (live : refund.status ∈ inFlightRefundStatuses) (final : target ∈ refundTerminal) :
    (db.moveRefund refund target now).books = { db.books with
      refunds := adjust db.books.refunds refund.id fun e => { e with status := target }
      balance := fun q => if q = refund.paymentId then
          Books.outcome target refund.amountMinor (db.books.balance q)
        else db.books.balance q } := by
  have rows := Table.view_modify (t := db.refunds) (k := refund.id) RefundEntry.of
    (fun e => { e with status := target }) (PaymentRepository.refundTransitioned_id target now)
    fun _ => rfl
  have balance := balanceOf_modify (PaymentRepository.refundTransitioned_id target now) found rfl rfl
    live
  have ended : target ∉ inFlightRefundStatuses := by
    revert final
    cases target <;> decide
  simp only [Db.moveRefund, Db.books, rows, balance]
  simp [PaymentRepository.refundTransitioned, ended]

/-- The payment settles, its primary order shows it, and a fully refunded failed order ends. -/
theorem settlePaymentAfterRefund_effect {order : Order} {u : Unit}
    (h : Ran (settlePaymentAfterRefund payment (some order) actor now) db u db')
    (found : db.payments.find? payment.id = some payment)
    (ordered : db.orders.find? payment.orderId = some order) :
    db'.books = { db.books with
        payments := adjust db.books.payments payment.id fun e => { e with
          status := settled ((db.books.balance payment.id).phase payment.amountMinor) }
        orders := adjust db.books.orders payment.orderId (Books.projectSettled payment.id
          (settled ((db.books.balance payment.id).phase payment.amountMinor))) } ∧
      (db'.floor = db.floor ∨ order.status = .failed ∧
        db'.floor = Floor.setOrder payment.orderId .refunded db.floor) := by
  have key : order.id = payment.orderId := Table.key_of_find? ordered
  simp only [settlePaymentAfterRefund, ran_bind] at h
  obtain ⟨target, t, aim, moved, t', transition, h⟩ := h
  obtain ⟨rfl, rfl⟩ := ran_settleTarget aim
  have books := transitionPayment_books transition found
  have floor := (transitionPayment_rest transition found).1
  have orders : t'.orders = t.orders := by
    rcases ran_transitionPayment transition found with ⟨-, -, rfl⟩ | ⟨-, -, -, rfl⟩ <;> rfl
  generalize settled ((t.books.balance payment.id).phase payment.amountMinor) = target at *
  by_cases primary : order.paidPaymentId = some payment.id
  · simp only [primary, Option.filter, decide_true, if_true, updatePaymentStatus_eq,
      ran_write_bind, key] at h
    have entry := Db.books_order ordered
    by_cases ends : target = .refunded ∧ order.status = .failed
    · rw [if_pos ends] at h
      obtain ⟨rfl, failed⟩ := ends
      simp only [ran_bind, ran_pure] at h
      obtain ⟨r, t'', ended, -, rfl⟩ := h
      have row := t'.projectOrder_find? .refunded (orders ▸ ordered)
      rcases ran_transitionOrder ended (by rw [key]; exact row) with ⟨stuck, -⟩ | ⟨-, -, _, _, -, rfl⟩
      · simp [failed, orderTransitions] at stuck
      · rw [Db.moveOrder_books, Db.moveOrder_floor, Db.projectOrder_books, Db.projectOrder_floor,
          books, floor, key]
        refine ⟨?_, .inr ⟨failed, rfl⟩⟩
        simp only [Books.setStatus, adjust_of_some entry, adjust_put]
        simp [Books.projectSettled, OrderEntry.of, primary, failed]
    · rw [if_neg ends] at h
      simp only [ran_pure] at h
      obtain ⟨-, rfl⟩ := h
      rw [Db.projectOrder_books, Db.projectOrder_floor, books, floor]
      refine ⟨?_, .inl rfl⟩
      simp only [adjust_of_some entry]
      simp [Books.projectSettled, OrderEntry.of, primary, ends]
  · simp only [primary, Option.filter, decide_false, Bool.false_eq_true, if_false, ran_pure] at h
    obtain ⟨-, rfl⟩ := h
    rw [books, floor]
    refine ⟨?_, .inl rfl⟩
    rw [adjust_eq_self (k := payment.orderId)]
    intro e he
    cases (Db.books_order ordered).symm.trans he
    exact if_neg primary

def Outcome (x : Posting) : Prop :=
  (∃ r s, x = .advance r s) ∨ ∃ r p o a s, x = .settle r p o a s

theorem recordOutcome {refund : Refund} {r : Refund × Bool} {t : Db} {x : Option Refund}
    (sound : db.books.Sound) (foundRefund : db.refunds.find? refund.id = some refund)
    (found : db.payments.find? refund.paymentId = some payment)
    (mine : payment.id = refund.paymentId) (open' : refund.status ∉ refundTerminal)
    (transition : Ran (transitionRefund refund target now) db r t)
    (h : Ran (if target ∈ refundTerminal then do
        settlePaymentAfterRefund payment (db.orders.find? payment.orderId) actor now
        pure (some r.1)
      else pure (some r.1)) t x db') :
    Refines Outcome (fun w => ∃ o, w = .refunded o) db db' := by
  have live := inFlight_of_not_terminal open'
  by_cases final : target ∈ refundTerminal
  · have other : refund.status ≠ target := fun same => open' (same ▸ final)
    rcases ran_transitionRefund transition foundRefund with ⟨same, -⟩ | ⟨-, -, -, rfl⟩
    · exact absurd same other
    · obtain ⟨order, ordered⟩ : ∃ order, db.orders.find? payment.orderId = some order := by
        obtain ⟨oe, ho⟩ :=
          Option.isSome_iff_exists.mp (sound.order _ _ (Db.books_payment found))
        obtain ⟨order, ordered, -⟩ := (Table.view_eq_some _).mp ho
        exact ⟨order, ordered⟩
      simp only [if_pos final, ordered, ran_bind, ran_pure] at h
      obtain ⟨u, t', settle, -, rfl⟩ := h
      have found' : db.payments.find? payment.id = some payment := by rw [mine, found]
      obtain ⟨books, floor⟩ := settlePaymentAfterRefund_effect settle found' ordered
      rw [moveRefund_final foundRefund live final, ← mine] at books
      have held := le_held foundRefund live
      have ok : db.books.ok AutomaticKey (.settle refund.id payment.id payment.orderId
          refund.amountMinor target) :=
        ⟨_, _, Db.books_refund foundRefund, mine.symm, rfl, live, final, Db.books_payment found', rfl,
          refund.amountPositive, mine ▸ held⟩
      have posted : t'.books = Books.post (.settle refund.id payment.id payment.orderId
          refund.amountMinor target) db.books := by
        simp only [Books.post, Books.settleRefund, Books.settledStatus, Db.books_payment found',
          PaymentEntry.of, if_true]
        simpa only [if_true] using books
      rcases floor with floor | ⟨failed, floor⟩
      · exact .post _ ok (.inr ⟨_, _, _, _, _, rfl⟩) posted floor
      · exact .both _ (.refunded payment.orderId) ok (.inr ⟨_, _, _, _, _, rfl⟩)
          (fun _ => ⟨_, Db.floor_order ordered, failed⟩) ⟨_, rfl⟩ posted floor
  · rw [if_neg final, ran_pure] at h
    obtain ⟨-, rfl⟩ := h
    rcases ran_transitionRefund transition foundRefund with ⟨-, -, rfl⟩ | ⟨-, -, -, rfl⟩
    · exact .refl _
    · have still := inFlight_of_not_terminal final
      exact .post (.advance refund.id target)
        ⟨_, Db.books_refund foundRefund, live, still⟩ (.inl ⟨_, _, rfl⟩)
        (moveRefund_advance foundRefund live still) rfl

theorem applyRefundOutcome_effect {k : Id} {x : Option Refund} (sound : db.books.Sound)
    (h : Ran (applyRefundOutcome k target actor now) db x db') :
    Refines Outcome (fun w => ∃ o, w = .refunded o) db db' := by
  simp only [applyRefundOutcome, PaymentRepository.findRefund, PaymentRepository.find,
    OrderRepository.find, ran_read_bind] at h
  cases foundRefund : db.refunds.find? k with
  | none =>
      simp only [foundRefund, ran_pure] at h
      exact h.2 ▸ .refl _
  | some refund =>
      simp only [foundRefund, ran_read_bind] at h
      have key : refund.id = k := Table.key_of_find? foundRefund
      subst key
      cases found : db.payments.find? refund.paymentId with
      | none =>
          simp only [found, ran_pure] at h
          exact h.2 ▸ .refl _
      | some payment =>
          have mine : payment.id = refund.paymentId := Table.key_of_find? found
          simp only [found, ran_read_bind, foundRefund, ran_require_bind, Option.some.injEq,
            exists_eq_left'] at h
          by_cases final : refund.status ∈ refundTerminal
          · simp only [final, if_true, ran_pure] at h
            exact h.2 ▸ .refl _
          · simp only [final, if_false, ran_bind] at h
            obtain ⟨r, t, transition, h⟩ := h
            exact recordOutcome sound foundRefund found mine final transition h

end Outcome
end CoffeeCloud
