import CoffeeCloud.Effects.Dispatch

/-!
What the worker does: unpaid orders expire, paid ones are queued, the channel's
word about intents and refunds is recorded, and history that is settled goes.
-/
namespace CoffeeCloud
open Library Tx PublicOrderService ProductionService

/-- Not all of the payment has gone back. -/
def Db.Keeps (db : Db) (p : Id) : Prop :=
  ∃ payment, db.payments.find? p = some payment ∧
    db.refundedTotal p [.succeeded] < payment.amountMinor

def Books.Keeps (b : Books) (p : Id) : Prop :=
  ∃ pe, b.payments p = some pe ∧ (b.balance p).spent < pe.amount

theorem Db.books_keeps {db : Db} {p : Id} : db.books.Keeps p ↔ db.Keeps p := by
  constructor
  · rintro ⟨pe, hp, left⟩
    obtain ⟨payment, row, rfl⟩ := (Table.view_eq_some _).mp hp
    exact ⟨payment, row, left⟩
  · rintro ⟨payment, row, left⟩
    exact ⟨_, Db.books_payment row, left⟩

namespace BackgroundWorkerService
variable {db db' : Db} {now : Time} {env : Env} {u : Unit}

theorem expireUnpaid_effect {picks : List Id} (h : Ran (expireUnpaid env picks now) db u db') :
    Refines Dies (fun w => ∃ o, w = .jobless o .expired) db db' := by
  simp only [expireUnpaid, OrderRepository.find] at h
  induction picks generalizing db with
  | nil =>
      simp only [ran_forEach_nil] at h
      exact h ▸ .refl _
  | cons pick picks ih =>
      simp only [ran_forEach_cons, ran_read_bind] at h
      obtain ⟨t, one, rest⟩ := h
      refine .trans ?_ (ih rest)
      split at one
      · simp only [ran_pure] at one
        exact one.2 ▸ .refl _
      · rename_i order located
        obtain ⟨found, due⟩ := Option.filter_eq_some_iff.mp located
        simp only [ran_bind, ran_pure] at one
        obtain ⟨moved, t', transition, -, rfl⟩ := one
        cases (Table.key_of_find? found : order.id = pick)
        simp only [OrderRepository.isExpiredUnpaid, Bool.and_eq_true, decide_eq_true_eq] at due
        have created : order.status = .created := due.1.1
        have legal : OrderStatus.expired ∈ orderTransitions order.status := by
          rw [created]
          decide
        obtain ⟨books, floor⟩ := transitionOrder_effect transition found (.inr legal)
        have stands : db.floor.At order.id order.status := ⟨_, Db.floor_order found, rfl⟩
        refine .both (.die order.id .expired none) (.jobless order.id .expired)
          ⟨_, Db.books_order found, legal, by decide, .inl (.inl created)⟩ ⟨_, _, _, rfl, by simp⟩
          (fun sound => ⟨sound.jobless_of_early stands (by rw [created]; decide), _, stands, legal,
            by decide⟩) ⟨_, rfl⟩ books floor

/-- Claiming an intent only puts its next reconciliation off. -/
theorem claimPayment_effect {pick : Id} {claimed : Option Payment}
    (h : Ran (claimPayment env pick now) db claimed db') : Same db db' := by
  simp only [claimPayment, WorkerRepository.claimPayment, PaymentRepository.find,
    ran_read_bind] at h
  split at h
  · simp only [ran_pure] at h
    exact h.2 ▸ ⟨rfl, rfl⟩
  · simp only [ran_bind, ran_pure] at h
    obtain ⟨_, t, schedule, -, rfl⟩ := h
    exact scheduleReconciliation_same _ _ _ _ _ schedule

/-- A reconciliation records an open intent that the channel closed, whoever paid the order. -/
structure Reconciled (db db' : Db) (payment : Payment) (target : PaymentStatus) : Prop where
  isOpen : payment.status ∈ openPaymentStatuses
  final : target ∈ [PaymentStatus.closed, .failed]
  found : db.payments.find? payment.id = some payment
  ordered : (db.orders.find? payment.orderId).isSome
  books : db'.books = Books.post (.reconcile payment.id payment.orderId target) db.books
  refines : Refines (fun x => ∃ p o t, x = .reconcile p o t) (fun w => ∃ o, w = .jobless o .cancelled)
    db db'

theorem reconciled {payment : Payment} {target : PaymentStatus} {order : Order}
    (found : db.payments.find? payment.id = some payment)
    (ordered : db.orders.find? payment.orderId = some order)
    (isOpen : payment.status ∈ openPaymentStatuses)
    (final : target ∈ [PaymentStatus.closed, .failed])
    (h : Ran (do
      let _ ← transitionPayment payment target now
      OrderRepository.updatePaymentOutcome payment.orderId target) db u db') :
    Reconciled db db' payment target := by
  rw [ran_bind] at h
  obtain ⟨r, t, transition, h⟩ := h
  simp only [OrderRepository.updatePaymentOutcome, ran_write] at h
  subst h
  have books := transitionPayment_books transition found
  obtain ⟨floor, orders⟩ := transitionPayment_rest transition found
  have posted := books_modifyOrder t (o := payment.orderId)
    (f := fun o => { o with
      paymentStatus := target
      status := if o.status ∈ [OrderStatus.created, .awaitingPayment] then .cancelled else o.status })
    (fun e => { e with
      payment := target, status := if e.status.Unpaid then .cancelled else e.status })
    (fun _ => rfl) fun r => by
      simp only [OrderEntry.of, ite_unpaid]
      rfl
  have moved := floor_adjustOrder t (o := payment.orderId)
    (f := fun o => { o with
      paymentStatus := target
      status := if o.status ∈ [OrderStatus.created, .awaitingPayment] then .cancelled else o.status })
    (fun e => { e with status := if e.status.Unpaid then .cancelled else e.status })
    (fun _ => rfl) fun r => by
      simp only [OrderPlace.of, ite_unpaid]
      rfl
  have key : order.id = payment.orderId := Table.key_of_find? ordered
  rw [books] at posted
  rw [floor] at moved
  have ok : db.books.ok AutomaticKey (.reconcile payment.id payment.orderId target) :=
    ⟨_, Db.books_payment found, rfl, isOpen, final⟩
  have entry := Db.floor_order ordered
  refine ⟨isOpen, final, found, by rw [ordered]; rfl, posted, ?_⟩
  by_cases start : order.status.Unpaid
  · refine .both _ (.jobless payment.orderId .cancelled) ok ⟨_, _, _, rfl⟩ (fun sound => ?_) ⟨_, rfl⟩
      posted ?_
    · have stands : db.floor.At payment.orderId order.status := ⟨_, entry, rfl⟩
      rcases start with start | start
      all_goals
        rw [start] at stands
        exact ⟨sound.jobless_of_early stands (by decide), _, stands, by decide, by decide⟩
    · rw [moved]
      simp only [Floor.apply, Floor.setOrder, adjust_of_some entry]
      simp [OrderPlace.of, start]
  · refine .post _ ok ⟨_, _, _, rfl⟩ posted ?_
    rw [moved, adjust_eq_self]
    intro e he
    cases entry.symm.trans he
    simp [OrderPlace.of, start]

section Reconciliation
variable {payment : Payment} {answer : PaymentApplicationService.ChannelAnswer}
  {fresh : FreshRefund} {e : Id}

theorem closingTarget_final {status : String} {target : PaymentStatus}
    (h : closingTarget? status = some target) : target ∈ [PaymentStatus.closed, .failed] := by
  simp only [closingTarget?] at h
  split at h
  · cases h
    decide
  · split at h
    · cases h
      decide
    · cases h

/-- A reconciliation reports the money as a callback would, closes the intent, or does nothing. -/
theorem reconcilePayment_cases (sound : db.books.Sound)
    (h : Ran (reconcilePayment env payment answer fresh e now) db u db') :
    (∃ eventId values r, Ran (applyPaidCallback env payment.provider eventId values fresh e now)
        db r db') ∨
      (∃ current target, current.id = payment.id ∧ closingTarget? answer.status = some target ∧
        Reconciled db db' current target) ∨ db' = db := by
  simp only [reconcilePayment] at h
  rw [ran_ite] at h
  rcases h with ⟨-, h⟩ | ⟨-, h⟩
  · simp only [ran_bind, ran_pure] at h
    obtain ⟨r, t, callback, -, rfl⟩ := h
    exact .inl ⟨_, _, r, callback⟩
  · right
    split at h
    · simp only [ran_pure] at h
      exact .inr h.2.symm
    · rename_i target closing
      simp only [OrderRepository.find, PaymentRepository.find, ran_read_bind] at h
      split at h
      · simp only [ran_pure] at h
        exact .inr h.2.symm
      · simp only [ran_read_bind] at h
        split at h
        · simp only [ran_pure] at h
          exact .inr h.2.symm
        · rename_i current located
          obtain ⟨found, isOpen⟩ := Option.filter_eq_some_iff.mp located
          have key : current.id = payment.id := Table.key_of_find? found
          have entry := Db.books_payment found
          obtain ⟨oe, ho⟩ := Option.isSome_iff_exists.mp (sound.order _ _ entry)
          obtain ⟨order, ordered, -⟩ := (Table.view_eq_some _).mp ho
          refine .inl ⟨current, target, key, closing, ?_⟩
          exact reconciled (key ▸ found) ordered (by simpa using isOpen) (closingTarget_final closing) h

/-- What the channel's word about an intent may post. -/
def Reconciles (x : Posting) : Prop := Collect x ∨ ∃ p o t, x = .reconcile p o t

theorem reconcilePayment_effect (sound : db.books.Sound)
    (h : Ran (reconcilePayment env payment answer fresh e now) db u db') :
    Refines Reconciles (fun w => ∃ o, w = .jobless o .paid ∨ w = .jobless o .cancelled) db db' := by
  rcases reconcilePayment_cases sound h with ⟨_, _, r, callback⟩ | ⟨_, _, -, -, done⟩ | rfl
  · rcases applyPaidCallback_effect sound callback with ⟨-, -, replayed⟩ | ⟨-, -, refines⟩
    · exact .of_same replayed.same
    · exact refines.mono (fun _ => .inl) fun _ ⟨o, hw⟩ => ⟨o, .inl hw⟩
  · exact done.refines.mono (fun _ => .inr) fun _ ⟨o, hw⟩ => ⟨o, .inr hw⟩
  · exact .refl _

end Reconciliation

section Refunds

/-- A refund as it was but for its bookkeeping. -/
theorem same_modifyRefund {k : Id} {f : Refund → Refund} (hf : ∀ r, (f r).id = r.id)
    (same : ∀ r, RefundEntry.of (f r) = RefundEntry.of r) :
    Follows Same (PaymentRepository.modifyRefund k f hf) := by
  refine follows_write fun db => ⟨?_, rfl⟩
  simp only [Db.books]
  rw [balanceOf_touch hf same, Table.view_modify_same RefundEntry.of hf fun r _ => same r]

theorem markRefundAttempt_same (k : Id) : Follows Same (WorkerRepository.markRefundAttempt k now) :=
  same_modifyRefund _ fun _ => rfl

theorem scheduleRefund_same (k : Id) : Follows Same (PaymentRepository.scheduleRefund k now) :=
  same_modifyRefund _ fun _ => rfl

theorem scheduleProcessingRefund_same (k : Id) :
    Follows Same (PaymentRepository.scheduleProcessingRefund k now) :=
  same_modifyRefund _ fun _ => rfl

/-- A claimed refund goes to the channel. -/
theorem claimRefund_effect {pick : Id} {claimed : Option Refund}
    (h : Ran (claimRefund pick now) db claimed db') : Refines Outcome (fun _ => False) db db' := by
  simp only [claimRefund, WorkerRepository.claimRefund, PaymentRepository.find, ran_read_bind] at h
  split at h
  · simp only [ran_pure] at h
    exact h.2 ▸ .refl _
  · rename_i refund located
    obtain ⟨found, due⟩ := Option.filter_eq_some_iff.mp located
    simp only [WorkerRepository.isClaimableRefund, Bool.and_eq_true, decide_eq_true_eq] at due
    cases (Table.key_of_find? found : refund.id = pick)
    simp only [ran_read_bind] at h
    split at h
    · simp only [ran_pure] at h
      exact h.2 ▸ .refl _
    · rw [ran_ite] at h
      rcases h with ⟨-, h⟩ | ⟨-, h⟩
      · simp only [ran_bind, ran_pure] at h
        obtain ⟨r, t, transition, _, t', mark, -, rfl⟩ := h
        refine .trans ?_ (.of_same (markRefundAttempt_same _ _ _ _ mark))
        rcases ran_transitionRefund transition found with ⟨-, -, rfl⟩ | ⟨-, -, -, rfl⟩
        · exact .refl _
        · exact .post (.advance refund.id .processing)
            ⟨_, Db.books_refund found, due.1, by decide⟩ (.inl ⟨_, _, rfl⟩)
            (moveRefund_advance found due.1 (by decide)) rfl
      · simp only [ran_bind, ran_pure] at h
        obtain ⟨_, t', mark, -, rfl⟩ := h
        exact .of_same (markRefundAttempt_same _ _ _ _ mark)

theorem recordRefund_effect {k : Id} {answer : RefundAnswer} (sound : db.books.Sound)
    (h : Ran (recordRefund k answer now) db u db') :
    Refines Outcome (fun w => ∃ o, w = .refunded o) db db' := by
  simp only [recordRefund] at h
  rw [ran_bind] at h
  obtain ⟨current, t, applied, h⟩ := h
  refine (applyRefundOutcome_effect sound applied).trans ?_
  split at h
  · simp only [ran_pure] at h
    exact h.2 ▸ .refl _
  · rw [ran_ite] at h
    rcases h with ⟨-, h⟩ | ⟨-, h⟩
    · exact .of_same (scheduleRefund_same _ _ _ _ h)
    · rw [ran_ite] at h
      rcases h with ⟨-, h⟩ | ⟨-, h⟩
      · exact .of_same (scheduleProcessingRefund_same _ _ _ _ h)
      · simp only [ran_pure] at h
        exact h.2 ▸ .refl _

end Refunds

section History

/-- Processed events go one after the other. -/
theorem purged (ks : List Id) {b : Books}
    (settled : ∀ k ∈ ks, ∀ e, b.events k = some e → e.processed = true) :
    Books.machine.ReachableBy (Posts fun x => ∃ e, x = .purge e) b
      { b with events := ks.foldl drop b.events } := by
  induction ks generalizing b with
  | nil => exact .refl _
  | cons k ks ih =>
      have later : ∀ i ∈ ks, ∀ e, drop b.events k i = some e → e.processed = true :=
        fun i hi e he => settled i (List.mem_cons_of_mem _ hi) e (drop_some he)
      have first : Books.machine.ReachableBy (Posts fun x => ∃ e, x = .purge e) b
          { b with events := drop b.events k } := by
        cases found : b.events k with
        | none =>
            rw [drop_eq_self found]
            exact .refl _
        | some e =>
            exact .single (a := Posting.purge k)
              ⟨⟨e, found, settled k List.mem_cons_self e found⟩, _, rfl⟩
      exact first.trans (ih (b := { b with events := drop b.events k }) later)

/-- Published slips go one after the other. -/
theorem discarded (ks : List Id) {f : Floor}
    (published : ∀ k ∈ ks, ∀ s, f.slips k = some s → s.status = .published) :
    Floor.machine.ReachableBy (Works fun w => ∃ x, w = .discard x) f
      { f with slips := ks.foldl drop f.slips } := by
  induction ks generalizing f with
  | nil => exact .refl _
  | cons k ks ih =>
      have later : ∀ i ∈ ks, ∀ s, drop f.slips k i = some s → s.status = .published :=
        fun i hi s hs => published i (List.mem_cons_of_mem _ hi) s (drop_some hs)
      have first : Floor.machine.ReachableBy (Works fun w => ∃ x, w = .discard x) f
          { f with slips := drop f.slips k } := by
        cases found : f.slips k with
        | none =>
            rw [drop_eq_self found]
            exact .refl _
        | some s =>
            exact .single (a := Work.discard k)
              ⟨⟨s, found, published k List.mem_cons_self s found⟩, _, rfl⟩
      exact first.trans (ih (f := { f with slips := drop f.slips k }) later)

/-- Only settled history goes. -/
theorem cleanupHistory_effect {events : List (Id × String)} {business outbox : List Id}
    (h : Ran (WorkerRepository.cleanupHistory env events business outbox now) db u db') :
    Refines (fun x => ∃ e, x = .purge e) (fun w => ∃ x, w = .discard x) db db' := by
  simp only [WorkerRepository.cleanupHistory, ran_write] at h
  subst h
  constructor
  · simp only [Db.books, Table.view_deleteWhere]
    refine purged _ fun k hk e he => ?_
    obtain ⟨row, found, gone⟩ := Table.mem_keysWhere.mp hk
    cases (Table.view_of_find? EventEntry.of found).symm.trans he
    simp only [Bool.and_eq_true, decide_eq_true_eq] at gone
    simpa [EventEntry.of] using gone.1.2
  · intro _
    simp only [Db.floor, Table.view_deleteWhere]
    refine discarded _ fun k hk s hs => ?_
    obtain ⟨row, found, gone⟩ := Table.mem_keysWhere.mp hk
    cases (Table.view_of_find? Slip.of found).symm.trans hs
    simp only [Bool.and_eq_true, decide_eq_true_eq] at gone
    exact gone.1.2

end History



section Batch
variable {event : BusinessEvent} {fresh : FreshJob}

/-- What a batch may do to the floor: a paid order gets its job. -/
def Queues (w : Work) : Prop := ∃ o j t k, w = .queue o j t k

/-- The claimed events are rows of the outbox, each once, and nothing sees the difference. -/
theorem claimBusinessEvents_effect {picks : List Id} {events : List BusinessEvent}
    (h : Ran (WorkerRepository.claimBusinessEvents now picks) db events db') :
    Same db db' ∧ db'.orders = db.orders ∧ (events.map (·.id)).Nodup ∧
      (∀ k, k ∉ events.map (·.id) → db'.businessOutbox.find? k = db.businessOutbox.find? k) ∧
      ∀ e ∈ events, db'.businessOutbox.find? e.id = some e ∧ e.status = .processing ∧
        e.id ∈ picks ∧ ∃ row, db.businessOutbox.find? e.id = some row ∧
          WorkerRepository.isClaimableEvent now row = true ∧ e = { row with status := .processing } := by
  induction picks generalizing db events with
  | nil =>
      simp only [WorkerRepository.claimBusinessEvents, ran_pure] at h
      obtain ⟨rfl, rfl⟩ := h
      exact ⟨⟨rfl, rfl⟩, rfl, by simp, fun _ _ => rfl, by simp⟩
  | cons pick picks ih =>
      simp only [WorkerRepository.claimBusinessEvents, ran_read_bind, id_eq] at h
      split at h
      · obtain ⟨same, orders, once, others, rows⟩ := ih h
        refine ⟨same, orders, once, others, fun e he => ?_⟩
        obtain ⟨row, taken, picked, found⟩ := rows e he
        exact ⟨row, taken, List.mem_cons_of_mem _ picked, found⟩
      · rename_i row located
        obtain ⟨found, due⟩ := Option.filter_eq_some_iff.mp located
        cases (Table.key_of_find? found : row.id = pick)
        have found : db.businessOutbox.find? row.id = some row := found
        rw [ran_write_bind, ran_bind] at h
        obtain ⟨rest, t, later, h⟩ := h
        simp only [ran_pure] at h
        obtain ⟨rfl, rfl⟩ := h
        obtain ⟨same, orders, once, others, rows⟩ := ih later
        have taken : Table.find? (db.businessOutbox.modify row.id
            (fun e => { e with status := EventStatus.processing }) fun _ => rfl) row.id =
            some { row with status := .processing } := by
          rw [Table.find?_modify, if_pos rfl, found]
          rfl
        have alone : row.id ∉ rest.map (·.id) := by
          intro mem
          obtain ⟨e, he, key⟩ := List.mem_map.mp mem
          obtain ⟨-, -, -, row', found', due', -⟩ := rows e he
          rw [key, taken] at found'
          cases found'
          simp [WorkerRepository.isClaimableEvent] at due'
        refine ⟨⟨?_, same.floor⟩, orders, List.nodup_cons.mpr ⟨alone, once⟩, ?_, ?_⟩
        · rw [same.books]
          simp only [Db.books]
          congr 1
          refine Table.view_modify_same EventEntry.of _ fun r hr => ?_
          cases hr.symm.trans found
          simp only [WorkerRepository.isClaimableEvent, Bool.and_eq_true, decide_eq_true_eq,
            List.mem_cons, List.not_mem_nil, or_false] at due
          rcases due.1 with h | h <;> simp [EventEntry.of, h]
        · intro k hk
          simp only [List.map_cons, List.mem_cons, not_or] at hk
          rw [others k hk.2, Table.find?_modify, if_neg hk.1]
        · intro e he
          rcases List.mem_cons.mp he with rfl | he
          · exact ⟨(others _ alone).trans taken, rfl, List.mem_cons_self, row, found, due, rfl⟩
          · obtain ⟨left, taken', picked, row', found', due', eq⟩ := rows e he
            have other : e.id ≠ row.id := fun same => alone (same ▸ List.mem_map_of_mem he)
            rw [Table.find?_modify, if_neg other] at found'
            exact ⟨left, taken', List.mem_cons_of_mem _ picked, row', found', due', eq⟩

/-- What a batch leaves as it was: the money, and of every order all but that it may be queued. -/
structure Queued (db db' : Db) : Prop where
  payments : db'.payments = db.payments
  refunds : db'.refunds = db.refunds
  orders : ∀ o order', db'.orders.find? o = some order' → ∃ order, db.orders.find? o = some order ∧
    order'.paymentStatus = order.paymentStatus ∧ order'.paidPaymentId = order.paidPaymentId ∧
    (order'.status = .paid → order.status = .paid)

theorem Queued.of_eq (payments : db'.payments = db.payments) (refunds : db'.refunds = db.refunds)
    (orders : db'.orders = db.orders) : Queued db db' :=
  ⟨payments, refunds, fun _ order found => ⟨order, by rw [← orders, found], rfl, rfl, id⟩⟩

instance : IsPreorder Db Queued where
  refl _ := .of_eq rfl rfl rfl
  trans _ _ _ h k := by
    refine ⟨k.payments.trans h.payments, k.refunds.trans h.refunds, fun o order'' found => ?_⟩
    obtain ⟨order', found, payment, primary, paid⟩ := k.orders o order'' found
    obtain ⟨order, found, payment', primary', paid'⟩ := h.orders o order' found
    exact ⟨order, found, payment.trans payment', primary.trans primary', paid' ∘ paid⟩

/-- The order of the event is not one that waits for its job. -/
def Idle (db : Db) (event : BusinessEvent) : Prop :=
  ∀ order, db.orders.find? event.orderId = some order → order.status = .paid →
    order.paymentStatus ≠ .paid ∨ order.paidPaymentId.any (· ≠ event.paymentId)

/-- A paid order has no job yet and gets one; an order past that has its job. -/
theorem ensureJob_effect {order : Order} (floorSound : db.floor.Sound)
    (found : db.orders.find? order.id = some order) (live : order.status ∉ finalOrders)
    (started : ¬ order.status.Unpaid) (h : Ran (ensureJob order fresh now) db u db') :
    order.status ≠ .paid ∧ db' = db ∨
      order.status = .paid ∧ db.floor.Jobless order.id ∧ db.jobs.find? fresh.jobId = none ∧
        db' = { db with
          jobs := db.jobs.insert (OrderRepository.queuedJob fresh.jobId fresh.taskId order.id
            order.terminalId order.product.estimatedDurationSeconds now) } := by
  have stands : db.floor.At order.id order.status := ⟨_, Db.floor_order found, rfl⟩
  simp only [ensureJob, OrderRepository.job, ran_read_bind] at h
  by_cases paid : order.status = .paid
  · have alone := floorSound.jobless_of_early stands (by rw [paid]; decide)
    split at h
    · rename_i job located
      obtain ⟨row, mine⟩ := first_job located
      have mine : job.orderId = order.id := by simpa using mine
      exact absurd mine (alone job.id _ (Db.floor_job row))
    · obtain ⟨new, left⟩ := insertProductionJob_effect h
      exact .inr ⟨paid, alone, new, left⟩
  · split at h
    · simp only [ran_pure] at h
      exact .inl ⟨paid, h.2.symm⟩
    · rename_i none
      have alone : db.floor.Jobless order.id := by
        intro j e hj mine
        obtain ⟨job, row, rfl⟩ := (Table.view_eq_some _).mp hj
        have other := Table.first?_none.mp none job (Table.mem_of_find? row)
        have mine : job.orderId = order.id := mine
        simp [mine] at other
      have together := floorSound.jobless _ _ stands alone
      exfalso
      revert live started paid together
      cases order.status <;> decide

theorem requestDispatch_rest {terminalId : Id} (h : Ran (requestDispatch terminalId now) db u db') :
    db'.businessOutbox = db.businessOutbox ∧ db'.orders = db.orders ∧
      db'.payments = db.payments ∧ db'.refunds = db.refunds := by
  simp only [requestDispatch, DispatchRepository.enqueue, ran_write] at h
  subst h
  exact ⟨rfl, rfl, rfl, rfl⟩

/-- A paid event finds nothing to do, or its order gets the job and is queued. -/
theorem processPaidEvent_cases (sound : db.books.Sound) (floorSound : db.floor.Sound)
    (h : Ran (processPaidEvent event fresh now) db u db') :
    db'.businessOutbox = db.businessOutbox ∧ Queued db db' ∧
      (Same db db' ∧ Idle db event ∨
        ∃ order task, db.orders.find? event.orderId = some order ∧ order.status = .paid ∧
          order.paymentStatus = .paid ∧
          db'.books = Books.setStatus event.orderId .queued db.books ∧
          db.floor.ok (.queue event.orderId fresh.jobId order.terminalId task) ∧
          db'.floor = Floor.apply (.queue event.orderId fresh.jobId order.terminalId task)
            db.floor) := by
  simp only [processPaidEvent, OrderRepository.findWithTerminal, ran_read_bind] at h
  split at h
  · rename_i absent
    simp only [ran_pure] at h
    obtain ⟨-, rfl⟩ := h
    refine ⟨rfl, .of_eq rfl rfl rfl, .inl ⟨⟨rfl, rfl⟩, fun order found waiting => .inl fun paid => ?_⟩⟩
    have hosted : (db.terminals.find? order.terminalId).isSome = true :=
      floorSound.hosted _ _ (Db.floor_order found)
    rw [found, Option.filter_some, if_pos hosted, Option.filter_some, if_pos (by simpa using paid)]
      at absent
    cases absent
  · rename_i order located
    obtain ⟨joined, paid⟩ := Option.filter_eq_some_iff.mp located
    obtain ⟨found, -⟩ := Option.filter_eq_some_iff.mp joined
    simp only [decide_eq_true_eq] at paid
    have key : order.id = event.orderId := Table.key_of_find? found
    have entry := Db.floor_order found
    have idle (h : order.status ≠ .paid ∨ order.paidPaymentId.any (· ≠ event.paymentId)) :
        Idle db event := by
      intro order' found' waiting
      cases found.symm.trans found'
      exact h.elim (fun no => absurd waiting no) .inr
    rw [ran_ite] at h
    rcases h with ⟨final, h⟩ | ⟨live, h⟩
    · simp only [ran_pure] at h
      obtain ⟨-, rfl⟩ := h
      have early : order.status ≠ .paid := by
        rintro same
        rw [same] at final
        exact absurd final (by decide)
      exact ⟨rfl, .of_eq rfl rfl rfl, .inl ⟨⟨rfl, rfl⟩, idle (.inl early)⟩⟩
    · rw [ran_ite] at h
      rcases h with ⟨other, h⟩ | ⟨-, h⟩
      · simp only [ran_pure] at h
        obtain ⟨-, rfl⟩ := h
        exact ⟨rfl, .of_eq rfl rfl rfl, .inl ⟨⟨rfl, rfl⟩, idle (.inr other)⟩⟩
      · rw [ran_bind] at h
        obtain ⟨_, t, job, h⟩ := h
        rw [ran_bind] at h
        obtain ⟨_, t', transition, request⟩ := h
        have requested : Same t' db' := enqueue_same _ _ _ _ request
        obtain ⟨outbox, orders, payments, refunds⟩ := requestDispatch_rest request
        rw [← key] at found
        have unpaid : ¬ order.status.Unpaid :=
          sound.started _ _ (Db.books_order found) (sound.paid _ _ (Db.books_order found) paid)
        rw [ran_onlyIf] at transition
        rcases ensureJob_effect floorSound found live unpaid job with
          ⟨past, rfl⟩ | ⟨waiting, alone, new, rfl⟩
        · obtain ⟨same, -⟩ | ⟨-, rfl⟩ := transition
          · exact absurd same past
          · exact ⟨outbox, .of_eq payments refunds orders, .inl ⟨requested, idle (.inl past)⟩⟩
        · obtain ⟨-, transition⟩ | ⟨past, -⟩ := transition
          · simp only [ran_bind, ran_pure] at transition
            obtain ⟨moved, t, transition, -, rfl⟩ := transition
            obtain ⟨stuck, -⟩ | ⟨-, -, _, _, -, rfl⟩ := ran_transitionOrder transition found
            · simp [waiting, orderTransitions] at stuck
            · refine ⟨outbox, ⟨payments, refunds, fun o order' row => ?_⟩,
                .inr ⟨order, fresh.taskId, key ▸ found, waiting, paid, ?_, ⟨?_, ?_, ?_, ?_⟩, ?_⟩⟩
              · simp only [orders, Db.moveOrder, Table.find?_modify] at row
                split at row
                · rename_i same
                  rw [same, found] at row
                  cases row
                  exact ⟨order, same ▸ found, rfl, rfl, fun waits => by simp [Order.moved] at waits⟩
                · exact ⟨order', row, rfl, rfl, id⟩
              · rw [requested.books, Db.moveOrder_books, key]
                rfl
              · exact key ▸ alone
              · exact ⟨_, Db.floor_order (key ▸ found), waiting⟩
              · exact (Table.view_eq_none JobEntry.of).mpr new
              · exact ⟨_, Db.floor_order (key ▸ found), rfl⟩
              · rw [requested.floor, Db.moveOrder_floor, key]
                simp only [Db.floor, Floor.setOrder, Floor.apply]
                rw [Table.view_insert JobEntry.of new]
                rfl
          · exact absurd waiting past

/-- The event is marked, and no other one is. -/
theorem markEvent {f : BusinessEvent → BusinessEvent} {hf : ∀ e, (f e).id = e.id} {k : Id}
    (h : Ran (Tx.write fun db : Db => { db with
      businessOutbox := db.businessOutbox.modify k f hf } : Sql Unit) db u db') :
    (∀ i, i ≠ k → db'.businessOutbox.find? i = db.businessOutbox.find? i) ∧ Queued db db' ∧
      db'.floor = db.floor ∧
      db'.books = { db.books with events := (db.businessOutbox.modify k f hf).view EventEntry.of } := by
  simp only [ran_write] at h
  subst h
  refine ⟨fun i hi => ?_, .of_eq rfl rfl rfl, rfl, rfl⟩
  rw [Table.find?_modify, if_neg hi]

/-- An event that is handled is kept for another try, or it is processed and its order queued where
it waits for that. -/
structure Handled (db db' : Db) (event : BusinessEvent) (job : Id) (queued : Bool) : Prop where
  ok : db.books.ok AutomaticKey (.process event.id event.orderId queued)
  books : db'.books = Books.post (.process event.id event.orderId queued) db.books
  floor : Floor.machine.ReachableBy (Works Queues) db.floor db'.floor

theorem handleEvent_cases {disturbed : Bool} (sound : db.books.Sound) (floorSound : db.floor.Sound)
    (row : db.businessOutbox.find? event.id = some event) (taken : event.status = .processing)
    (h : Ran (handleEvent event disturbed fresh now) db u db') :
    (∀ k, k ≠ event.id → db'.businessOutbox.find? k = db.businessOutbox.find? k) ∧
      Queued db db' ∧
      (Same db db' ∨ disturbed = false ∧ ∃ queued, Handled db db' event fresh.jobId queued) := by
  have entry := Db.books_event row
  simp only [handleEvent] at h
  rw [ran_bind] at h
  obtain ⟨handled, t, inner, h⟩ := h
  rcases (ran_savepoint _ _ _ _).mp inner with ⟨_, rfl, ran⟩ | ⟨_, rfl, -, rfl⟩
  · simp only [ran_pure] at h
    obtain ⟨-, rfl⟩ := h
    rw [ran_bind] at ran
    obtain ⟨_, t₁, process, ran⟩ := ran
    rw [ran_ensure_bind] at ran
    obtain ⟨calm, mark⟩ := ran
    obtain ⟨outbox, queued, cases⟩ := processPaidEvent_cases sound floorSound process
    obtain ⟨others, still, floor, books⟩ := markEvent mark
    refine ⟨fun k hk => by rw [others k hk, outbox], IsTrans.trans _ _ _ queued still, .inr ⟨calm, ?_⟩⟩
    have processed : t.books = { t₁.books with
        events := adjust t₁.books.events event.id fun e => { e with processed := true } } := by
      have marked := Table.view_modify (t := t₁.businessOutbox) (k := event.id)
        (f := fun e : BusinessEvent => { e with status := .processed, processedAt := some now })
        EventEntry.of (fun e => { e with processed := true }) (fun _ => rfl)
        fun _ => by simp [EventEntry.of]
      rw [books, marked]
      rfl
    rcases cases with ⟨same, idle⟩ | ⟨order, task, found, waiting, paid, posted, ready, moved⟩
    · refine ⟨false, ⟨_, entry, rfl, by simp [EventEntry.of, taken], ?_⟩, ?_, ?_⟩
      · intro oe ho waits
        obtain ⟨order, found, rfl⟩ := (Table.view_eq_some _).mp ho
        exact idle order found waits
      · rw [processed, same.books]
        rfl
      · rw [floor, same.floor]
        exact .refl _
    · refine ⟨true, ⟨_, entry, rfl, by simp [EventEntry.of, taken], ?_⟩, ?_, ?_⟩
      · intro oe ho
        cases (Db.books_order found).symm.trans ho
        exact ⟨waiting, paid⟩
      · rw [processed, posted]
        rfl
      · rw [floor, moved]
        exact .single (a := Work.queue event.orderId fresh.jobId order.terminalId task)
          ⟨ready, _, _, _, _, rfl⟩
  · obtain ⟨others, still, floor, books⟩ := markEvent h
    refine ⟨others, still, .inl ⟨?_, floor⟩⟩
    rw [books]
    simp only [Db.books]
    congr 1
    refine Table.view_modify_same EventEntry.of _ fun r hr => ?_
    cases hr.symm.trans row
    simp [EventEntry.of, taken]
/-- What a batch may post. -/
def Processes (x : Posting) : Prop := ∃ e o queued, x = .process e o queued

/-- The batch processes the event of a paid order that does not show PAID, though not all of its
money has gone back. -/
def LosesOrder (db : Db) (picks : List Id) (disturbed : Id → Bool) (now : Time) : Prop :=
  ∃ pick ∈ picks, disturbed pick = false ∧ ∃ event, db.businessOutbox.find? pick = some event ∧
    WorkerRepository.isClaimableEvent now event = true ∧
    ∃ order p, db.orders.find? event.orderId = some order ∧ order.status = .paid ∧
      order.paymentStatus ≠ .paid ∧ order.paidPaymentId = some p ∧ db.Keeps p

/-- The same as the books see it. -/
def Strands (b : Books) (x : Posting) : Prop :=
  ∃ e o, x = .process e o false ∧ ∃ oe p, b.orders o = some oe ∧ oe.status = .paid ∧
    oe.primary = some p ∧ b.Keeps p

theorem strands_of_queued {e o : Id} {start : Db} (since : Queued start db)
    (sound : db.books.Sound) (ok : db.books.ok AutomaticKey (.process e o false))
    (strands : Strands db.books (.process e o false)) :
    ∃ order p, start.orders.find? o = some order ∧ order.status = .paid ∧
      order.paymentStatus ≠ .paid ∧ order.paidPaymentId = some p ∧ start.Keeps p := by
  obtain ⟨e', o', same, oe, p, ho, waiting, primary, keeps⟩ := strands
  cases same
  obtain ⟨ee, he, mine, -, idle⟩ := ok
  obtain ⟨-, oe', -, -, -, ho', shown⟩ := sound.event e ee he
  rw [mine, ho] at ho'
  cases ho'
  have unpaid : oe.payment ≠ .paid := by
    rcases idle oe ho waiting with unpaid | other
    · exact unpaid
    · simp [shown] at other
  obtain ⟨order', found', rfl⟩ := (Table.view_eq_some _).mp ho
  obtain ⟨order, found, payment, primary', paid⟩ := since.orders o order' found'
  refine ⟨order, p, found, paid waiting, payment ▸ unpaid, primary' ▸ primary, ?_⟩
  simpa only [Db.Keeps, Db.refundedTotal, since.payments, since.refunds] using
    Db.books_keeps.mp keeps

/-- The claimed events are handled one after the other. -/
theorem handleAll_effect {start : Db} {lost : Prop} {events : List BusinessEvent}
    {disturbed : Id → Bool} {fresh : Id → FreshJob} (sound : db.books.Sound) (floorSound : db.floor.Sound)
    (since : Queued start db) (once : (events.map (·.id)).Nodup)
    (rows : ∀ e ∈ events, db.businessOutbox.find? e.id = some e ∧ e.status = .processing)
    (loses : ∀ e ∈ events, disturbed e.id = false → ∀ order p,
      start.orders.find? e.orderId = some order → order.status = .paid →
      order.paymentStatus ≠ .paid → order.paidPaymentId = some p → start.Keeps p → lost)
    (h : Ran (Tx.forEach events fun event =>
      handleEvent event (disturbed event.id) (fresh event.id) now) db u db') :
    Books.machine.ReachableBy (fun b x => Posts Processes b x ∧ (Strands b x → lost))
        db.books db'.books ∧
      Floor.machine.ReachableBy (Works Queues) db.floor db'.floor := by
  induction events generalizing db with
  | nil =>
      simp only [ran_forEach_nil] at h
      exact h ▸ ⟨.refl _, .refl _⟩
  | cons event events ih =>
      simp only [ran_forEach_cons] at h
      obtain ⟨t, one, rest⟩ := h
      obtain ⟨row, taken⟩ := rows event List.mem_cons_self
      obtain ⟨alone, once⟩ := List.nodup_cons.mp once
      obtain ⟨others, queued, cases⟩ := handleEvent_cases sound floorSound row taken one
      have left : ∀ e ∈ events, t.businessOutbox.find? e.id = some e ∧ e.status = .processing := by
        intro e he
        have other : e.id ≠ event.id := fun same => alone (List.mem_map.mpr ⟨e, he, same⟩)
        rw [others e.id other]
        exact rows e (List.mem_cons_of_mem _ he)
      have loses' := fun e he => loses e (List.mem_cons_of_mem _ he)
      have since' : Queued start t := IsTrans.trans _ _ _ since queued
      rcases cases with same | ⟨calm, q, handled⟩
      · rw [← same.books, ← same.floor]
        exact ih (same.books ▸ sound) (same.floor ▸ floorSound) since' once left loses' rest
      · have step : Posts Processes db.books (.process event.id event.orderId q) :=
          ⟨handled.ok, _, _, _, rfl⟩
        have kept : Strands db.books (.process event.id event.orderId q) → lost := by
          intro strands
          cases q with
          | true => simp [Strands] at strands
          | false =>
              obtain ⟨order, p, found, waiting, unpaid, primary, keeps⟩ :=
                strands_of_queued since sound handled.ok strands
              exact loses event List.mem_cons_self calm order p found waiting unpaid primary keeps
        have first : Books.machine.ReachableBy (fun b x => Posts Processes b x ∧ (Strands b x → lost))
            db.books t.books := by
          rw [handled.books]
          exact .single (a := Posting.process event.id event.orderId q) ⟨step, kept⟩
        have booksSound : t.books.Sound := handled.books ▸ step.sound sound
        have floorSound : t.floor.Sound :=
          handled.floor.invariant floorSound fun _ _ => Works.sound
        obtain ⟨books, floor⟩ := ih booksSound floorSound since' once left loses' rest
        exact ⟨first.trans books, handled.floor.trans floor⟩

theorem processBusinessOutboxBatch_effect {picks : List Id} {disturbed : Id → Bool}
    {fresh : Id → FreshJob} (sound : db.books.Sound) (floorSound : db.floor.Sound)
    (h : Ran (processBusinessOutboxBatch picks disturbed fresh now) db u db') :
    Books.machine.ReachableBy (fun b x => Posts Processes b x ∧
        (Strands b x → LosesOrder db picks disturbed now)) db.books db'.books ∧
      Floor.machine.ReachableBy (Works Queues) db.floor db'.floor := by
  simp only [processBusinessOutboxBatch] at h
  rw [ran_bind] at h
  obtain ⟨events, t, claim, h⟩ := h
  obtain ⟨same, orders, once, -, rows⟩ := claimBusinessEvents_effect claim
  rw [← same.books, ← same.floor]
  refine handleAll_effect (same.books ▸ sound) (same.floor ▸ floorSound) (Std.Refl.refl t) once
    (fun e he => ⟨(rows e he).1, (rows e he).2.1⟩) ?_ h
  intro e he calm order p found waiting unpaid primary keeps
  obtain ⟨-, -, picked, row, claimed, due, eq⟩ := rows e he
  have kept : db.Keeps p := Db.books_keeps.mp (same.books ▸ Db.books_keeps.mpr keeps)
  rw [orders] at found
  refine ⟨e.id, picked, calm, row, claimed, due, order, p, ?_, waiting, unpaid, primary, kept⟩
  rw [eq] at found
  exact found

end Batch

section Dispatching
variable {request : DispatchRequest}

theorem retryDispatch_same (h : Ran (retryDispatch request now) db u db') : Same db db' := by
  simp only [retryDispatch, DispatchRepository.retry, ran_write] at h
  exact h ▸ ⟨rfl, rfl⟩

theorem claimDispatch_same {pick : Id} {claimed : Option DispatchRequest}
    (h : Ran (claimDispatch pick now) db claimed db') : Same db db' := by
  simp only [claimDispatch, DispatchRepository.claim, ran_read_bind, id_eq] at h
  split at h
  · simp only [ran_pure] at h
    exact h.2 ▸ ⟨rfl, rfl⟩
  · simp only [ran_write_bind, ran_read] at h
    exact h.2 ▸ ⟨rfl, rfl⟩

theorem repairMissing_same {limit n : Nat} (h : Ran (DispatchRepository.repairMissing limit now) db n db') :
    Same db db' := by
  simp only [DispatchRepository.repairMissing, ran_read_bind, id_eq] at h
  rw [ran_bind] at h
  obtain ⟨_, t, loop, h⟩ := h
  simp only [ran_pure] at h
  refine h.2 ▸ follows_forEach (fun _ _ => ?_) _ _ _ loop
  exact follows_write fun _ => ⟨rfl, rfl⟩

theorem processDispatch_effect {fresh : FreshCommand} {reason : DispatchReason}
    (h : Ran (processDispatch env request fresh now) db reason db') :
    Refines Reports Work.Dispatches db db' := by
  simp only [processDispatch, OrderRepository.nextQueuedJob] at h
  rw [ran_bind] at h
  obtain ⟨outcome, t, dispatch, h⟩ := h
  refine (dispatchNextOrderResult_effect dispatch).trans (.of_same ?_)
  rw [ran_read_bind, ran_ite] at h
  rcases h with ⟨-, h⟩ | ⟨-, h⟩
  · simp only [DispatchRepository.retry, ran_write_bind, ran_pure] at h
    exact h.2 ▸ ⟨rfl, rfl⟩
  · simp only [DispatchRepository.complete, ran_write_bind, ran_pure] at h
    exact h.2 ▸ ⟨rfl, rfl⟩

theorem markOffline_effect {clock : Time} (h : Ran (markOffline env clock) db u db') :
    Same db db' := by
  simp only [markOffline, WorkerRepository.markOffline, ran_write] at h
  subst h
  refine ⟨rfl, ?_⟩
  simp only [Db.floor]
  congr 1
  funext i
  simp [Table.find?_modifyWhere]

end Dispatching

end BackgroundWorkerService
end CoffeeCloud
