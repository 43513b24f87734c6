import CoffeeCloud.Effects.RefundIntents

/-!
What a paid callback does: a replay leaves the books as they are, new money is
received by a live order or paid back.
-/
namespace CoffeeCloud
open Library Tx

variable {db db' : Db} {payment : Payment} {order : Order} {now : Time} {env : Env}
  {fresh : FreshRefund}

theorem eventKey_injective {p q : Nat} (h : eventKey p = eventKey q) : p = q := by
  have digits : p.repr = q.repr := by simpa [eventKey, toString] using h
  rw [← Nat.ofDigitChars_ten_toDigits (n := p), ← Nat.toList_repr, digits]
  simp [Nat.toList_repr]

theorem ite_unpaid {α : Type} (s : OrderStatus) (a b : α) :
    (if s ∈ [.created, .awaitingPayment] then a else b) = if s.Unpaid then a else b :=
  if_congr (by simp [OrderStatus.Unpaid]) rfl rfl

/-- The trade number is the one column a callback may change on a payment it replays. -/
theorem recordTradeNo_effect {tradeNo : Option String} {r : Payment}
    (h : Ran (recordTradeNo payment tradeNo) db r db')
    (found : db.payments.find? payment.id = some payment) :
    db'.payments.find? payment.id = some r ∧ PaymentEntry.of r = .of payment ∧ r.id = payment.id ∧
      r.orderId = payment.orderId ∧ r.amountMinor = payment.amountMinor ∧
      r.status = payment.status ∧
      ∃ t : Table Payment, db' = { db with payments := t } ∧
        t.view PaymentEntry.of = db.payments.view PaymentEntry.of := by
  cases tradeNo with
  | none =>
      simp only [recordTradeNo, ran_pure] at h
      obtain ⟨rfl, rfl⟩ := h
      exact ⟨found, rfl, rfl, rfl, rfl, rfl, _, rfl, rfl⟩
  | some incoming =>
      simp only [recordTradeNo, PaymentRepository.tradeNoTaken, ran_read_bind, ran_ensure_bind] at h
      obtain ⟨-, -, h⟩ := h
      obtain ⟨p, row, rfl, rfl⟩ := ran_modifyPayment.mp h
      cases found.symm.trans row
      refine ⟨by simp [Table.find?_modify, found], rfl, rfl, rfl, rfl, rfl, _, rfl, ?_⟩
      exact Table.view_modify_same PaymentEntry.of _ fun _ _ => rfl

/-- New money is recorded on any payment that has not received it. -/
theorem recordPaid_effect {r : Payment × Bool} (h : Ran (recordPaid payment now) db r db')
    (found : db.payments.find? payment.id = some payment) :
    (payment.status.Received ∧ r = (payment, true) ∧ db' = db) ∨
      (¬ payment.status.Received ∧ r.2 = false ∧ r.1.id = payment.id ∧
        r.1.orderId = payment.orderId ∧ r.1.amountMinor = payment.amountMinor ∧
        r.1.status = .paid ∧ db'.payments.find? payment.id = some r.1 ∧
        ∃ t : Table Payment, db' = { db with payments := t } ∧ t.view PaymentEntry.of =
          adjust (db.payments.view PaymentEntry.of) payment.id fun e => { e with status := .paid }) := by
  simp only [recordPaid] at h
  by_cases received : payment.status ∈ paidCallbackStatuses
  · simp only [received, if_true, ran_pure] at h
    exact .inl ⟨received, h.1.symm, h.2.symm⟩
  · rw [if_neg received] at h
    right
    by_cases late : payment.status ∈ [.closed, .failed]
    · simp only [late, if_true, recordLatePaid, ran_bind, ran_pure] at h
      obtain ⟨p', t, written, rfl, rfl⟩ := h
      obtain ⟨p, row, rfl, rfl⟩ := ran_modifyPayment.mp written
      cases found.symm.trans row
      refine ⟨received, rfl, rfl, rfl, rfl, rfl, by simp [Table.find?_modify, found], _, rfl, ?_⟩
      exact Table.view_modify PaymentEntry.of _ _ fun _ => rfl
    · rw [if_neg late] at h
      rcases ran_transitionPayment h found with ⟨same, -⟩ | ⟨-, -, rfl, rfl⟩
      · simp [same, paidCallbackStatuses] at received
      · refine ⟨received, rfl, rfl, rfl, rfl, rfl, db.movePayment_find? found, _, rfl, ?_⟩
        exact Table.view_modify PaymentEntry.of _ _ fun _ => rfl

/-- Nothing but orders changes. -/
structure OnlyOrders (db db' : Db) : Prop where
  payments : db'.payments = db.payments
  refunds : db'.refunds = db.refunds
  businessOutbox : db'.businessOutbox = db.businessOutbox

theorem claimPrimary_effect {primary : Id} (h : Ran (claimPrimary order payment) db primary db')
    (ordered : db.orders.find? order.id = some order) :
    primary = order.paidPaymentId.getD payment.id ∧ OnlyOrders db db' ∧
      db'.books = { db.books with
        orders := adjust db.books.orders order.id (Books.claim payment.id) } ∧
      db'.floor = db.floor := by
  cases claimed : order.paidPaymentId with
  | some q =>
      simp only [claimPrimary, claimed, ran_pure] at h
      obtain ⟨rfl, rfl⟩ := h
      refine ⟨rfl, ⟨rfl, rfl, rfl⟩, ?_, rfl⟩
      rw [adjust_eq_self]
      intro e he
      cases (Db.books_order ordered).symm.trans he
      simp [Books.claim, OrderEntry.of, claimed]
  | none =>
      simp only [claimPrimary, claimed, ran_write_bind, ran_pure] at h
      obtain ⟨rfl, rfl⟩ := h
      exact ⟨rfl, ⟨rfl, rfl, rfl⟩, books_modifyOrder db _ _ fun _ => rfl,
        floor_modifyOrder db _ fun _ _ => rfl⟩

/-- Money just received on a payment without refunds enters as one whole refund. -/
theorem ensureExtraRefund_effect {key reason : String} {r : Payment}
    (h : Ran (ensureExtraRefund env payment key reason fresh now) db r db')
    (found : db.payments.find? payment.id = some payment) (paid : payment.status = .paid)
    (empty : db.books.balance payment.id = {})
    (alone : ∀ x re, db.books.refunds x = some re → re.payment ≠ payment.id) :
    db.books.refunds fresh.id = none ∧
      db'.books =
        Books.enter payment.orderId ⟨fresh.id, payment.id, payment.amountMinor, key⟩ db.books ∧
      db'.floor = db.floor := by
  have refundable : payment.status ∈ refundablePaymentStatuses := by rw [paid]; decide
  simp only [ensureExtraRefund, refundable, if_true, ran_bind, ran_pure] at h
  obtain ⟨intent, t, ensured, -, rfl⟩ := h
  rcases ensureAutomaticRefundIntent_effect ensured with
    ⟨-, settled⟩ | ⟨p, amount, found', rfl, fits, books, floor⟩
  · rcases settled _ (Db.books_payment found) refundable with covered | ⟨x, re, hr, mine, -⟩
    · have := payment.amountPositive
      simp only [empty, PaymentEntry.of, Balance.reserved] at covered
      omega
    · exact absurd mine (alone x re hr)
  · cases found.symm.trans found'
    simp only [empty, Balance.reserved, Int.add_zero, Int.sub_zero] at books fits
    exact ⟨fits.fresh, books, floor⟩

theorem enqueueOutbox_effect {e : Id} {u : Unit} (h : Ran (enqueueOutbox e payment order now) db u db')
    (first : ∀ x ∈ db.businessOutbox.rows, x.idempotencyKey ≠ eventKey payment.id) :
    db.books.events e = none ∧
      db'.books = { db.books with
        events := put db.books.events e ⟨payment.id, order.id, eventKey payment.id, false⟩ } ∧
      db'.floor = db.floor := by
  simp only [enqueueOutbox, ran_read_bind, ran_ensure_bind, id_eq, Option.isNone_iff_eq_none] at h
  obtain ⟨new, h⟩ := h
  have none : db.businessOutbox.first? (fun x => x.idempotencyKey = eventKey payment.id) = none :=
    Table.first?_none.mpr fun x hx => by simpa using first x hx
  rw [eventKey] at none
  simp only [ran_onlyIf, ran_write, none, Option.isNone_none, not_true, false_and, or_false,
    true_and] at h
  subst h
  refine ⟨(Table.view_eq_none _).mpr new, ?_, rfl⟩
  simp only [Db.books]
  congr 1
  exact Table.view_insert EventEntry.of new

/-- A payment whose money was recorded a moment ago, with nothing refunded yet. -/
structure JustPaid (t : Db) (order : Order) (payment : Payment) : Prop where
  found : t.payments.find? payment.id = some payment
  paid : payment.status = .paid
  ordered : t.orders.find? order.id = some order
  mine : payment.orderId = order.id
  empty : t.books.balance payment.id = {}
  alone : ∀ x re, t.books.refunds x = some re → re.payment ≠ payment.id

/-- The money went back as one refund, after it had claimed the order if that was free. -/
structure SentBack (t db' : Db) (order : Order) (payment : Payment) (refund : Id) (key : String) :
    Prop where
  fresh : t.books.refunds refund = none
  books : db'.books = Books.enter order.id ⟨refund, payment.id, payment.amountMinor, key⟩
    { t.books with orders := adjust t.books.orders order.id (Books.claim payment.id) }
  floor : db'.floor = t.floor

theorem SentBack.of_extra {t t₁ : Db} {key reason : String} {r : Payment}
    (j : JustPaid t order payment) (only : OnlyOrders t t₁)
    (h : Ran (ensureExtraRefund env payment key reason fresh now) t₁ r db')
    (floor : t₁.floor = t.floor)
    (books : Books.enter order.id ⟨fresh.id, payment.id, payment.amountMinor, key⟩ t₁.books =
      Books.enter order.id ⟨fresh.id, payment.id, payment.amountMinor, key⟩
        { t.books with orders := adjust t.books.orders order.id (Books.claim payment.id) }) :
    SentBack t db' order payment fresh.id key := by
  have refunds : t₁.books.refunds = t.books.refunds := by simp only [Db.books, only.refunds]
  have balance : t₁.books.balance = t.books.balance := by simp only [Db.books, only.refunds]
  obtain ⟨new, entered, kept⟩ := ensureExtraRefund_effect h (only.payments ▸ j.found) j.paid
    (balance ▸ j.empty) (refunds ▸ j.alone)
  exact ⟨refunds ▸ new, by rw [entered, j.mine, books], kept.trans floor⟩

theorem paidOnDeadOrder_effect {t : Db} {r : Payment} (j : JustPaid t order payment)
    (h : Ran (paidOnDeadOrder env order payment fresh now) t r db') :
    SentBack t db' order payment fresh.id s!"payment:{payment.id}:cancelled-order-refund" := by
  simp only [paidOnDeadOrder, ran_bind] at h
  obtain ⟨primary, t₁, claim, u, t₂, project, back⟩ := h
  obtain ⟨rfl, only, claimed, stands⟩ := claimPrimary_effect claim j.ordered
  rw [ran_onlyIf] at project
  rcases project with ⟨primary, project⟩ | ⟨other, rfl⟩
  · simp only [ran_write] at project
    subst project
    refine .of_extra j ?_ back ?_ ?_
    · exact ⟨only.payments, only.refunds, only.businessOutbox⟩
    · refine (floor_modifyOrder t₁ _ ?_).trans stands
      intros
      rfl
    · rw [books_modifyOrder t₁ (fun e => { e with
        payment := if e.payment ∈ [.notStarted, .pending, .paid, .partiallyRefunded] then .refunding
          else e.payment }) _ fun _ => rfl, claimed]
      have entry := Db.books_order j.ordered
      have shows : (Books.claim payment.id (OrderEntry.of order)).primary = some payment.id := by
        cases hq : order.paidPaymentId <;> simp_all [Books.claim, OrderEntry.of]
      simp only [Books.enter, adjust_of_some entry, adjust_put, Books.project, shows, if_true]
  · exact .of_extra j only back stands (by rw [claimed])

/-- Extra money goes back; the first money on a live order pays it. -/
theorem paidOnLiveOrder_effect {t : Db} {r : Payment} {e : Id} (j : JustPaid t order payment)
    (h : Ran (paidOnLiveOrder env order payment fresh e now) t r db')
    (unpaid : order.paidPaymentId = none → order.paymentStatus ≠ .paid)
    (fresh' : order.paidPaymentId ≠ some payment.id)
    (first : ∀ x ∈ t.businessOutbox.rows, x.idempotencyKey ≠ eventKey payment.id) :
    order.paidPaymentId.any (· ≠ payment.id) ∧
        SentBack t db' order payment fresh.id s!"payment:{payment.id}:extra-paid-refund" ∨
      order.paidPaymentId = none ∧ t.books.events e = none ∧
        db'.books = { t.books with
          events := put t.books.events e ⟨payment.id, order.id, eventKey payment.id, false⟩
          orders := adjust t.books.orders order.id fun e => { Books.claim payment.id e with
            payment := .paid, status := if e.status.Unpaid then .paid else e.status } } ∧
        db'.floor = if order.status.Unpaid then Floor.setOrder order.id .paid t.floor
          else t.floor := by
  simp only [paidOnLiveOrder, ran_bind] at h
  obtain ⟨primary, t₁, claim, h⟩ := h
  obtain ⟨rfl, only, claimed, stands⟩ := claimPrimary_effect claim j.ordered
  rw [ran_ite] at h
  rcases h with ⟨other, back⟩ | ⟨mine, h⟩
  · left
    refine ⟨?_, .of_extra j only back stands (by rw [claimed])⟩
    cases hq : order.paidPaymentId <;> simp_all
  · right
    have free : order.paidPaymentId = none := by
      cases hq : order.paidPaymentId <;> simp_all
    rw [if_pos (unpaid free), ran_write_bind, ran_bind] at h
    obtain ⟨u, t₂, enqueue, h⟩ := h
    simp only [ran_pure] at h
    obtain ⟨-, rfl⟩ := h
    obtain ⟨new, events, kept⟩ := enqueueOutbox_effect enqueue (only.businessOutbox ▸ first)
    refine ⟨free, ?_, ?_, ?_⟩
    · rw [← new]
      simp only [Db.books, only.businessOutbox]
    · rw [events, books_modifyOrder t₁ (fun e => { e with
        payment := .paid, status := if e.status.Unpaid then .paid else e.status }) _ ?_, claimed]
      · simp only [adjust_adjust, Books.claim]
        rfl
      · intro r
        simp only [OrderEntry.of, ite_unpaid]
        rfl
    · rw [kept, floor_adjustOrder t₁ (fun e => { e with
        status := if e.status.Unpaid then .paid else e.status }) _ ?_, stands]
      · have entry := Db.floor_order j.ordered
        by_cases started : order.status.Unpaid
        · simp only [if_pos started, Floor.setOrder, adjust_of_some entry]
          simp [OrderPlace.of, started]
        · rw [if_neg started, adjust_eq_self]
          intro e he
          cases entry.symm.trans he
          simp [OrderPlace.of, started]
      · intro r
        simp only [OrderPlace.of, ite_unpaid]
        rfl

/-- What a callback that does not find its money recorded does to the books. -/
def Collect (x : Posting) : Prop :=
  (∃ p o e, x = .receive p o e) ∨ ∃ o r, x = .payBack o r ∧ AutomaticKey r.key

/-- What a callback that finds its money recorded leaves as it was. -/
structure Replayed (db db' : Db) : Prop where
  orders : db'.orders = db.orders
  refunds : db'.refunds = db.refunds
  businessOutbox : db'.businessOutbox = db.businessOutbox
  payments : db'.payments.view PaymentEntry.of = db.payments.view PaymentEntry.of
  floor : db'.floor = db.floor

theorem Replayed.refl (db : Db) : Replayed db db := ⟨rfl, rfl, rfl, rfl, rfl⟩

theorem Replayed.same (h : Replayed db db') : Same db db' := by
  refine ⟨?_, h.floor⟩
  simp only [Db.books, h.orders, h.refunds, h.businessOutbox, h.payments]

variable {provider eventId : String} {values : Values} {e : Id} {r : Payment × Bool}

/-- New money is received by a live order or goes back. -/
theorem collect_effect {t : Db} {paid : Payment} {x : Payment} (sound : db.books.Sound)
    (found : db.payments.find? payment.id = some payment)
    (ordered : db.orders.find? order.id = some order) (mine : payment.orderId = order.id)
    (new : ¬ payment.status.Received) (same : paid.id = payment.id)
    (amount : paid.amountMinor = payment.amountMinor) (j : JustPaid t order paid)
    (books : t.books = { db.books with
      payments := adjust db.books.payments payment.id fun e => { e with status := .paid } })
    (events : t.businessOutbox = db.businessOutbox) (floor : t.floor = db.floor)
    (h : Ran (if order.status ∈ deadOrderStatuses then paidOnDeadOrder env order paid fresh now
      else paidOnLiveOrder env order paid fresh e now) t x db') :
    Refines Collect (fun w => ∃ o, w = .jobless o .paid) db db' := by
  have hp := Db.books_payment found
  have ho := Db.books_order ordered
  have back {key : String} (automatic : AutomaticKey key)
      (dead : order.status.Dead ∨ order.paidPaymentId.any (· ≠ payment.id))
      (sent : SentBack t db' order paid fresh.id key) :
      Refines Collect (fun w => ∃ o, w = .jobless o .paid) db db' := by
    refine .post (.payBack order.id ⟨fresh.id, payment.id, payment.amountMinor, key⟩)
      ⟨_, _, hp, mine, new, rfl, ?_, ho, dead⟩ (.inr ⟨_, _, rfl, automatic⟩) ?_
      (sent.floor.trans floor)
    · have := sent.fresh
      rwa [books] at this
    · rw [sent.books, same, amount, books]
      simp only [Books.post, Books.enter, adjust_adjust]
  rw [ran_ite] at h
  rcases h with ⟨dead, h⟩ | ⟨live, h⟩
  · exact back ⟨paid.id, by simp⟩ (.inl dead) (paidOnDeadOrder_effect j h)
  · have unclaimed : order.paidPaymentId ≠ some payment.id := fun primary => by
      obtain ⟨pe, hp', -, received⟩ := sound.primary _ _ _ ho primary
      cases hp.symm.trans hp'
      exact new received
    have unpaid : order.paidPaymentId = none → order.paymentStatus ≠ .paid := fun free shown => by
      have := sound.paid _ _ ho shown
      simp [OrderEntry.of, free] at this
    have first : ∀ x ∈ t.businessOutbox.rows, x.idempotencyKey ≠ eventKey paid.id := by
      rintro x hx key
      have hx : db.books.events x.id = some (.of x) :=
        Db.books_event (Table.find?_of_mem (events ▸ hx))
      obtain ⟨pe, -, hp', received, -⟩ := sound.event _ _ hx
      have := (sound.eventKey _ _ hx).symm.trans key
      rw [eventKey_injective this, same, hp] at hp'
      cases hp'
      exact new received
    rcases paidOnLiveOrder_effect j h unpaid (same ▸ unclaimed) first with
      ⟨other, sent⟩ | ⟨free, new', posted, moved⟩
    · exact back ⟨paid.id, by simp⟩ (.inr (same ▸ other)) sent
    · have ok : db.books.ok AutomaticKey (.receive payment.id order.id e) := by
        refine ⟨_, _, hp, mine, new, ho, live, by simp [OrderEntry.of, free], unpaid free, ?_⟩
        rwa [books] at new'
      have posted : db'.books = Books.post (.receive payment.id order.id e) db.books := by
        rw [posted, books, same]
        rfl
      rw [floor] at moved
      by_cases start : order.status.Unpaid
      · rw [if_pos start] at moved
        refine .both _ (.jobless order.id .paid) ok (.inl ⟨_, _, _, rfl⟩) (fun sound => ?_) ⟨_, rfl⟩
          posted moved
        have stands : db.floor.At order.id order.status := ⟨_, Db.floor_order ordered, rfl⟩
        rcases start with start | start
        all_goals
          rw [start] at stands
          exact ⟨sound.jobless_of_early stands (by decide), _, stands, by decide, by decide⟩
      · rw [if_neg start] at moved
        exact .post _ ok (.inl ⟨_, _, _, rfl⟩) posted moved

theorem applyPaidLocked_effect (sound : db.books.Sound)
    (found : db.payments.find? payment.id = some payment)
    (ordered : db.orders.find? order.id = some order) (mine : payment.orderId = order.id)
    (h : Ran (applyPaidLocked env provider eventId values order payment fresh e now) db r db') :
    (payment.status.Received ∧ r.2 = true ∧ r.1.id = payment.id ∧ Replayed db db') ∨
      (¬ payment.status.Received ∧ r.2 = false ∧
        Refines Collect (fun w => ∃ o, w = .jobless o .paid) db db') := by
  simp only [applyPaidLocked, ran_bind] at h
  obtain ⟨traded, t₁, trade, recorded, t₂, paid, u, t₃, inbox, h⟩ := h
  obtain ⟨found₁, entry, id, orderId, amount, status, t, rfl, kept⟩ := recordTradeNo_effect trade found
  rw [← id] at found₁
  rcases recordPaid_effect paid found₁ with ⟨received, rfl, rfl⟩ |
    ⟨new, fresh', id₂, orderId₂, amount₂, status₂, found₂, t', rfl, kept₂⟩
  · left
    simp only [insertInbox, ran_write] at inbox
    subst inbox
    simp only [if_true, ran_pure] at h
    obtain ⟨rfl, rfl⟩ := h
    exact ⟨status ▸ received, rfl, id, rfl, rfl, rfl, kept, rfl⟩
  · right
    simp only [insertInbox, ran_write] at inbox
    rw [fresh', if_neg Bool.false_ne_true] at h
    have hp := Db.books_payment found
    have new' : ¬ payment.status.Received := status ▸ new
    have same : recorded.1.id = payment.id := id₂.trans id
    have shown : t₃.books = { db.books with
        payments := adjust db.books.payments payment.id fun e => { e with status := .paid } } := by
      subst inbox
      simp only [Db.books, kept₂, kept, id]
    have j : JustPaid t₃ order recorded.1 := by
      refine ⟨by subst inbox; rw [id₂, found₂], status₂, by subst inbox; exact ordered,
        orderId₂.trans (orderId.trans mine), ?_, ?_⟩
      · rw [shown, same]
        exact sound.untouched _ fun pe hp' => by cases hp.symm.trans hp'; exact new'
      · rw [shown, same]
        rintro x re hr rfl'
        obtain ⟨pe, hp', received⟩ := sound.refundReceived x re hr
        rw [rfl', hp] at hp'
        cases hp'
        exact new' received
    obtain ⟨x, h, dup⟩ : ∃ x, Ran (if order.status ∈ deadOrderStatuses then
        paidOnDeadOrder env order recorded.1 fresh now
        else paidOnLiveOrder env order recorded.1 fresh e now) t₃ x db' ∧ r.2 = false := by
      by_cases dead : order.status ∈ deadOrderStatuses
      · simp only [if_pos dead, ran_bind, ran_pure] at h ⊢
        obtain ⟨x, _, h, rfl, rfl⟩ := h
        exact ⟨x, h, rfl⟩
      · simp only [if_neg dead, ran_bind, ran_pure] at h ⊢
        obtain ⟨x, _, h, rfl, rfl⟩ := h
        exact ⟨x, h, rfl⟩
    exact ⟨new', dup, collect_effect sound found ordered mine new' same
      (amount₂.trans amount) j shown (by subst inbox; rfl) (by subst inbox; rfl) h⟩

/-- The payment a callback is about: by its inbox row, else by its merchant number. -/
def Db.callbackPayment (db : Db) (provider eventId : String) (values : Values) : Option Id :=
  match db.callbackInbox.find? (provider, eventId) with
  | some existing => some existing.paymentId
  | none =>
      (db.payments.first? fun p => p.provider = provider ∧
        p.merchantPaymentNo = (values.either "out_trade_no" "merchant_payment_no").getD "").map
        (·.id)

/-- A callback replays money that was recorded, or it collects new money. -/
theorem applyPaidCallback_effect (sound : db.books.Sound)
    (h : Ran (applyPaidCallback env provider eventId values fresh e now) db r db') :
    r.2 = true ∧ db.callbackPayment provider eventId values = some r.1.id ∧ Replayed db db' ∨
      r.2 = false ∧ (∃ p pe, db.callbackPayment provider eventId values = some p ∧
          db.books.payments p = some pe ∧ ¬ pe.status.Received) ∧
        Refines Collect (fun w => ∃ o, w = .jobless o .paid) db db' := by
  simp only [applyPaidCallback, ran_read_bind, id_eq] at h
  split at h
  · simp only [inboxConflict, ran_ensure_bind, ran_require_bind, PaymentRepository.find,
      ran_read_bind, ran_pure] at h
    rename_i existing recorded
    obtain ⟨-, payment, found, rfl, rfl⟩ := h
    have key : payment.id = existing.paymentId := Table.key_of_find? found
    exact .inl ⟨rfl, by simp [Db.callbackPayment, recorded, key], .refl _⟩
  · rename_i absent
    simp only [PaymentRepository.findByMerchantNo, ran_read_bind, ran_require_bind] at h
    obtain ⟨payment, located, h⟩ := h
    split at h
    · simp at h
    · simp at h
    · simp only [ran_ensure_bind, OrderRepository.find, PaymentRepository.find, ran_read_bind,
        ran_require_bind, id_eq, absent] at h
      obtain ⟨-, order, ordered, payment', found, h⟩ := h
      have key : order.id = payment.orderId := Table.key_of_find? ordered
      have row := Table.find?_of_mem (Table.first?_some located).1
      cases row.symm.trans found
      have about : db.callbackPayment provider eventId values = some payment.id := by
        simp only [Db.callbackPayment, absent, located, Option.map_some]
      rcases applyPaidLocked_effect sound found (key ▸ ordered) key.symm h with
        ⟨-, dup, same, replayed⟩ | ⟨new, dup, refines⟩
      · exact .inl ⟨dup, same ▸ about, replayed⟩
      · exact .inr ⟨dup, ⟨_, _, about, Db.books_payment found, new⟩, refines⟩

end CoffeeCloud
