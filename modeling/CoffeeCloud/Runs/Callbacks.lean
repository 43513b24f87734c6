import CoffeeCloud.Books.Primary
import CoffeeCloud.Runs

/-!
Callbacks that report money a second time change nothing, and over a whole run
every order, and every payment, has its paid event enqueued once at most.
-/
namespace CoffeeCloud
open Library Tx

namespace Books
variable {b b₀ : Books} {automatic : String → Prop} {x : Posting} {p : Nat} {pe : PaymentEntry}

/-- A payment that has received money has received it for good. -/
theorem post_received (hok : ok automatic b x) (hp : b.payments p = some pe)
    (received : pe.status.Received) :
    ∃ pe', (post x b).payments p = some pe' ∧ pe'.status.Received := by
  have rewritten {payments : Nat → Option PaymentEntry} (hp : payments p = some pe) (q : Nat)
      (f : PaymentEntry → PaymentEntry) (stays : p = q → (f pe).status.Received) :
      ∃ pe', adjust payments q f p = some pe' ∧ pe'.status.Received := by
    rw [adjust_apply, hp]
    split
    · rename_i here
      exact ⟨f pe, rfl, stays here⟩
    · exact ⟨pe, rfl, received⟩
  have apart {q : Nat} {e : PaymentEntry} (hq : b.payments q = some e) (new : ¬ e.status.Received) :
      p ≠ q := by
    rintro rfl
    cases hp.symm.trans hq
    exact new received
  cases x with
  | openPayment q o amount =>
      have other : p ≠ q := by
        rintro rfl
        have new := hok.1
        simp [hp] at new
      exact ⟨pe, (put_of_ne other).trans hp, received⟩
  | pend q =>
      obtain ⟨e, hq, created⟩ := hok
      have other := apart hq (by rw [created]; decide)
      exact rewritten hp q _ fun same => absurd same other
  | close q o =>
      obtain ⟨e, -, hq, -, isOpen, -⟩ := hok
      exact rewritten hp q _ fun same => absurd same (apart hq (not_received_of_open isOpen))
  | reconcile q o target =>
      obtain ⟨e, hq, -, isOpen, -⟩ := hok
      exact rewritten hp q _ fun same => absurd same (apart hq (not_received_of_open isOpen))
  | receive q o e => exact rewritten hp q _ fun _ => (by decide : PaymentStatus.paid.Received)
  | payBack o r => exact rewritten hp _ _ fun _ => (by decide : PaymentStatus.refunding.Received)
  | request o r => exact rewritten hp _ _ fun _ => (by decide : PaymentStatus.refunding.Received)
  | settle r q o amount status =>
      obtain ⟨-, e, -, -, -, -, -, hq, -⟩ := hok
      refine rewritten hp q _ fun _ => ?_
      simp only [settledStatus, hq]
      exact settled_received _
  | die o s r =>
      cases r with
      | none => exact ⟨pe, hp, received⟩
      | some r => exact rewritten hp _ _ fun _ => (by decide : PaymentStatus.refunding.Received)
  | openOrder | closeProjection | advance | move | process | purge => exact ⟨pe, hp, received⟩

/-- No money has been received yet that the event could be about. -/
structure Fresh (b : Books) (e : EventEntry) : Prop where
  payment : ∀ pe, b.payments e.payment = some pe → ¬ pe.status.Received
  order : ∀ oe, b.orders e.order = some oe → oe.primary = none

theorem Fresh.before {e : EventEntry} (h : (post x b).Fresh e) (hok : ok automatic b x) :
    b.Fresh e := by
  constructor
  · intro pe hp received
    obtain ⟨pe', hp', received'⟩ := post_received hok hp received
    exact h.payment pe' hp' received'
  · intro oe ho
    cases primary : oe.primary with
    | none => rfl
    | some q =>
        obtain ⟨oe', ho', primary'⟩ := post_primary hok ho primary
        have := h.order oe' ho'
        simp [primary'] at this

/-- An event was there before, or its money is new. -/
theorem event_origin (sound : b.Sound) (hok : ok automatic b x) {k : Nat} {e : EventEntry}
    (he : (post x b).events k = some e) :
    (∃ old, b.events k = some old ∧ old.payment = e.payment ∧ old.order = e.order) ∨ b.Fresh e := by
  cases x with
  | receive q o k' =>
      obtain ⟨pe, oe, hq, mine, new, ho, -, alone, -⟩ := hok
      have unclaimed := sound.unclaimed hq ho new alone
      simp only [post, put_apply] at he
      split at he
      · cases he
        refine .inr ⟨fun pe' hp => ?_, fun oe' ho' => ?_⟩
        · cases hq.symm.trans hp
          exact new
        · cases ho.symm.trans ho'
          exact unclaimed
      · exact .inl ⟨e, he, rfl, rfl⟩
  | process k' o queued =>
      obtain ⟨old, there, rfl⟩ := adjust_some_iff.mp he
      refine .inl ⟨old, there, ?_⟩
      split <;> exact ⟨rfl, rfl⟩
  | purge k' => exact .inl ⟨e, drop_some he, rfl, rfl⟩
  | die o s r => cases r <;> exact .inl ⟨e, he, rfl, rfl⟩
  | _ => exact .inl ⟨e, he, rfl, rfl⟩

/-- An order has one event at most. -/
def OneEvent (b : Books) : Prop :=
  ∀ k l e f, b.events k = some e → b.events l = some f → e.order = f.order → k = l

theorem OneEvent.keep (h : b.OneEvent) {c : Books}
    (events : ∀ k e, c.events k = some e → ∃ e₀, b.events k = some e₀ ∧ e₀.order = e.order) :
    c.OneEvent := by
  intro k l e f hk hl same
  obtain ⟨e₀, hk, ke⟩ := events k e hk
  obtain ⟨f₀, hl, lf⟩ := events l f hl
  exact h k l e₀ f₀ hk hl (ke.trans (same.trans lf.symm))

theorem OneEvent.post (h : b.OneEvent) (sound : b.Sound) (hok : ok automatic b x) :
    (post x b).OneEvent := by
  cases x with
  | receive q o i =>
      obtain ⟨pe, oe, hq, mine, new, ho, -, alone, -⟩ := hok
      have unclaimed := sound.unclaimed hq ho new alone
      -- An order that has an event has its primary payment, this one has none.
      have none (k : Nat) (e : EventEntry) (hk : b.events k = some e) : e.order ≠ o := by
        rintro rfl
        obtain ⟨-, oe', -, -, -, ho', primary⟩ := sound.event k e hk
        cases ho.symm.trans ho'
        simp [unclaimed] at primary
      intro k l e f hk hl same
      simp only [Books.post, put_apply] at hk hl
      split at hk <;> split at hl
      · simp_all
      · cases hk
        exact absurd same.symm (none l f hl)
      · cases hl
        exact absurd same (none k e hk)
      · exact h k l e f hk hl same
  | process i o queued =>
      refine h.keep fun k e hk => ?_
      obtain ⟨e₀, hk₀, rfl⟩ := adjust_some_iff.mp hk
      refine ⟨e₀, hk₀, ?_⟩
      split <;> rfl
  | purge i => exact h.keep fun k e hk => ⟨e, drop_some hk, rfl⟩
  | die o s r => cases r <;> exact h.keep fun k e hk => ⟨e, hk, rfl⟩
  | _ => exact h.keep fun k e hk => ⟨e, hk, rfl⟩

end Books

namespace System
variable {env : Env} {s : System} {a : Action}

/-- The events of the given kind that an action enqueues. -/
def enqueued (env : Env) (kind : BusinessEvent → Bool) (s : System) (a : Action) : Nat :=
  (((machine env).step s a).db.businessOutbox.rows.filter fun e =>
    kind e && (s.db.businessOutbox.find? e.id).isNone).length

theorem oneEvent_of_reachable (reach : (machine env).Reachable {} s) : s.db.books.OneEvent := by
  have start : ({} : System).db.books.OneEvent := by
    simp [Books.OneEvent, Db.books, Table.view]
  have kept := reach.invariant (I := fun s => s.Sound ∧ s.db.books.OneEvent) ⟨sound_empty, start⟩ <| by
    rintro s a ⟨sound, one⟩
    exact ⟨sound.step a, (step_refines sound a).booksKeep sound.books one
      fun b x soundBooks one hx => one.post soundBooks hx.1⟩
  exact kept.2

/-- An event that an action enqueues is about money that had not been received. -/
theorem fresh_of_enqueued (sound : s.Sound) {e : BusinessEvent}
    (row : ((machine env).step s a).db.businessOutbox.find? e.id = some e)
    (new : s.db.businessOutbox.find? e.id = none) : s.db.books.Fresh (.of e) := by
  have refines : Refines _ _ s.db ((machine env).step s a).db := step_refines sound a
  have kept := refines.booksKeep sound.books
    (I := fun b => (∀ c, b.Fresh c → s.db.books.Fresh c) ∧
      ∀ k c, b.events k = some c → (s.db.books.events k).isSome ∨ s.db.books.Fresh c)
    ⟨fun _ => id, fun k c hk => .inl (by simp [hk])⟩ <| by
      rintro b x soundBooks ⟨back, origin⟩ hx
      refine ⟨fun c fresh => back c (fresh.before hx.1), fun k c hk => ?_⟩
      rcases Books.event_origin soundBooks hx.1 hk with ⟨old, there, payment, order⟩ | fresh
      · refine (origin k old there).imp_right ?_
        rintro ⟨paid, placed⟩
        exact ⟨payment ▸ paid, order ▸ placed⟩
      · exact .inr (back c fresh)
  rcases kept.2 e.id _ (Db.books_event row) with old | fresh
  · rw [show s.db.books.events e.id = none from (Table.view_eq_none EventEntry.of).mpr new] at old
    cases old
  · exact fresh

/-- Where a kind of event comes once to an order and is paid for by what it leaves behind, a run
enqueues one such event at most. -/
theorem total_enqueued_le_one {kind : BusinessEvent → Bool} (credit : System → Bool)
    (keeps : ∀ s a, (machine env).Reachable {} s → credit s → credit ((machine env).step s a))
    (before : ∀ s : System, (machine env).Reachable {} s → ∀ e, kind e → s.db.books.Fresh (.of e) →
      credit s = false)
    (after : ∀ s : System, (machine env).Reachable {} s → ∀ e, kind e →
      s.db.businessOutbox.find? e.id = some e → credit s)
    (single : ∀ s : System, (machine env).Reachable {} s → ∀ e f, kind e → kind f →
      s.db.businessOutbox.find? e.id = some e → s.db.businessOutbox.find? f.id = some f → e = f)
    (as : List Action) : (machine env).total (enqueued env kind) {} as ≤ 1 := by
  have pays (s : System) (a : Action) (reach : (machine env).Reachable {} s) :
      (credit s).toNat + enqueued env kind s a ≤ (credit ((machine env).step s a)).toNat := by
    have here := keeps s a reach
    have there := reach.step a
    cases rows : (((machine env).step s a).db.businessOutbox.rows.filter fun e =>
        kind e && (s.db.businessOutbox.find? e.id).isNone) with
    | nil =>
        simp only [enqueued, rows, List.length_nil]
        cases now : credit s with
        | false => simp
        | true => simp [here now]
    | cons e es =>
        have mem (f : BusinessEvent) (hf : f ∈ e :: es) :
            ((machine env).step s a).db.businessOutbox.find? f.id = some f ∧ kind f ∧
              s.db.businessOutbox.find? f.id = none := by
          rw [← rows, List.mem_filter] at hf
          obtain ⟨there, new⟩ := hf
          simp only [Bool.and_eq_true, Option.isNone_iff_eq_none] at new
          exact ⟨Table.find?_of_mem there, new⟩
        obtain ⟨row, own, new⟩ := mem e List.mem_cons_self
        have alone : es = [] := by
          refine List.eq_nil_iff_forall_not_mem.mpr fun f hf => ?_
          obtain ⟨row', own', -⟩ := mem f (List.mem_cons_of_mem e hf)
          have same := single _ there e f own own' row row'
          subst same
          have once : (e :: es).Nodup := rows ▸ (List.Nodup.of_map _ (Table.distinct _)).filter _
          exact (List.nodup_cons.mp once).1 hf
        have unpaid := before s reach e own (fresh_of_enqueued (sound_of_reachable reach) row new)
        have paid := after _ there e own row
        simp [enqueued, rows, alone, unpaid, paid]
  have bound := Machine.total_le_of_credit (M := machine env) (I := (machine env).Reachable {})
    (fun s a reach => reach.step a) pays (.refl _ _) as
  have limit := Bool.toNat_le (credit ((machine env).run {} as))
  omega

/-- An order has its paid event enqueued once at most. -/
theorem enqueued_order (o : Id) (as : List Action) :
    (machine env).total (enqueued env fun e => e.orderId = o) {} as ≤ 1 := by
  refine total_enqueued_le_one (fun s => ((s.db.orders.find? o).bind (·.paidPaymentId)).isSome)
    (fun s a reach paid => ?_) (fun s reach e own fresh => ?_) (fun s reach e own row => ?_)
    (fun s reach e f own own' row row' => ?_) as
  · obtain ⟨p, claimed⟩ := Option.isSome_iff_exists.mp paid
    obtain ⟨order, found, primary⟩ := Option.bind_eq_some_iff.mp claimed
    have sound := sound_of_reachable reach
    have refines : Refines _ _ s.db ((machine env).step s a).db := step_refines sound a
    have kept := refines.booksKeep sound.books
      (I := fun b => ∃ oe, b.orders o = some oe ∧ oe.primary = some p)
      ⟨_, Db.books_order found, primary⟩ fun b x _ ⟨oe, ho, primary⟩ hx =>
        Books.post_primary hx.1 ho primary
    obtain ⟨oe, ho, primary'⟩ := kept
    obtain ⟨order', found', rfl⟩ := (Table.view_eq_some _).mp ho
    have primary' : order'.paidPaymentId = some p := primary'
    simp [found', primary']
  · cases found : s.db.orders.find? o with
    | none => rfl
    | some order =>
        have about : (EventEntry.of e).order = o := of_decide_eq_true own
        have none : order.paidPaymentId = none :=
          fresh.order (.of order) (about ▸ Db.books_order found)
        simpa using none
  · have sound := sound_of_reachable reach
    obtain ⟨-, oe, -, -, -, ho, primary⟩ := sound.books.event _ _ (Db.books_event row)
    obtain ⟨order, found, rfl⟩ := (Table.view_eq_some _).mp ho
    have found : s.db.orders.find? o = some order := of_decide_eq_true own ▸ found
    have primary : order.paidPaymentId = some e.paymentId := primary
    simp [found, primary]
  · have same := oneEvent_of_reachable reach e.id f.id _ _ (Db.books_event row) (Db.books_event row')
      ((of_decide_eq_true own).trans (of_decide_eq_true own').symm)
    rw [same, row'] at row
    exact (Option.some.inj row).symm

/-- A payment has its paid event enqueued once at most. -/
theorem enqueued_payment (p : Id) (as : List Action) :
    (machine env).total (enqueued env fun e => e.paymentId = p) {} as ≤ 1 := by
  refine total_enqueued_le_one
    (fun s => (s.db.payments.find? p).any fun q => q.status ∈ paidCallbackStatuses)
    (fun s a reach paid => ?_) (fun s reach e own fresh => ?_) (fun s reach e own row => ?_)
    (fun s reach e f own own' row row' => ?_) as
  · obtain ⟨payment, found, received⟩ := (Option.any_eq_true _ _).mp paid
    have sound := sound_of_reachable reach
    have refines : Refines _ _ s.db ((machine env).step s a).db := step_refines sound a
    have kept := refines.booksKeep sound.books
      (I := fun b => ∃ pe, b.payments p = some pe ∧ pe.status.Received)
      ⟨_, Db.books_payment found, of_decide_eq_true received⟩ fun b x _ ⟨pe, hp, received⟩ hx =>
        Books.post_received hx.1 hp received
    obtain ⟨pe, hp, received'⟩ := kept
    obtain ⟨payment', found', rfl⟩ := (Table.view_eq_some _).mp hp
    exact (Option.any_eq_true _ _).mpr ⟨payment', found', decide_eq_true received'⟩
  · cases found : s.db.payments.find? p with
    | none => rfl
    | some payment =>
        have about : (EventEntry.of e).payment = p := of_decide_eq_true own
        have new : payment.status ∉ paidCallbackStatuses :=
          fresh.payment (.of payment) (about ▸ Db.books_payment found)
        simpa using new
  · have sound := sound_of_reachable reach
    obtain ⟨pe, -, hp, received, -⟩ := sound.books.event _ _ (Db.books_event row)
    obtain ⟨payment, found, rfl⟩ := (Table.view_eq_some _).mp hp
    have found : s.db.payments.find? p = some payment := of_decide_eq_true own ▸ found
    exact (Option.any_eq_true _ _).mpr ⟨payment, found, decide_eq_true received⟩
  · have sound := sound_of_reachable reach
    obtain ⟨pe, -, hp, -, mine, -⟩ := sound.books.event _ _ (Db.books_event row)
    obtain ⟨qe, -, hq, -, mine', -⟩ := sound.books.event _ _ (Db.books_event row')
    have paid : (EventEntry.of e).payment = (EventEntry.of f).payment :=
      (of_decide_eq_true own).trans (of_decide_eq_true own').symm
    rw [paid] at hp
    cases hp.symm.trans hq
    have same := oneEvent_of_reachable reach e.id f.id _ _ (Db.books_event row) (Db.books_event row')
      (mine.symm.trans mine')
    rw [same, row'] at row
    exact (Option.some.inj row).symm

/-- Money that is recorded already is reported again without effect, a callback that reuses an event
for other values raises, and a run enqueues one paid event to an order and to a payment. -/
theorem callbacks_replay (as : List Action) :
    (∀ provider eventId values fresh outboxId now r db' payment,
      ((machine env).run {} as).db.callbackPayment provider eventId values = some payment.id →
      ((machine env).run {} as).db.payments.find? payment.id = some payment →
      payment.status ∈ paidCallbackStatuses →
      Ran (applyPaidCallback env provider eventId values fresh outboxId now)
        ((machine env).run {} as).db r db' →
      r.2 = true ∧ db'.orders = ((machine env).run {} as).db.orders ∧
        db'.refunds = ((machine env).run {} as).db.refunds ∧
        db'.businessOutbox = ((machine env).run {} as).db.businessOutbox ∧
        ∃ payment', db'.payments.find? payment.id = some payment' ∧
          payment'.status = payment.status) ∧
    (∀ provider eventId values fresh outboxId now existing,
      ((machine env).run {} as).db.callbackInbox.find? (provider, eventId) = some existing →
      existing.payloadDigest ≠ values.digest env →
      ∃ failure, (machine env).next ((machine env).run {} as)
        (.callback provider eventId values fresh outboxId now) =
          ((machine env).run {} as, .raised failure)) ∧
    (∀ o, (machine env).total (enqueued env fun e => e.orderId = o) {} as ≤ 1) ∧
    ∀ p, (machine env).total (enqueued env fun e => e.paymentId = p) {} as ≤ 1 := by
  refine ⟨?_, ?_, fun o => enqueued_order o as, fun p => enqueued_payment p as⟩
  · intro provider eventId values fresh outboxId now r db' payment about found received ran
    have sound : ((machine env).run {} as).Sound := sound_of_reachable ⟨as, rfl⟩
    rcases applyPaidCallback_effect sound.books ran with
      ⟨duplicate, -, replayed⟩ | ⟨-, ⟨p, pe, about', hp, new⟩, -⟩
    · refine ⟨duplicate, replayed.orders, replayed.refunds, replayed.businessOutbox, ?_⟩
      have kept : db'.payments.view PaymentEntry.of payment.id = some (.of payment) := by
        rw [replayed.payments]
        exact Db.books_payment found
      obtain ⟨payment', found', same⟩ := (Table.view_eq_some _).mp kept
      exact ⟨payment', found', congrArg PaymentEntry.status same⟩
    · cases about.symm.trans about'
      cases (Db.books_payment found).symm.trans hp
      exact absurd received new
  · intro provider eventId values fresh outboxId now existing row other
    rcases step_cases env ((machine env).run {} as)
      (.callback provider eventId values fresh outboxId now) with
      ⟨answer, tickets, db', ran, -⟩ | ⟨e, -, next⟩
    · obtain ⟨r, ran, -⟩ := ran_paid ran
      simp only [applyPaidCallback, ran_read_bind, id_eq, row, inboxConflict, ran_ensure_bind] at ran
      exact absurd ran.1 other
    · exact ⟨e, next⟩

/-- A shop whose digest tells callbacks apart by their amount. -/
def comparing : Env :=
  { shop with canonicalDigest := fun body => ((body.getD "amount_minor").asStr?).getD "digest" }

def collected : System := (machine comparing).run {} sale

/-- The money of the sale, reported as an event of its own or with another amount. -/
def reported (amount : String) : Values :=
  [("out_trade_no", "M0"), ("amount_minor", amount)]

theorem callbacks_replay_sale :
    (∃ r db', Ran (applyPaidCallback comparing "mock" "again" (reported "500") (freshRefund 1) 1 0)
        collected.db r db' ∧ r.2 = true ∧ db'.orders = collected.db.orders ∧
      db'.refunds = collected.db.refunds ∧ db'.businessOutbox = collected.db.businessOutbox ∧
      db'.payments.view (·.status) 0 = some .paid) ∧
    (∃ failure, (machine comparing).next collected
      (.callback "mock" "paid" (reported "600") (freshRefund 1) 1 0) =
        (collected, .raised failure)) ∧
    (machine comparing).total (enqueued comparing fun e => e.orderId = 0) {}
        (sale ++ sale.drop 4) ≤ 1 ∧
      (machine comparing).total (enqueued comparing fun e => e.paymentId = 0) {}
        (sale ++ sale.drop 4) ≤ 1 := by
  obtain ⟨replayed, refused, -, -⟩ := @callbacks_replay comparing sale
  obtain ⟨-, -, once, oncePaid⟩ := @callbacks_replay comparing (sale ++ sale.drop 4)
  refine ⟨?_, ?_, once 0, oncePaid 0⟩
  · obtain ⟨payment, found, paid⟩ := (Option.any_eq_true (fun p : Payment => p.status = .paid)
      (collected.db.payments.find? 0)).mp (by decide +kernel)
    have paid : payment.status = .paid := by simpa using paid
    have key : payment.id = 0 := Table.key_of_find? found
    obtain ⟨r, answered⟩ := Option.isSome_iff_exists.mp
      (show ((applyPaidCallback comparing "mock" "again" (reported "500") (freshRefund 1) 1 0
        collected.db).toOption.map Prod.fst).isSome by decide +kernel)
    obtain ⟨duplicate, orders, refunds, events, payment', found', same⟩ :=
      replayed "mock" "again" (reported "500") (freshRefund 1) 1 0 r _ payment
        (by rw [key]; decide +kernel) (key ▸ found) (by rw [paid]; decide) (ran_leave answered)
    refine ⟨r, _, ran_leave answered, duplicate, orders, refunds, events, ?_⟩
    exact (Table.view_eq_some _).mpr ⟨payment', key ▸ found', same.trans paid⟩
  · obtain ⟨existing, row, other⟩ := (Option.any_eq_true
      (fun c : CallbackInbox => c.payloadDigest ≠ (reported "600").digest comparing)
      (collected.db.callbackInbox.find? ("mock", "paid"))).mp (by decide +kernel)
    exact refused "mock" "paid" (reported "600") (freshRefund 1) 1 0 existing row (by simpa using other)

end System
end CoffeeCloud
