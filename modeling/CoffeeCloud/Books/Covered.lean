import CoffeeCloud.Books.Primary

/-!
The money of dead orders: when a payment that has received money first has a
dead order, all of it is reserved for refunds, and whatever becomes of these,
refunds of its whole amount have been asked for.
-/
namespace CoffeeCloud
open Library

/-- An order that ended without a drink, or whose money went back after that. -/
def OrderStatus.Over (s : OrderStatus) : Prop := s.Dead ∨ s = .refunded

instance (s : OrderStatus) : Decidable s.Over := inferInstanceAs (Decidable (_ ∨ _))

theorem Edge.finished {s t : OrderStatus} (h : Edge s t) (finished : s.Over) : t.Over := by
  revert h finished
  cases s <;> cases t <;> decide

namespace Books
variable {b c : Books} {automatic : String → Prop} {x : Posting} {p q i : Nat} {pe : PaymentEntry}
  {oe : OrderEntry}

/-- The payment has received money, and its order is dead. -/
def Owed (b : Books) (p : Nat) : Prop :=
  ∃ pe oe, b.payments p = some pe ∧ pe.status.Received ∧ b.orders pe.order = some oe ∧ oe.status.Dead

/-- The services refund on their own account only for orders that are over. -/
def Answered (automatic : String → Prop) (b : Books) : Prop :=
  ∀ r e, b.refunds r = some e → automatic e.key → ∃ pe oe, b.payments e.payment = some pe ∧
    b.orders pe.order = some oe ∧ oe.status.Over

/-- A refund that is asked for by hand bears no key of the services' own. -/
def Manual (automatic : String → Prop) (x : Posting) : Prop :=
  ∀ o r, x = .request o r → ¬ automatic r.key

/-- A refund was there before, or the posting enters it. -/
theorem refund_origin {k : Nat} {e : RefundEntry} (he : (post x b).refunds k = some e) :
    (∃ e₀, b.refunds k = some e₀ ∧ e₀.payment = e.payment ∧ e₀.key = e.key) ∨
      ∃ o n, (x = .payBack o n ∨ x = .request o n ∨ ∃ s, x = .die o s (some n)) ∧
        e.payment = n.payment ∧ e.key = n.key := by
  have entered {n : Entered} (he : put b.refunds n.refund ⟨n.payment, n.amount, .requested, n.key⟩ k
      = some e) : (∃ e₀, b.refunds k = some e₀ ∧ e₀.payment = e.payment ∧ e₀.key = e.key) ∨
        e.payment = n.payment ∧ e.key = n.key := by
    rw [put_apply] at he
    split at he
    · cases he
      exact .inr ⟨rfl, rfl⟩
    · exact .inl ⟨e, he, rfl, rfl⟩
  have moved {r : Nat} {status : RefundStatus}
      (he : adjust b.refunds r (fun e => { e with status }) k = some e) :
      ∃ e₀, b.refunds k = some e₀ ∧ e₀.payment = e.payment ∧ e₀.key = e.key := by
    obtain ⟨e₀, he₀, rfl⟩ := adjust_some_iff.mp he
    refine ⟨e₀, he₀, ?_⟩
    split <;> exact ⟨rfl, rfl⟩
  cases x with
  | payBack o n => exact (entered he).imp_right fun new => ⟨o, n, .inl rfl, new⟩
  | request o n => exact (entered he).imp_right fun new => ⟨o, n, .inr (.inl rfl), new⟩
  | die o s r =>
      cases r with
      | none => exact .inl ⟨e, he, rfl, rfl⟩
      | some n => exact (entered he).imp_right fun new => ⟨o, n, .inr (.inr ⟨s, rfl⟩), new⟩
  | advance | settle => exact .inl (moved he)
  | _ => exact .inl ⟨e, he, rfl, rfl⟩

/-- The one payment of an order is its primary one once it has received money. -/
theorem Lone.primary (h : b.Lone) (sound : b.Sound) (hp : b.payments p = some pe)
    (received : pe.status.Received) (ho : b.orders pe.order = some oe) : oe.primary = some p := by
  obtain ⟨oe', ho', claimed⟩ := sound.received p pe hp received
  cases ho.symm.trans ho'
  obtain ⟨q, primary⟩ := Option.isSome_iff_exists.mp claimed
  obtain ⟨qe, hq, mine, -⟩ := sound.primary _ oe q ho primary
  rw [primary, h.one q p qe pe hq hp mine]

theorem Answered.post (h : b.Answered automatic) (sound : b.Sound) (lone : b.Lone)
    (hok : ok automatic b x) (manual : Manual automatic x) : (post x b).Answered automatic := by
  intro r e he own
  have finished {q : Nat} (before : ∃ pe oe, b.payments q = some pe ∧ b.orders pe.order = some oe ∧
      (oe.status.Over ∨ ∃ s n, x = .die pe.order s (some n))) :
      ∃ pe oe, (Books.post x b).payments q = some pe ∧ (Books.post x b).orders pe.order = some oe ∧
        oe.status.Over := by
    obtain ⟨pe, oe, hp, ho, why⟩ := before
    obtain ⟨pe', hp', mine, -⟩ := post_payment hok hp
    obtain ⟨oe', ho', edge⟩ := post_order hok ho
    refine ⟨pe', oe', hp', mine ▸ ho', ?_⟩
    rcases why with finished | ⟨s, n, rfl⟩
    · exact edge.finished finished
    · obtain ⟨-, -, -, -, dead, -⟩ := hok
      obtain ⟨old, -, rfl⟩ := adjust_some_iff.mp ho'
      rw [if_pos rfl]
      exact .inl dead
  rcases refund_origin he with ⟨e₀, he₀, payment, key⟩ | ⟨o, n, kind, payment, key⟩
  · obtain ⟨pe, oe, hp, ho, before⟩ := h r e₀ he₀ (key ▸ own)
    exact finished ⟨pe, oe, payment ▸ hp, ho, .inl before⟩
  · rw [payment]
    refine finished ?_
    rcases kind with rfl | rfl | ⟨s, rfl⟩
    · obtain ⟨pe, oe, hp, mine, new, -, -, ho, why⟩ := hok
      refine ⟨pe, oe, hp, mine ▸ ho, .inl ?_⟩
      rcases why with dead | other
      · exact .inl dead
      · obtain ⟨q, primary⟩ := Option.isSome_iff_exists.mp (Option.isSome_of_any other)
        obtain ⟨qe, hq, owner, -⟩ := sound.primary o oe q ho primary
        have same := lone.one q n.payment qe pe hq hp (owner.trans mine.symm)
        simp [primary, same] at other
    · exact absurd (key ▸ own) (manual o n rfl)
    · obtain ⟨oe, pe, ho, -, -, fits, -⟩ := hok
      exact ⟨pe, oe, fits.payment, fits.order ▸ ho, .inr ⟨s, n, by rw [fits.order]⟩⟩

section Sums

/-- What is asked for of a payment is never taken back. -/
theorem total_post (sound : b.Sound) (hok : ok automatic b x) :
    (b.balance p).total ≤ ((post x b).balance p).total := by
  have entered {r : Entered} {b' : Books} (o : Nat) (same : b'.balance = b.balance)
      (positive : 0 < r.amount) :
      (b.balance p).total ≤ ((enter o r b').balance p).total := by
    simp only [enter, same]
    split
    · rw [Balance.total_reserve]
      omega
    · exact Int.le_refl _
  cases x with
  | payBack o r =>
      obtain ⟨pe, -, hp, -, -, amount, -⟩ := hok
      exact entered o rfl (amount ▸ sound.positive _ pe hp)
  | request o r =>
      obtain ⟨pe, fits⟩ := hok
      exact entered o rfl fits.positive
  | die o s r =>
      cases r with
      | none => exact Int.le_refl _
      | some r =>
          obtain ⟨-, pe, -, -, -, fits, -⟩ := hok
          exact entered o rfl fits.positive
  | settle r q o amount status =>
      change _ ≤ (if p = q then outcome status amount (b.balance p) else b.balance p).total
      split
      · rw [outcome]
        split
        · exact Int.le_of_eq Balance.total_spend.symm
        · exact Int.le_of_eq Balance.total_release.symm
      · exact Int.le_refl _
  | _ => exact Int.le_refl _

/-- Only the outcome of a refund gives back what was reserved. -/
theorem reserved_post (sound : b.Sound) (hok : ok automatic b x)
    (other : ∀ r p o amount status, x ≠ .settle r p o amount status) :
    (b.balance p).reserved ≤ ((post x b).balance p).reserved := by
  have entered {r : Entered} {b' : Books} (o : Nat) (same : b'.balance = b.balance)
      (positive : 0 < r.amount) :
      (b.balance p).reserved ≤ ((enter o r b').balance p).reserved := by
    simp only [enter, same]
    split
    · simp only [Balance.reserve, Balance.reserved]
      omega
    · exact Int.le_refl _
  cases x with
  | payBack o r =>
      obtain ⟨pe, -, hp, -, -, amount, -⟩ := hok
      exact entered o rfl (amount ▸ sound.positive _ pe hp)
  | request o r =>
      obtain ⟨pe, fits⟩ := hok
      exact entered o rfl fits.positive
  | die o s r =>
      cases r with
      | none => exact Int.le_refl _
      | some r =>
          obtain ⟨-, pe, -, -, -, fits, -⟩ := hok
          exact entered o rfl fits.positive
  | settle r q o amount status => exact absurd rfl (other r q o amount status)
  | _ => exact Int.le_refl _

end Sums

/-- Neither the money nor the death of the order is new. -/
theorem Owed.back (owed : c.Owed p) (sound : b.Sound)
    (payments : ∀ pe', c.payments p = some pe' → pe'.status.Received →
      ∃ pe, b.payments p = some pe ∧ pe.order = pe'.order ∧ pe.status.Received)
    (orders : ∀ o oe', c.orders o = some oe' → oe'.status.Dead →
      ∀ oe, b.orders o = some oe → oe.primary.isSome → oe.status.Dead) : b.Owed p := by
  obtain ⟨pe', oe', hp, received, ho, dead⟩ := owed
  obtain ⟨pe, hp, same, received⟩ := payments pe' hp received
  obtain ⟨oe, ho', claimed⟩ := sound.received p pe hp received
  exact ⟨pe, oe, hp, received, ho', orders _ oe' ho dead oe (same ▸ ho') claimed⟩

/-- A payment and an order are rewritten, neither into anything owed. -/
theorem Owed.rewrite (owed : c.Owed p) (sound : b.Sound) {f : PaymentEntry → PaymentEntry}
    {g : OrderEntry → OrderEntry} (payments : c.payments = adjust b.payments q f)
    (orders : c.orders = adjust b.orders i g) (mine : ∀ pe : PaymentEntry, (f pe).order = pe.order)
    (old : p = q → ∀ pe, b.payments q = some pe → (f pe).status.Received → pe.status.Received)
    (alive : ∀ oe, b.orders i = some oe → oe.primary.isSome → (g oe).status.Dead → oe.status.Dead) :
    b.Owed p := by
  refine owed.back sound (fun pe' hp received => ?_) fun o oe' ho dead oe ho' claimed => ?_
  · rw [payments, adjust_some_iff] at hp
    obtain ⟨pe, hp, rfl⟩ := hp
    refine ⟨pe, hp, ?_⟩
    split at received
    · rename_i here
      rw [if_pos here]
      exact ⟨(mine pe).symm, old here pe (here ▸ hp) received⟩
    · rename_i apart
      rw [if_neg apart]
      exact ⟨rfl, received⟩
  · rw [orders, adjust_some_iff] at ho
    obtain ⟨old, ho, rfl⟩ := ho
    cases ho'.symm.trans ho
    split at dead
    · rename_i here
      exact alive oe (here ▸ ho) claimed dead
    · exact dead

theorem received_of_refundable {s : PaymentStatus} (h : s ∈ refundablePaymentStatuses) : s.Received := by
  revert h
  cases s <;> decide

/-- A payment that has received money and may not be refunded any more is all spent. -/
theorem Sound.covered (sound : b.Sound) (hp : b.payments p = some pe) (received : pe.status.Received)
    (finished : pe.status ∉ refundablePaymentStatuses) : (b.balance p).reserved = pe.amount := by
  refine (sound.within p pe hp).covered_of_full ?_
  have status := sound.status p pe hp received
  rw [status] at finished
  revert finished
  cases (b.balance p).phase pe.amount <;> simp [settled, refundablePaymentStatuses]

/-- Where an order dies without a refund, its money is on its way back or was never there. -/
theorem Excused.covered (sound : b.Sound) (lone : b.Lone) (projected : b.Projected)
    (answered : b.Answered automatic) (ho : b.orders pe.order = some oe)
    (alive : ¬ oe.status.Over) (excused : b.Excused automatic oe) (hp : b.payments p = some pe)
    (received : pe.status.Received) : (b.balance p).reserved = pe.amount := by
  have primary := lone.primary sound hp received ho
  rcases excused with unpaid | finished | none | ⟨q, qe, primary', hq, why⟩
  · exact absurd unpaid (sound.started _ oe ho (by simp [primary]))
  · rw [projected _ oe p pe ho primary hp] at finished
    exact sound.covered hp received finished
  · simp [none] at primary
  · cases primary.symm.trans primary'
    cases hp.symm.trans hq
    rcases why with finished | all | ⟨r, re, hr, same, own⟩
    · exact sound.covered hp received finished
    · have within := (sound.within p pe hp).reserved
      omega
    · obtain ⟨pe', oe', hp', ho', finished⟩ := answered r re hr own
      rw [same, hp] at hp'
      cases hp'
      cases ho.symm.trans ho'
      exact absurd finished alive

theorem not_over_of_dies : ∀ s t : OrderStatus, t ∈ orderTransitions s → t.Dead → ¬ s.Over := by
  intro s t
  cases s <;> cases t <;> decide

/-- Where money is owed that was not owed before, all of it is reserved. -/
theorem Owed.of_post (owed : (post x b).Owed p) (sound : b.Sound) (lone : b.Lone)
    (projected : b.Projected) (answered : b.Answered automatic) (hok : ok automatic b x) :
    b.Owed p ∨ (∀ r q o amount status, x ≠ .settle r q o amount status) ∧
      ∃ pe, (post x b).payments p = some pe ∧ ((post x b).balance p).reserved = pe.amount := by
  cases x with
  | openOrder o status payment =>
      obtain ⟨new, start⟩ := hok
      refine .inl (owed.back sound (fun pe hp received => ⟨pe, hp, rfl, received⟩) ?_)
      intro k oe' hk dead oe ho _
      have apart : k ≠ o := by
        rintro rfl
        simp [new] at ho
      cases ho.symm.trans ((put_of_ne apart).symm.trans hk)
      exact dead
  | openPayment q o amount =>
      refine .inl (owed.back sound (fun pe' hp received => ?_) fun k oe' hk dead oe ho _ => ?_)
      · simp only [Books.post, put_apply] at hp
        split at hp
        · cases hp
          exact absurd received (by decide : ¬ PaymentStatus.created.Received)
        · exact ⟨pe', hp, rfl, received⟩
      · obtain ⟨old, there, rfl⟩ := adjust_some_iff.mp hk
        cases ho.symm.trans there
        split at dead
        · exact absurd dead (by decide : ¬ OrderStatus.awaitingPayment.Dead)
        · exact dead
  | pend q =>
      refine .inl (owed.rewrite (g := fun e => e) sound rfl (adjust_id _ 0).symm (fun _ => rfl) ?_
        fun _ _ _ => id)
      exact fun _ _ _ received => absurd received (by decide : ¬ PaymentStatus.pending.Received)
  | close q o =>
      refine .inl (owed.rewrite (g := fun e => e) sound rfl (adjust_id _ 0).symm (fun _ => rfl) ?_
        fun _ _ _ => id)
      exact fun _ _ _ received => absurd received (by decide : ¬ PaymentStatus.closed.Received)
  | closeProjection o =>
      exact .inl (owed.rewrite (f := fun e => e) sound (adjust_id _ 0).symm rfl (fun _ => rfl)
        (fun _ _ _ => id) fun _ _ _ => id)
  | reconcile q o target =>
      obtain ⟨e, hq, -, isOpen, closing⟩ := hok
      refine .inl (owed.rewrite sound rfl rfl (fun _ => rfl) ?_ fun oe ho claimed dead => ?_)
      · intro _ _ _ (received : target.Received)
        have ends : target = .closed ∨ target = .failed := by simpa using closing
        rcases ends with rfl | rfl <;> exact absurd received (by decide)
      · change (if oe.status.Unpaid then OrderStatus.cancelled else oe.status).Dead at dead
        rwa [if_neg (sound.started o oe ho claimed)] at dead
  | receive q o e =>
      obtain ⟨pe, oe, hq, mine, new, ho, living, -⟩ := hok
      have stays : ¬ (if oe.status.Unpaid then OrderStatus.paid else oe.status).Dead := by
        split
        · decide
        · exact living
      refine .inl (owed.rewrite sound rfl rfl (fun _ => rfl) ?_ fun oe' ho' _ dead => ?_)
      · rintro rfl qe hq' -
        -- The order that receives this money lives on.
        obtain ⟨pe', oe', hp', -, ho', dead⟩ := owed
        simp only [Books.post, adjust_some_iff] at hp' ho'
        obtain ⟨old, there, rfl⟩ := hp'
        cases hq.symm.trans there
        obtain ⟨old, there', rfl⟩ := ho'
        simp only [if_true, mine] at there' dead
        cases ho.symm.trans there'
        exact absurd dead stays
      · cases ho.symm.trans ho'
        exact absurd dead stays
  | payBack o r =>
      obtain ⟨pe, oe, hp, mine, new, amount, -, ho, why⟩ := hok
      by_cases here : p = r.payment
      · subst here
        have zero := sound.untouched r.payment fun e he => by cases hp.symm.trans he; exact new
        refine .inr ⟨by simp, { pe with status := .refunding }, by simp [Books.post, enter, adjust, hp],
          ?_⟩
        simp [Books.post, enter, zero, Balance.reserve, Balance.reserved, amount]
      · refine .inl (owed.rewrite (g := fun e => project r.payment .refunding (claim r.payment e))
          sound rfl (adjust_adjust _ _ _ _) (fun _ => rfl) (fun same => absurd same here) ?_)
        intro oe _ _ dead
        rwa [project_status] at dead
  | request o r =>
      obtain ⟨pe, fits⟩ := hok
      refine .inl (owed.rewrite sound rfl rfl (fun _ => rfl) ?_ fun oe _ _ dead => ?_)
      · rintro rfl pe' hp -
        cases fits.payment.symm.trans hp
        exact received_of_refundable fits.refundable
      · rwa [project_status] at dead
  | advance r status => exact .inl owed
  | settle r q o amount status =>
      obtain ⟨e, pe, hr, payment, -, -, -, hq, -⟩ := hok
      refine .inl (owed.rewrite sound rfl rfl (fun _ => rfl) ?_ fun oe _ _ dead => ?_)
      · rintro rfl pe' hp -
        cases hq.symm.trans hp
        obtain ⟨pe', hp', received⟩ := sound.refundReceived r e hr
        rw [payment, hq] at hp'
        cases hp'
        exact received
      · rw [projectSettled] at dead
        split at dead
        · change (if _ then _ else _ : OrderStatus).Dead at dead
          split at dead
          · exact absurd dead (by decide)
          · exact dead
        · exact dead
  | move o status =>
      obtain ⟨e, -, -, onward⟩ := hok
      refine .inl (owed.rewrite (f := fun e => e) sound (adjust_id _ 0).symm rfl (fun _ => rfl)
        (fun _ _ _ => id) fun oe _ _ (dead : status.Dead) => ?_)
      have alive : ∀ s ∈ [OrderStatus.queued, .dispatched, .accepted, .making, .ready, .hold],
          ¬ s.Dead := by decide
      exact absurd dead (alive status onward)
  | die o status r =>
      cases r with
      | none =>
          obtain ⟨oe, ho, legal, dead, excused⟩ := hok
          obtain ⟨pe, oe', hp, received, ho', dead'⟩ := owed
          by_cases here : pe.order = o
          · refine .inr ⟨by simp, pe, hp, ?_⟩
            subst here
            have hp : b.payments p = some pe := hp
            change (b.balance p).reserved = pe.amount
            exact excused.covered sound lone projected answered ho
              (not_over_of_dies _ _ legal dead) hp received
          · exact .inl ⟨pe, oe', hp, received, (adjust_of_ne here).symm.trans ho', dead'⟩
      | some r =>
          obtain ⟨oe, pe, ho, legal, dead, fits, amount⟩ := hok
          obtain ⟨pe', oe', hp, received, ho', dead'⟩ := owed
          by_cases here : p = r.payment
          · subst here
            refine .inr ⟨by simp, pe', hp, ?_⟩
            obtain ⟨old, there, rfl⟩ := adjust_some_iff.mp hp
            cases fits.payment.symm.trans there
            simp only [Books.post, setStatus, enter, if_true, Balance.reserve, Balance.reserved] at *
            omega
          · obtain ⟨old, there, rfl⟩ := adjust_some_iff.mp hp
            rw [if_neg here] at received ho'
            have apart : old.order ≠ o := fun same =>
              here (lone.one p r.payment old pe there fits.payment (same.trans fits.order.symm))
            refine .inl ⟨old, oe', there, received, ?_, dead'⟩
            exact (adjust_of_ne apart).symm.trans ((adjust_of_ne apart).symm.trans ho')
  | process e o queued =>
      cases queued with
      | false => exact .inl owed
      | true =>
          exact .inl (owed.rewrite (f := fun e => e) sound (adjust_id _ 0).symm rfl (fun _ => rfl)
            (fun _ _ _ => id) fun oe _ _ dead =>
              absurd dead (by decide : ¬ OrderStatus.queued.Dead))
  | purge e => exact .inl owed

end Books
end CoffeeCloud
